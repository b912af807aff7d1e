import Retrofit.Run.Batch

/-! Where the artifacts of a file go. Each file has a directory of its own, the base, which no other file
of the batch has; below it, every artifact has a fixed place. -/
namespace Retrofit.Layout

def defaultFolder : String := "output"

def isSeparator (c : Char) : Bool := c == '/' || c == '\\'

def isUsable (part : List Char) : Bool :=
  part ≠ [] && part ≠ ['.'] && part ≠ ['.', '.']

/-- The last part of a file name that can name a file, since a name may come from the model. -/
def safeName (name : String) : String :=
  match (Chars.splitWhere isSeparator name.toList).reverse.find? isUsable with
  | some part => String.ofList part
  | none => Modernization.defaultName

/-- The characters before and behind the last dot. -/
def splitLastDot : List Char → Option (List Char × List Char)
  | [] => none
  | c :: cs =>
    match splitLastDot cs with
    | some (before, after) => some (c :: before, after)
    | none => if c = '.' then some ([], cs) else none

/-- A file name up to its last dot, and its extension. A dot in front makes no extension. -/
def stemAndExtension (name : String) : String × Option String :=
  if name = ".." then (name, none)
  else
    match splitLastDot name.toList with
    | some (c :: before, after) => (String.ofList (c :: before), some (String.ofList after))
    | _ => (name, none)

/-- The base that a file gets if no other has it. -/
def firstBase (s : Source) : String :=
  s!"{s.folder.getD defaultFolder}/{(stemAndExtension (safeName s.filename)).1}"

/-- The base with the extension, if the file has one. -/
def secondBase (s : Source) : String :=
  match (stemAndExtension (safeName s.filename)).2 with
  | some extension => s!"{firstBase s}_{extension}"
  | none => firstBase s

def numberedBase (s : Source) (n : Nat) : String := s!"{firstBase s}_{n}"

/-- The first free one of so many numbered bases, from number `n` on. -/
def numberedFrom (s : Source) (taken : List String) : (names n : Nat) → Option String
  | 0, _ => none
  | names + 1, n =>
    if numberedBase s n ∈ taken then numberedFrom s taken names (n + 1)
    else some (numberedBase s n)

/-- The first base that is free: the plain one, the one with the extension, and then so many numbered ones
from 2 on. -/
def freeBase (names : Nat) (s : Source) (taken : List String) : Option String :=
  if firstBase s ∉ taken then some (firstBase s)
  else if secondBase s ∉ taken then some (secondBase s)
  else numberedFrom s taken names 2

/-- How many numbers are tried. The counter is a signed word of 32 bits that stands one ahead of the number
in question, and raising it past its bound is the end of the program. -/
def numbersTried : Nat := 2147483645

/-- The base that a file gets before the counter is at its bound. -/
def uniqueBase? (s : Source) (taken : List String) : Option String :=
  freeBase numbersTried s taken

/-- The base that a file gets, also if it takes a larger counter to find it: one of so many numbers must be
free. -/
def uniqueBase (s : Source) (taken : List String) : String :=
  match uniqueBase? s taken with
  | some base => base
  | none => (freeBase (taken.length + 1) s taken).getD (firstBase s)

/-- The base of a file, with the bases that are taken from then on. -/
def takeBase (s : Source) (taken : List String) : String × List String :=
  let base := uniqueBase s taken
  (base, base :: taken)

/-- Puts content at a path of a list that is sorted by path. -/
def put (path content : String) : List (String × String) → List (String × String)
  | [] => [(path, content)]
  | (p, c) :: rest =>
    if path = p then (path, content) :: rest
    else if path < p then (path, content) :: (p, c) :: rest
    else (p, c) :: put path content rest

/-- The places of all artifacts, before they are sorted. -/
def entries (base : String) (s : Source) (a : Artifacts) : List (String × String) :=
  (s!"{base}/modernized/{safeName a.modernization.filename}", a.modernization.code) ::
    a.documents.map (fun d => (s!"{base}/docs/{d.name}", d.content)) ++
    [(s!"{base}/skeleton/{safeName s.filename}", a.skeleton),
      (s!"{base}/analysis/ir.json", a.project.pretty),
      (s!"{base}/analysis/ANALYSIS.md", a.inspection)]

/-- Path and content of all artifacts, in the order of the paths. -/
def files (base : String) (s : Source) (a : Artifacts) : List (String × String) :=
  (entries base s a).foldl (fun placed (path, content) => put path content placed) []

end Retrofit.Layout
