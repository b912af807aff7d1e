import Retrofit.Disk.Host
import Retrofit.Json.Fault

/-! A file system in memory, without links and without permissions. A location is the list of the names
that lead to it from the root. -/
namespace Retrofit

inductive Node where
  | directory
  /-- A file; there is no text in one whose bytes are not UTF-8. -/
  | file (text : Option String)
  deriving DecidableEq

structure Disk where
  /-- Everything below the root. -/
  nodes : List (List String × Node)
  /-- Where relative paths begin. -/
  current : List String

namespace Disk

def at? (d : Disk) (location : List String) : Option Node :=
  if location = [] then some .directory else d.nodes.lookup location

def longestName : Nat := 255

def longestPath : Nat := 4095

def nameBytes (s : String) : Nat := Json.byteCount s.toList

/-- One step of a path, from a location that must be a directory. -/
def step (d : Disk) (location : List String) (segment : String) : Except Refusal (List String) :=
  match d.at? location with
  | none => .error .notFound
  | some (.file _) => .error .notDirectory
  | some .directory =>
    if segment = "" ∨ segment = "." then .ok location
    else if segment = ".." then .ok location.dropLast
    else if longestName < nameBytes segment then .error .nameTooLong
    else if (d.at? (location ++ [segment])).isNone then .error .notFound
    else .ok (location ++ [segment])

def walk (d : Disk) : List String → List String → Except Refusal (List String)
  | location, [] => .ok location
  | location, s :: rest =>
    match d.step location s with
    | .ok next => walk d next rest
    | .error r => .error r

/-- Refuses the paths that are not even looked up. -/
def acceptable (path : String) : Except Refusal Unit :=
  if path.toList.any (· == '\x00') then .error .nulInPath
  else if path = "" then .error .notFound
  else if longestPath < nameBytes path then .error .nameTooLong
  else .ok ()

def start (d : Disk) (path : String) : List String :=
  if Path.isAbsolute path then [] else d.current

def locate (d : Disk) (path : String) : Except Refusal (List String) := do
  acceptable path
  d.walk (d.start path) (Path.segments path)

def readText (d : Disk) (path : String) : Except Refusal String := do
  match d.at? (← d.locate path) with
  | some (.file (some text)) => .ok text
  | some (.file none) => .error .notText
  | some .directory => .error .isDirectory
  | none => .error .notFound

/-- The text at a path that may be none. No name on this disk is anything but text. -/
def readFile (d : Disk) (path : RawPath) : Except Refusal String :=
  match path.text? with
  | some text => d.readText text
  | none => .error .notFound

def isDirectory (d : Disk) (path : String) : Bool :=
  match d.locate path with
  | .ok location => d.at? location == some .directory
  | .error _ => false

/-- The last segment that is not empty, with those before it, and whether a slash follows it. -/
def splitLast (path : String) : Option (List String × String × Bool) :=
  let all := (Path.segments path).reverse
  match all.dropWhile (· == "") with
  | [] => none
  | last :: before => some (before.reverse, last, all.head? == some "")

/-- Where a new entry would go: the directory, the name, and whether a slash follows the name. The name
is missing when the path cannot name a new entry. -/
def newEntry (d : Disk) (path : String) :
    Except Refusal (List String × Option String × Bool) := do
  acceptable path
  match splitLast path with
  | none => return ([], none, true)
  | some (before, last, slash) =>
    let above ← d.walk (d.start path) before
    if d.at? above ≠ some .directory then throw .notDirectory
    if last = "." ∨ last = ".." then return (above, none, slash)
    if longestName < nameBytes last then throw .nameTooLong
    return (above, some last, slash)

def put (d : Disk) (location : List String) (n : Node) : Disk :=
  { d with nodes := (location, n) :: d.nodes.filter (·.1 ≠ location) }

def makeDirectory (d : Disk) (path : String) : Except Refusal Disk := do
  match ← d.newEntry path with
  | (_, none, _) => .error .exists
  | (above, some name, _) =>
    match d.at? (above ++ [name]) with
    | some _ => .error .exists
    | none => .ok (d.put (above ++ [name]) .directory)

def writeText (d : Disk) (path content : String) : Except Refusal Disk := do
  match ← d.newEntry path with
  | (_, none, _) | (_, some _, true) => .error .isDirectory
  | (above, some name, false) =>
    match d.at? (above ++ [name]) with
    | some .directory => .error .isDirectory
    | _ => .ok (d.put (above ++ [name]) (.file (some content)))

/-- Replaces the disk if the operation succeeds. -/
def attempt (f : Disk → Except Refusal Disk) : StateM Disk (Except Refusal Unit) := fun d =>
  match f d with
  | .ok d' => (.ok (), d')
  | .error r => (.error r, d)

/-- The disk as the system of a run. -/
def host : Host (StateM Disk) where
  readText path := fun d => (d.readFile path, d)
  isDirectory path := fun d => (d.isDirectory path, d)
  makeDirectory path := attempt (·.makeDirectory path)
  writeText path content := attempt (·.writeText path content)

end Disk

end Retrofit
