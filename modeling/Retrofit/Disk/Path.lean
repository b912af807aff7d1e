import Retrofit.Text.Blank

/-! Paths as text. Slashes separate the parts; empty parts mean nothing, nor does a dot that is not the
first part of a relative path. -/
namespace Retrofit

inductive Part where
  | here
  | up
  | name (s : String)
  deriving DecidableEq

structure Path where
  absolute : Bool
  parts : List Part
  deriving DecidableEq

namespace Path

def segments (text : String) : List String :=
  (Chars.splitWhere (· == '/') text.toList).map String.ofList

def partsOf : List String → List Part
  | [] => []
  | s :: rest =>
    if s = "" ∨ s = "." then partsOf rest
    else if s = ".." then .up :: partsOf rest
    else .name s :: partsOf rest

def ofText (text : String) : Path :=
  match segments text with
  | "" :: rest => if rest.isEmpty then ⟨false, []⟩ else ⟨true, partsOf rest⟩
  | "." :: rest => ⟨false, .here :: partsOf rest⟩
  | all => ⟨false, partsOf all⟩

def Part.text : Part → String
  | .here => "."
  | .up => ".."
  | .name s => s

def text (p : Path) : String :=
  (if p.absolute then "/" else "") ++ Text.join "/" (p.parts.map Part.text)

/-- The path without its last part. Neither the root nor the empty path has one. -/
def parent? (p : Path) : Option Path :=
  if p.parts.isEmpty then none else some { p with parts := p.parts.dropLast }

def isAbsolute (text : String) : Bool :=
  ['/'].isPrefixOf text.toList

/-- The text of `relative` below `root`. An absolute path takes the place of the root. -/
def join (root relative : String) : String :=
  if isAbsolute relative then relative
  else if root = "" ∨ root.toList.getLast? = some '/' then root ++ relative
  else root ++ "/" ++ relative

end Path

end Retrofit
