import Retrofit.Target.Basic

/-! Templates: text with slots for a file name, a language and its version. A template is cut into pieces
before anything is filled in, so a value that looks like a slot stays as it is. -/
namespace Retrofit.Template

inductive Slot where
  | file
  | language
  | version
  deriving DecidableEq

def Slot.mark : Slot → List Char
  | .file => "\x7bfile\x7d".toList
  | .language => "\x7blanguage\x7d".toList
  | .version => "\x7bversion\x7d".toList

def Slot.all : List Slot := [.file, .language, .version]

inductive Piece where
  | literal (c : Char)
  | slot (s : Slot)
  deriving DecidableEq

/-- The slot that a text begins with. -/
def slotAt? (cs : List Char) : Option Slot :=
  Slot.all.find? fun s => s.mark.isPrefixOf cs

/-- The pieces of a template of which the first characters belong to a slot already found. -/
def piecesAfter : (covered : Nat) → List Char → List Piece
  | _, [] => []
  | n + 1, _ :: cs => piecesAfter n cs
  | 0, c :: cs =>
    match slotAt? (c :: cs) with
    | some s => .slot s :: piecesAfter (s.mark.length - 1) cs
    | none => .literal c :: piecesAfter 0 cs

def pieces (cs : List Char) : List Piece := piecesAfter 0 cs

def Slot.value (filename language : String) : Slot → String
  | .file => filename
  | .language => language
  | .version => Target.version language

def Piece.filled (filename language : String) : Piece → List Char
  | .literal c => [c]
  | .slot s => (s.value filename language).toList

def fill (template filename language : String) : String :=
  String.ofList ((pieces template.toList).flatMap (·.filled filename language))

end Retrofit.Template
