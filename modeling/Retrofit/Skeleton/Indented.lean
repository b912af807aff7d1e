import Retrofit.Skeleton.Line

/-! Skeletons in Python. -/
namespace Retrofit.Skeleton

/-- A quote or a backslash gets a backslash before it. -/
def escapeQuotes (c : Char) : List Char :=
  if c = '\\' then ['\\', '\\'] else if c = '"' then ['\\', '"'] else [c]

/-- Text for the inside of a literal between three quotes. It stays on its line and cannot end the
literal. -/
def docText (text : String) : String :=
  String.ofList ((Text.oneLine text).toList.flatMap escapeQuotes)

def docQuotes : String := "\"\"\""

def docLine (text : String) : Line :=
  line s!"{docQuotes}{docText text}{docQuotes}"

def pythonFunction (method : Bool) (f : Function) : List Line :=
  let params := (if method then ["self"] else []) ++ f.inputs.map (·.name)
  line ("def " ++ f.name ++ "(" ++ Text.join ", " params ++ "):") ::
    inside (docLine f.description :: stub .python f ++ [line "pass"]) ++ [.blank]

def pythonAttribute (owner : String) (a : Parameter) : Line :=
  line s!"{owner}{a.name}: {a.type} = None{remark .python a.description}"

def pythonPreamble (p : Project) (m : Module) : List Line :=
  [line docQuotes,
    line (docText m.description),
    line s!"Original: {docText p.legacyName}",
    line s!"Suggested: {docText p.modernName}",
    line docQuotes,
    .blank]

/-- The header of a class; one that is not concrete is abstract. -/
def pythonClassHeader (m : Module) : List Line :=
  if m.kind = .concreteClass then [line s!"class {m.name}:"]
  else [line "from abc import ABC", .blank, line s!"class {m.name}(ABC):"]

def pythonConstructor (m : Module) : List Line :=
  if m.attributes.isEmpty then []
  else line "def __init__(self):" :: inside (m.attributes.map (pythonAttribute "self.")) ++ [.blank]

def pythonClass (m : Module) : List Line :=
  pythonClassHeader m ++
    inside (docLine m.description :: .blank :: pythonConstructor m ++
      m.functions.flatMap (pythonFunction true))

def pythonModule (p : Project) (m : Module) : List Line :=
  pythonPreamble p m ++
    if m.kind = .module then
      spaced (m.attributes.map (pythonAttribute "")) ++ m.functions.flatMap (pythonFunction false)
    else pythonClass m

end Retrofit.Skeleton
