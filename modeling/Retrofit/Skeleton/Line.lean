import Retrofit.Project.Basic
import Retrofit.Target.Conventions

/-! Lines of source text with their depth of indentation, and the comments that skeletons put into
them. -/
namespace Retrofit.Skeleton

inductive Line where
  /-- An empty line, which is not indented. -/
  | blank
  | code (depth : Nat) (text : String)
  deriving DecidableEq

def line (text : String) : Line := .code 0 text

/-- One step further in. -/
def Line.deeper : Line → Line
  | .blank => .blank
  | .code depth text => .code (depth + 1) text

def inside (lines : List Line) : List Line := lines.map Line.deeper

def step : Target → List Char
  | .javaScript => [' ', ' ']
  | _ => [' ', ' ', ' ', ' ']

def Line.chars (t : Target) : Line → List Char
  | .blank => ['\n']
  | .code depth text => (List.replicate depth (step t)).flatten ++ text.toList ++ ['\n']

def render (t : Target) (lines : List Line) : String :=
  String.ofList (lines.flatMap (·.chars t))

/-- A comment never leaves its line, whatever the text is. -/
def comment (t : Target) (text : String) : Line :=
  line s!"{t.conventions.lineComment} {Text.oneLine text}"

/-- A comment behind code, or nothing if there is nothing to say. -/
def remark (t : Target) : Option String → String
  | some d => if Text.isBlank d then "" else s!"  {t.conventions.lineComment} {Text.oneLine d}"
  | none => ""

/-- A remark that also names the type, for languages without types. -/
def typeRemark (t : Target) (p : Parameter) : String :=
  match p.description with
  | some d =>
    if Text.isBlank d then s!"  {t.conventions.lineComment} {p.type}"
    else s!"  {t.conventions.lineComment} {p.type}: {Text.oneLine d}"
  | none => s!"  {t.conventions.lineComment} {p.type}"

def stub (t : Target) (f : Function) : List Line :=
  (f.businessLogic.toList.map fun logic => comment t s!"Logic: {logic}") ++
    [comment t "TODO: Implement"]

/-- What is said about a module before its declaration. -/
def preamble (t : Target) (p : Project) (m : Module) : List Line :=
  [comment t m.description,
    comment t s!"Original: {p.legacyName}",
    comment t s!"Suggested: {p.modernName}"]

/-- The lines, and an empty line behind them if there are any. -/
def spaced (lines : List Line) : List Line :=
  if lines.isEmpty then [] else lines ++ [.blank]

end Retrofit.Skeleton
