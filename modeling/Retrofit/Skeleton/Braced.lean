import Retrofit.Skeleton.Line

/-! Skeletons in languages with braces: Java, JavaScript, and a neutral notation for all others. -/
namespace Retrofit.Skeleton

/-- A header, a body in braces, and the brace that closes it. -/
def block (header : String) (body : List Line) : List Line :=
  line (header ++ " \x7b") :: inside body ++ [line "\x7d"]

/-! Java -/

def javaKeyword : ModuleKind → String
  | .concreteClass => "public class"
  | .abstractClass => "public abstract class"
  | .interface => "public interface"
  | .module => "public final class"

def javaParams (inputs : List Parameter) : String :=
  Text.join ", " (inputs.map fun i => s!"{i.type} {i.name}")

/-- The type of the first output. -/
def javaReturn (f : Function) : String :=
  match f.outputs with
  | o :: _ => o.type
  | [] => "void"

def javaSignature (f : Function) : String :=
  javaReturn f ++ " " ++ f.name ++ "(" ++ javaParams f.inputs ++ ")"

def javaModifiers (f : Function) : String :=
  if f.modifiers.isEmpty then "public" else Text.join " " f.modifiers

/-- An interface only declares its functions. -/
def javaFunction (declared : Bool) (f : Function) : List Line :=
  comment .java f.description ::
    (if declared then stub .java f ++ [line (javaSignature f ++ ";")]
      else block (javaModifiers f ++ " " ++ javaSignature f)
        (stub .java f ++ if javaReturn f = "void" then [] else [line "return null;"])) ++
    [.blank]

def javaAttribute (declared : Bool) (a : Parameter) : Line :=
  let visibility := if declared then "" else "private "
  line s!"{visibility}{a.type} {a.name};{remark .java a.description}"

def javaModule (p : Project) (m : Module) : List Line :=
  let declared : Bool := m.kind = .interface
  preamble .java p m ++
    line (javaKeyword m.kind ++ " " ++ m.name ++ " \x7b") :: .blank ::
    inside (spaced (m.attributes.map (javaAttribute declared)) ++
      m.functions.flatMap (javaFunction declared)) ++
    [line "\x7d"]

/-! JavaScript -/

def scriptParams (inputs : List Parameter) : String :=
  Text.join ", " (inputs.map (·.name))

def scriptFunction (keyword : String) (f : Function) : List Line :=
  comment .javaScript f.description ::
    block (keyword ++ f.name ++ "(" ++ scriptParams f.inputs ++ ")") (stub .javaScript f) ++ [.blank]

def scriptAttribute (owner : String) (a : Parameter) : Line :=
  line s!"{owner}{a.name} = null;{typeRemark .javaScript a}"

def scriptConstructor (m : Module) : List Line :=
  if m.attributes.isEmpty then []
  else block "constructor()" (m.attributes.map (scriptAttribute "this.")) ++ [.blank]

def scriptModule (p : Project) (m : Module) : List Line :=
  preamble .javaScript p m ++ .blank ::
    if m.kind = .module then
      spaced (m.attributes.map (scriptAttribute "let ")) ++
        m.functions.flatMap (scriptFunction "function ")
    else
      block s!"class {m.name}" (scriptConstructor m ++ m.functions.flatMap (scriptFunction ""))

/-! The neutral notation -/

def neutralParams (inputs : List Parameter) : String :=
  Text.join ", " (inputs.map fun i => s!"{i.name}: {i.type}")

def neutralReturn (f : Function) : String :=
  match f.outputs with
  | o :: _ => s!" -> {o.type}"
  | [] => ""

def neutralFunction (f : Function) : List Line :=
  comment .generic f.description ::
    block ("function " ++ f.name ++ "(" ++ neutralParams f.inputs ++ ")" ++ neutralReturn f)
      (stub .generic f)

def neutralAttribute (a : Parameter) : Line :=
  line s!"field {a.name}: {a.type}{remark .generic a.description}"

def neutralModule (p : Project) (m : Module) : List Line :=
  preamble .generic p m ++
    block s!"{m.kind.tag} {m.name}"
      (m.attributes.map neutralAttribute ++ m.functions.flatMap neutralFunction)

end Retrofit.Skeleton
