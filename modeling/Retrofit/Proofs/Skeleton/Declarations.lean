import Mathlib.Data.List.Basic
import Retrofit.Proofs.Skeleton.Lines

/-! The code of declarations in the languages with braces: what is left of their lines without the
comments. -/
namespace Retrofit.Skeleton

section Blind

variable {α β : Type} (change : α → α)

/-- What a function does not look at may be changed beforehand. -/
theorem map_blind {f : α → β} (blind : ∀ x, f (change x) = f x) (xs : List α) :
    (xs.map change).map f = xs.map f := by
  rw [List.map_map]
  exact List.map_congr_left fun x _ => blind x

theorem flatMap_blind {f : α → List β} (blind : ∀ x, f (change x) = f x) (xs : List α) :
    (xs.map change).flatMap f = xs.flatMap f := by
  rw [List.flatMap_map]
  exact List.flatMap_congr fun x _ => blind x

end Blind

variable (b : LineBreaks) (depth : Nat)

/-! Java -/

/-- A function without what is said about it. -/
def javaDeclaration (declared : Bool) (f : Function) : List Line :=
  if declared then [line (javaSignature f ++ ";")]
  else block (javaModifiers f ++ " " ++ javaSignature f)
    (if javaReturn f = "void" then [] else [line "return null;"])

def javaField (declared : Bool) (a : Parameter) : Line :=
  line ((if declared then "" else "private ") ++ a.type ++ " " ++ a.name ++ ";")

theorem javaFunction_kept (declared : Bool) (f : Function) :
    codeOf b .java depth (javaFunction declared f) =
      codeOf b .java depth (javaDeclaration declared f) := by
  unfold javaFunction javaDeclaration
  cases declared <;> simp [kept_comment, codeOf_stub]

theorem javaAttribute_kept (declared : Bool) (a : Parameter) :
    (javaAttribute declared a).kept b .java depth = (javaField declared a).kept b .java depth :=
  kept_remark b (by decide) depth _ a.description

theorem javaModule_kept (p : Project) (m : Module) :
    codeOf b .java depth (javaModule p m) =
      codeOf b .java depth (block (javaKeyword m.kind ++ " " ++ m.name)
        (m.attributes.map (javaField (m.kind = .interface)) ++
          m.functions.flatMap (javaDeclaration (m.kind = .interface)))) := by
  unfold javaModule
  simp [codeOf_preamble, codeOf_map, codeOf_flatMap, javaAttribute_kept, javaFunction_kept]

/-! JavaScript -/

def scriptDeclaration (keyword : String) (f : Function) : List Line :=
  block (keyword ++ f.name ++ "(" ++ scriptParams f.inputs ++ ")") []

def scriptField (owner : String) (a : Parameter) : Line :=
  line (owner ++ a.name ++ " = null;")

theorem scriptFunction_kept (keyword : String) (f : Function) :
    codeOf b .javaScript depth (scriptFunction keyword f) =
      codeOf b .javaScript depth (scriptDeclaration keyword f) := by
  unfold scriptFunction scriptDeclaration
  simp [kept_comment, codeOf_stub]

/-- The code of a field, and what its type brings with it on further lines. -/
theorem scriptAttribute_kept (owner : String) (a : Parameter) :
    (scriptAttribute owner a).kept b .javaScript depth =
      (scriptField owner a).kept b .javaScript depth ++ b.leak (typeNote a).toList :=
  kept_typeRemark b (by decide) depth _ a

theorem scriptModule_kept (p : Project) (m : Module) :
    codeOf b .javaScript depth (scriptModule p m) =
      if m.kind = .module then
        codeOf b .javaScript depth (m.attributes.map (scriptAttribute "let ")) ++
          codeOf b .javaScript depth (m.functions.flatMap (scriptDeclaration "function "))
      else
        codeOf b .javaScript depth (block ("class " ++ m.name)
          ((if m.attributes.isEmpty then []
            else block "constructor()" (m.attributes.map (scriptAttribute "this."))) ++
            m.functions.flatMap (scriptDeclaration ""))) := by
  unfold scriptModule scriptConstructor
  split
  · simp [codeOf_preamble, codeOf_flatMap, scriptFunction_kept]
  · cases m.attributes <;>
      simp [codeOf_preamble, codeOf_flatMap, scriptFunction_kept, Text.toString_same]

/-! The neutral notation -/

def neutralDeclaration (f : Function) : List Line :=
  block ("function " ++ f.name ++ "(" ++ neutralParams f.inputs ++ ")" ++ neutralReturn f) []

def neutralField (a : Parameter) : Line :=
  line ("field " ++ a.name ++ ": " ++ a.type)

theorem neutralFunction_kept (f : Function) :
    codeOf b .generic depth (neutralFunction f) = codeOf b .generic depth (neutralDeclaration f) := by
  unfold neutralFunction neutralDeclaration
  simp [kept_comment, codeOf_stub]

theorem neutralAttribute_kept (a : Parameter) :
    (neutralAttribute a).kept b .generic depth = (neutralField a).kept b .generic depth :=
  kept_remark b (by decide) depth _ a.description

theorem neutralModule_kept (p : Project) (m : Module) :
    codeOf b .generic depth (neutralModule p m) =
      codeOf b .generic depth (block (m.kind.tag ++ " " ++ m.name)
        (m.attributes.map neutralField ++ m.functions.flatMap neutralDeclaration)) := by
  unfold neutralModule
  simp [codeOf_preamble, codeOf_map, codeOf_flatMap, neutralAttribute_kept, neutralFunction_kept,
    Text.toString_same]

end Retrofit.Skeleton
