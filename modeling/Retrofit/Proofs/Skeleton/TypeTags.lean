import Mathlib.Algebra.Ring.Nat
import Retrofit.Proofs.Skeleton.Declarations

/-! JavaScript has no types, so that a skeleton names the type of an attribute in a remark. A type of
several lines takes the remark beyond its line, where it is code; this is the only way in which a type can
change the code. -/
namespace Retrofit

def Parameter.withoutType (a : Parameter) : Parameter :=
  { a with type := "" }

def Function.withoutTypes (f : Function) : Function :=
  { f with
    inputs := f.inputs.map Parameter.withoutType
    outputs := f.outputs.map Parameter.withoutType }

def Module.withoutTypes (m : Module) : Module :=
  { m with
    functions := m.functions.map Function.withoutTypes
    attributes := m.attributes.map Parameter.withoutType }

/-- The project with the same names and texts and no types. -/
def Project.withoutTypes (p : Project) : Project :=
  { p with modules := p.modules.map Module.withoutTypes }

/-- The remark on the attribute has no code on any line behind its first. -/
def Parameter.Sealed (b : LineBreaks) (a : Parameter) : Prop :=
  ∀ line ∈ (Chars.splitWhere b.isBreak (Skeleton.typeNote a).toList).tail, Chars.lineCode line = []

instance (b : LineBreaks) (a : Parameter) : Decidable (a.Sealed b) :=
  inferInstanceAs (Decidable (∀ line ∈
    (Chars.splitWhere b.isBreak (Skeleton.typeNote a).toList).tail, Chars.lineCode line = []))

/-- The list `wide` holds what `narrow` holds, in the same order, and so many elements besides. -/
structure Widened {α : Type} (more : Nat) (narrow wide : List α) : Prop where
  sublist : narrow.Sublist wide
  length : wide.length = narrow.length + more

namespace Widened

variable {α : Type} {m n : Nat} {xs xs' ys ys' : List α}

theorem same (xs : List α) : Widened 0 xs xs :=
  ⟨.refl xs, rfl⟩

theorem behind (xs ys : List α) : Widened ys.length xs (xs ++ ys) :=
  ⟨List.sublist_append_left xs ys, List.length_append⟩

theorem append (first : Widened m xs ys) (second : Widened n xs' ys') :
    Widened (m + n) (xs ++ xs') (ys ++ ys') := by
  refine ⟨first.sublist.append second.sublist, ?_⟩
  rw [List.length_append, List.length_append, first.length, second.length]
  omega

theorem inside (front rest : List α) (wider : Widened n xs ys) :
    Widened n (front ++ xs ++ rest) (front ++ ys ++ rest) := by
  simpa using ((same front).append wider).append (same rest)

theorem flatMap {β : Type} {f g : β → List α} {count : β → Nat} {bs : List β}
    (each : ∀ x ∈ bs, Widened (count x) (f x) (g x)) :
    Widened (bs.map count).sum (bs.flatMap f) (bs.flatMap g) := by
  induction bs with
  | nil => exact same []
  | cons x bs ih =>
    rw [List.forall_mem_cons] at each
    rw [List.map_cons, List.sum_cons, List.flatMap_cons, List.flatMap_cons]
    exact each.1.append (ih each.2)

theorem eq_iff (wider : Widened n xs ys) : ys = xs ↔ n = 0 := by
  have length := wider.length
  refine ⟨?_, ?_⟩
  · rintro rfl
    omega
  · rintro rfl
    exact (wider.sublist.eq_of_length length.symm).symm

end Widened

namespace Skeleton

variable (b : LineBreaks)

theorem sealed_iff_leak (a : Parameter) : a.Sealed b ↔ b.leak (typeNote a).toList = [] := by
  unfold Parameter.Sealed LineBreaks.leak LineBreaks.kept
  simp only [List.filter_eq_nil_iff, List.forall_mem_map, ne_eq, decide_not, Bool.not_eq_true',
    decide_eq_false_iff_not, not_not]

/-- How many lines of code the type of an attribute brings with it. -/
def leaks (a : Parameter) : Nat :=
  (b.leak (typeNote a).toList).length

theorem leaks_eq_zero_iff (a : Parameter) : leaks b a = 0 ↔ a.Sealed b := by
  rw [leaks, List.length_eq_zero_iff, sealed_iff_leak]

theorem sealed_of_unbroken {a : Parameter} (unbroken : ∀ c ∈ a.type.toList, b.isBreak c = false) :
    a.Sealed b :=
  (sealed_iff_leak b a).mpr (leak_typeNote b a unbroken)

theorem scriptAttribute_widened (owner : String) (depth : Nat) (a : Parameter) :
    Widened (leaks b a) ((scriptAttribute owner a.withoutType).kept b .javaScript depth)
      ((scriptAttribute owner a).kept b .javaScript depth) := by
  have untyped : b.leak (typeNote a.withoutType).toList = [] :=
    leak_typeNote b a.withoutType (fun c member => by cases member)
  rw [scriptAttribute_kept, scriptAttribute_kept, untyped, List.append_nil]
  exact .behind _ _

theorem scriptAttributes_widened (owner : String) (depth : Nat) (m : Module) :
    Widened (m.attributes.map (leaks b)).sum
      (codeOf b .javaScript depth (m.withoutTypes.attributes.map (scriptAttribute owner)))
      (codeOf b .javaScript depth (m.attributes.map (scriptAttribute owner))) := by
  rw [Module.withoutTypes, List.map_map, codeOf_map, codeOf_map]
  exact .flatMap fun a _ => scriptAttribute_widened b owner depth a

theorem scriptDeclaration_withoutTypes (keyword : String) (f : Function) :
    scriptDeclaration keyword f.withoutTypes = scriptDeclaration keyword f := by
  have params : scriptParams f.withoutTypes.inputs = scriptParams f.inputs :=
    congrArg (Text.join ", ") (map_blind Parameter.withoutType (fun _ => rfl) f.inputs)
  unfold scriptDeclaration
  rw [params]
  rfl

theorem scriptModule_widened (p : Project) (m : Module) :
    Widened (m.attributes.map (leaks b)).sum
      (codeOf b .javaScript 0 (scriptModule p.withoutTypes m.withoutTypes))
      (codeOf b .javaScript 0 (scriptModule p m)) := by
  have functions (keyword : String) :
      m.withoutTypes.functions.flatMap (scriptDeclaration keyword) =
        m.functions.flatMap (scriptDeclaration keyword) :=
    flatMap_blind Function.withoutTypes (scriptDeclaration_withoutTypes keyword) m.functions
  have fieldless : m.withoutTypes.attributes.isEmpty = m.attributes.isEmpty := List.isEmpty_map
  have kind : m.withoutTypes.kind = m.kind := rfl
  have name : m.withoutTypes.name = m.name := rfl
  rw [scriptModule_kept, scriptModule_kept, kind, name, fieldless, functions, functions]
  split
  · exact (scriptAttributes_widened b "let " 0 m).append (.same _)
  · cases empty : m.attributes.isEmpty with
    | true =>
      rw [List.isEmpty_iff] at empty
      rw [empty]
      exact .same _
    | false =>
      have fields := scriptAttributes_widened b "this." 2 m
      have whole := fields.inside
        ((line ("class " ++ m.name ++ " \x7b")).kept b .javaScript 0 ++
          (line ("constructor()" ++ " \x7b")).kept b .javaScript 1)
        ((line "\x7d").kept b .javaScript 1 ++
          codeOf b .javaScript 1 (m.functions.flatMap (scriptDeclaration "")) ++
          (line "\x7d").kept b .javaScript 0)
      simpa using whole

theorem skeletonFor_widened (p : Project) :
    Widened (p.modules.map fun m => (m.attributes.map (leaks b)).sum).sum
      (b.code (p.withoutTypes.skeletonFor .javaScript).toList)
      (b.code (p.skeletonFor .javaScript).toList) := by
  have modules : p.withoutTypes.modules = p.modules.map Module.withoutTypes := rfl
  rw [code_skeletonFor, code_skeletonFor, modules, List.flatMap_map]
  exact .flatMap fun m _ => scriptModule_widened b p m

/-- The types are not seen in the code, unless one of them is on the line behind its remark. -/
theorem code_withoutTypes_iff (p : Project) :
    b.code (p.skeletonFor .javaScript).toList =
        b.code (p.withoutTypes.skeletonFor .javaScript).toList ↔
      ∀ m ∈ p.modules, ∀ a ∈ m.attributes, a.Sealed b := by
  rw [(skeletonFor_widened b p).eq_iff]
  simp only [List.sum_eq_zero_iff_forall_eq_nat, List.forall_mem_map, leaks_eq_zero_iff]

end Skeleton

/-- Of two projects that differ in nothing but types, one of which keeps its types in remarks, the other
has a script with the same code if and only if it keeps them there too. A type without line breaks is
always kept. -/
theorem Project.scriptCode_of_types_iff (b : LineBreaks) {p q : Project}
    (same : p.withoutTypes = q.withoutTypes)
    (closed : ∀ m ∈ q.modules, ∀ a ∈ m.attributes, a.Sealed b) :
    (b.code (p.skeletonFor .javaScript).toList = b.code (q.skeletonFor .javaScript).toList ↔
        ∀ m ∈ p.modules, ∀ a ∈ m.attributes, a.Sealed b) ∧
      ∀ a : Parameter, (∀ c ∈ a.type.toList, b.isBreak c = false) → a.Sealed b := by
  refine ⟨?_, fun a => Skeleton.sealed_of_unbroken b⟩
  rw [(Skeleton.code_withoutTypes_iff b q).mpr closed, ← same]
  exact Skeleton.code_withoutTypes_iff b p

/-- A script with one variable of the given type. -/
def till (type : String) : Project :=
  ⟨"javascript", "till.cbl", "till.js", "", [⟨"till", .module, "Counts coins.", [], [],
    [⟨"total", type, none⟩], []⟩], [], [], []⟩

/-- A comment inside the type does no harm, a call behind a line break does. -/
theorem till_sealed_or_not :
    let b := LineBreaks.newlines
    (till "money // in cents").withoutTypes = (till "int").withoutTypes ∧
      (till "money\nreset()").withoutTypes = (till "int").withoutTypes ∧
      (∀ m ∈ (till "int").modules, ∀ a ∈ m.attributes, a.Sealed b) ∧
      b.code ((till "money // in cents").skeletonFor .javaScript).toList =
        b.code ((till "int").skeletonFor .javaScript).toList ∧
      ¬ b.code ((till "money\nreset()").skeletonFor .javaScript).toList =
        b.code ((till "int").skeletonFor .javaScript).toList ∧
      (∀ c ∈ "money // in cents".toList, b.isBreak c = false) ∧
      (⟨"total", "money // in cents", some "The sum.\nIn all."⟩ : Parameter).Sealed b := by
  intro b
  have commented : (till "money // in cents").withoutTypes = (till "int").withoutTypes := by decide
  have called : (till "money\nreset()").withoutTypes = (till "int").withoutTypes := by decide
  have closed : ∀ m ∈ (till "int").modules, ∀ a ∈ m.attributes, a.Sealed b := by decide +kernel
  have kept : ∀ m ∈ (till "money // in cents").modules, ∀ a ∈ m.attributes, a.Sealed b := by
    decide +kernel
  have open_ : ¬ ∀ m ∈ (till "money\nreset()").modules, ∀ a ∈ m.attributes, a.Sealed b := by
    decide +kernel
  have unbroken : ∀ c ∈ "money // in cents".toList, b.isBreak c = false :=
    b.unbroken_of_all (by decide)
  obtain ⟨harmless, always⟩ := Project.scriptCode_of_types_iff b commented closed
  obtain ⟨harmful, -⟩ := Project.scriptCode_of_types_iff b called closed
  exact ⟨commented, called, closed, harmless.mpr kept, mt harmful.mp open_, unbroken,
    always _ unbroken⟩

/-- The type of a variable can put a line of its own into the code. -/
theorem till_type_in_code :
    (till "int\nreset()").withoutTypes = (till "int").withoutTypes ∧
      LineBreaks.newlines.code ((till "int").skeletonFor .javaScript).toList =
        ["let total = null;".toList] ∧
      LineBreaks.newlines.code ((till "int\nreset()").skeletonFor .javaScript).toList =
        ["let total = null;".toList, "reset()".toList] := by
  refine ⟨by decide, ?_, ?_⟩
  · rw [Skeleton.code_skeletonFor]
    decide +kernel
  · rw [Skeleton.code_skeletonFor]
    decide +kernel

end Retrofit
