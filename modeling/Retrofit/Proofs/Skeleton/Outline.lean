import Mathlib.Data.List.Basic
import Retrofit.Proofs.Report.Feedback
import Retrofit.Proofs.Skeleton.Signs

/-! How a skeleton is put together: lines that hold nothing but what the project says, marks of stubs, and
blocks in braces. Each function brings one mark. -/
namespace Retrofit.Skeleton

/-- What stands where a function has to be implemented. -/
def mark : String := "TODO: Implement"

def markText (t : Target) : String :=
  t.conventions.lineComment ++ " " ++ mark

/-- Lines with `n` marks that are well nested. What the project says holds none of the words `ws`. -/
inductive Outline (t : Target) (ws : List (List Char)) : Nat → List Line → Prop
  | nil : Outline t ws 0 []
  | blank : Outline t ws 0 [.blank]
  | plain (depth : Nat) {text : String} (lacks : Lacks ws text.toList) :
      Outline t ws 0 [.code depth text]
  | mark (depth : Nat) : Outline t ws 1 [.code depth (markText t)]
  | block (depth : Nat) {header : String} (lacks : Lacks ws header.toList) {n : Nat}
      {body : List Line} (inner : Outline t ws n body) :
      Outline t ws n (.code depth (header ++ " \x7b") :: body ++ [.code depth "\x7d"])
  | append {m n : Nat} {xs ys : List Line} (first : Outline t ws m xs) (second : Outline t ws n ys) :
      Outline t ws (m + n) (xs ++ ys)

namespace Outline

variable {t : Target} {ws : List (List Char)} {n : Nat} {xs ys : List Line}

theorem behind (first : Outline t ws 0 xs) (second : Outline t ws n ys) :
    Outline t ws n (xs ++ ys) := by
  have both := first.append second
  rwa [Nat.zero_add] at both

theorem cons {l : Line} (first : Outline t ws 0 [l]) (second : Outline t ws n ys) :
    Outline t ws n (l :: ys) :=
  first.behind second

theorem inside (lines : Outline t ws n xs) : Outline t ws n (inside xs) := by
  induction lines with
  | nil => exact .nil
  | blank => exact .blank
  | plain depth lacks => exact .plain (depth + 1) lacks
  | mark depth => exact .mark (depth + 1)
  | block depth lacks inner ih =>
    have deeper := Outline.block (depth + 1) lacks ih
    simpa [Skeleton.inside, Line.deeper] using deeper
  | append first second ih₁ ih₂ =>
    rw [Skeleton.inside, List.map_append]
    exact ih₁.append ih₂

theorem spaced (lines : Outline t ws n xs) : Outline t ws n (spaced xs) := by
  cases xs with
  | nil => exact lines
  | cons l ls => exact lines.append .blank

theorem braced {header : String} (lacks : Lacks ws header.toList) (inner : Outline t ws n xs) :
    Outline t ws n (Skeleton.block header xs) :=
  .block 0 lacks inner.inside

theorem map {α : Type} {f : α → Line} {as : List α} (each : ∀ a ∈ as, Outline t ws 0 [f a]) :
    Outline t ws 0 (as.map f) := by
  induction as with
  | nil => exact .nil
  | cons a as ih =>
    rw [List.forall_mem_cons] at each
    exact each.1.cons (ih each.2)

theorem flatMap {α : Type} {f : α → List Line} {as : List α}
    (each : ∀ a ∈ as, Outline t ws 1 (f a)) : Outline t ws as.length (as.flatMap f) := by
  induction as with
  | nil => exact .nil
  | cons a as ih =>
    rw [List.forall_mem_cons] at each
    have both := each.1.append (ih each.2)
    rwa [Nat.add_comm] at both

end Outline

variable {ws : List (List Char)} (known : ws ⊆ signs)

/-! What all languages share -/

section Shared

variable (t : Target)

include known

theorem comment_outline {text : String} (lacks : Lacks ws text.toList) :
    Outline t ws 0 [comment t text] := by
  apply Outline.plain 0
  simpa [Text.toString_same] using lacks_comment known t lacks

theorem stub_outline {f : Function} (strings : ∀ s ∈ f.strings, Lacks ws s.toList) :
    Outline t ws 1 (stub t f) := by
  have marked : Outline t ws 1 [comment t "TODO: Implement"] := by
    have words : Text.oneLine mark = mark := by decide
    have same : comment t mark = .code 0 (markText t) := by
      rw [comment, words]
      rfl
    rw [← mark, same]
    exact .mark 0
  have noted : Outline t ws 0
      (f.businessLogic.toList.map fun logic => comment t s!"Logic: {logic}") := by
    apply Outline.map
    intro logic said
    apply comment_outline known
    have lacks := strings logic (by simp [Function.strings, Option.mem_toList.mp said])
    simp [known, lacks, Text.toString_same]
  exact noted.behind marked

theorem preamble_outline {p : Project} {m : Module} (legacy : Lacks ws p.legacyName.toList)
    (modern : Lacks ws p.modernName.toList) (described : Lacks ws m.description.toList) :
    Outline t ws 0 (preamble t p m) := by
  apply (comment_outline known t described).cons
  apply Outline.cons
  · apply comment_outline known
    simpa [Text.toString_same] using lacks_original known legacy
  · apply comment_outline known
    simp [known, modern, Text.toString_same]

end Shared

/-! Python -/

section Python

include known

theorem docLine_outline {text : String} (lacks : Lacks ws text.toList) :
    Outline .python ws 0 [docLine text] := by
  apply Outline.plain 0
  simp [docQuotes, known, lacks_docText known lacks, Text.toString_same]

theorem pythonFunction_outline (method : Bool) {f : Function}
    (strings : ∀ s ∈ f.strings, Lacks ws s.toList) :
    Outline .python ws 1 (pythonFunction method f) := by
  have name := lacks_functionName strings
  have params : Lacks ws (Text.join ", "
      ((if method then ["self"] else []) ++ f.inputs.map (·.name))).toList := by
    apply lacks_join known ',' [' '] rfl (by simp)
    intro s member
    rcases List.mem_append.mp member with self | input
    · cases method <;> simp_all
    · obtain ⟨a, listed, rfl⟩ := List.mem_map.mp input
      exact (lacks_input strings listed).1
  have header : Outline .python ws 0
      [line ("def " ++ f.name ++ "(" ++ Text.join ", "
        ((if method then ["self"] else []) ++ f.inputs.map (·.name)) ++ "):")] := by
    apply Outline.plain 0
    simp [known, name, params]
  have pass : Outline .python ws 0 [line "pass"] := by
    apply Outline.plain 0
    simp [known]
  have body := (docLine_outline known (lacks_description strings)).behind
    ((stub_outline known .python strings).append pass)
  exact header.behind (body.inside.append .blank)

theorem pythonAttribute_outline {owner : String} (own : ∀ c ∈ owner.toList, Plain c) {a : Parameter}
    (strings : ∀ s ∈ a.strings, Lacks ws s.toList) :
    Outline .python ws 0 [pythonAttribute owner a] := by
  obtain ⟨name, type, behind, -⟩ := lacks_attribute known .python strings
  apply Outline.plain 0
  simp [Text.toString_same, lacks_plain_append known own, known, name, type, behind]

theorem pythonPreamble_outline {p : Project} {m : Module} (legacy : Lacks ws p.legacyName.toList)
    (modern : Lacks ws p.modernName.toList) (described : Lacks ws m.description.toList) :
    Outline .python ws 0 (pythonPreamble p m) := by
  have quotes : Outline .python ws 0 [line docQuotes] := by
    apply Outline.plain 0
    simp [docQuotes, known]
  have description : Outline .python ws 0 [line (docText m.description)] :=
    .plain 0 (lacks_docText known described)
  have original : Outline .python ws 0 [line s!"Original: {docText p.legacyName}"] := by
    apply Outline.plain 0
    simpa [Text.toString_same] using lacks_original known (lacks_docText known legacy)
  have suggested : Outline .python ws 0 [line s!"Suggested: {docText p.modernName}"] := by
    apply Outline.plain 0
    simp [Text.toString_same, known, lacks_docText known modern]
  exact quotes.cons (description.cons (original.cons (suggested.cons (quotes.cons .blank))))

theorem pythonClassHeader_outline {m : Module} (name : Lacks ws m.name.toList) :
    Outline .python ws 0 (pythonClassHeader m) := by
  unfold pythonClassHeader
  split
  · apply Outline.plain 0
    simp [Text.toString_same, known, name]
  · have imported : Outline .python ws 0 [line "from abc import ABC"] := by
      apply Outline.plain 0
      simp [known]
    have header : Outline .python ws 0 [line s!"class {m.name}(ABC):"] := by
      apply Outline.plain 0
      simp [Text.toString_same, known, name]
    exact imported.cons (Outline.blank.cons header)

theorem pythonConstructor_outline {m : Module}
    (strings : ∀ a ∈ m.attributes, ∀ s ∈ a.strings, Lacks ws s.toList) :
    Outline .python ws 0 (pythonConstructor m) := by
  unfold pythonConstructor
  split
  · exact .nil
  · have header : Outline .python ws 0 [line "def __init__(self):"] := by
      apply Outline.plain 0
      simp [known]
    have fields : Outline .python ws 0 (m.attributes.map (pythonAttribute "self.")) :=
      .map fun a listed => pythonAttribute_outline known (by simp) (strings a listed)
    exact header.cons (fields.inside.append .blank)

end Python

/-! Languages with braces -/

section Braced

include known

theorem javaSignature_lacks {f : Function} (strings : ∀ s ∈ f.strings, Lacks ws s.toList) :
    Lacks ws (javaSignature f).toList := by
  have name := lacks_functionName strings
  have returned : Lacks ws (javaReturn f).toList := by
    unfold javaReturn
    split
    · rename_i o rest outputs
      exact lacks_output strings (by simp [outputs])
    · simp [known]
  have params : Lacks ws (javaParams f.inputs).toList := by
    apply lacks_params known strings
    intro a named typed
    simp [Text.toString_same, known, named, typed]
  simp [javaSignature, known, name, returned, params]

theorem javaModifiers_lacks {f : Function} (strings : ∀ s ∈ f.strings, Lacks ws s.toList) :
    Lacks ws (javaModifiers f).toList := by
  unfold javaModifiers
  split
  · simp [known]
  · apply lacks_join known ' ' [] rfl (by simp)
    intro s listed
    exact strings s (by simp [Function.strings, listed])

theorem javaFunction_outline (declared : Bool) {f : Function}
    (strings : ∀ s ∈ f.strings, Lacks ws s.toList) :
    Outline .java ws 1 (javaFunction declared f) := by
  have signature := javaSignature_lacks known strings
  have stub := stub_outline known .java strings
  apply (comment_outline known .java (lacks_description strings)).cons
  refine Outline.append (n := 0) ?_ .blank
  cases declared with
  | true =>
    refine stub.append (.plain 0 ?_)
    simp [known, signature]
  | false =>
    have body : Outline .java ws 0 (if javaReturn f = "void" then [] else [line "return null;"]) := by
      split
      · exact .nil
      · apply Outline.plain 0
        simp [known]
    apply Outline.braced _ (stub.append body)
    simp [known, javaModifiers_lacks known strings, signature]

theorem javaAttribute_outline (declared : Bool) {a : Parameter}
    (strings : ∀ s ∈ a.strings, Lacks ws s.toList) :
    Outline .java ws 0 [javaAttribute declared a] := by
  obtain ⟨name, type, behind, -⟩ := lacks_attribute known .java strings
  apply Outline.plain 0
  cases declared <;> simp [Text.toString_same, known, name, type, behind]

theorem scriptFunction_outline {keyword : String} (own : ∀ c ∈ keyword.toList, Plain c)
    {f : Function} (strings : ∀ s ∈ f.strings, Lacks ws s.toList) :
    Outline .javaScript ws 1 (scriptFunction keyword f) := by
  have name := lacks_functionName strings
  have params : Lacks ws (scriptParams f.inputs).toList :=
    lacks_params known strings fun a named typed => named
  apply (comment_outline known .javaScript (lacks_description strings)).cons
  refine Outline.append (n := 0) ?_ .blank
  apply Outline.braced _ (stub_outline known .javaScript strings)
  simp [lacks_plain_append known own, known, name, params]

theorem scriptAttribute_outline {owner : String} (own : ∀ c ∈ owner.toList, Plain c) {a : Parameter}
    (strings : ∀ s ∈ a.strings, Lacks ws s.toList) :
    Outline .javaScript ws 0 [scriptAttribute owner a] := by
  have name : Lacks ws a.name.toList := strings a.name (by simp [Parameter.strings])
  have behind := lacks_typeRemark known .javaScript strings
  apply Outline.plain 0
  simp [Text.toString_same, lacks_plain_append known own, known, name, behind]

theorem scriptConstructor_outline {m : Module}
    (strings : ∀ a ∈ m.attributes, ∀ s ∈ a.strings, Lacks ws s.toList) :
    Outline .javaScript ws 0 (scriptConstructor m) := by
  unfold scriptConstructor
  split
  · exact .nil
  · have fields : Outline .javaScript ws 0 (m.attributes.map (scriptAttribute "this.")) :=
      .map fun a listed => scriptAttribute_outline known (by simp) (strings a listed)
    refine (Outline.braced ?_ fields).append .blank
    simp [known]

theorem neutralFunction_outline {f : Function} (strings : ∀ s ∈ f.strings, Lacks ws s.toList) :
    Outline .generic ws 1 (neutralFunction f) := by
  have name := lacks_functionName strings
  have params : Lacks ws (neutralParams f.inputs).toList := by
    apply lacks_params known strings
    intro a named typed
    simp [Text.toString_same, known, named, typed]
  have returned : Lacks ws (neutralReturn f).toList := by
    unfold neutralReturn
    split
    · rename_i o rest outputs
      have type := lacks_output strings (a := o) (by simp [outputs])
      simp [Text.toString_same, known, type]
    · simp [known]
  apply (comment_outline known .generic (lacks_description strings)).cons
  apply Outline.braced _ (stub_outline known .generic strings)
  simp [known, name, params, returned]

theorem neutralAttribute_outline {a : Parameter} (strings : ∀ s ∈ a.strings, Lacks ws s.toList) :
    Outline .generic ws 0 [neutralAttribute a] := by
  obtain ⟨name, -, -, behind⟩ := lacks_attribute known .generic strings
  apply Outline.plain 0
  simp [Text.toString_same, known, name, behind]

end Braced

/-! Modules -/

section Modules

variable {p : Project} {m : Module} (legacy : Lacks ws p.legacyName.toList)
  (modern : Lacks ws p.modernName.toList) (strings : ∀ s ∈ m.strings, Lacks ws s.toList)

include known legacy modern strings

theorem pythonModule_outline : Outline .python ws m.functions.length (pythonModule p m) := by
  obtain ⟨name, described⟩ := lacks_module strings
  have attributes : ∀ a ∈ m.attributes, ∀ s ∈ a.strings, Lacks ws s.toList :=
    fun a listed s member => strings s (m.mem_strings_of_attribute listed member)
  have functions (method : Bool) :
      Outline .python ws m.functions.length (m.functions.flatMap (pythonFunction method)) :=
    .flatMap fun f listed => pythonFunction_outline known method
      fun s member => strings s (m.mem_strings_of_function listed member)
  apply (pythonPreamble_outline known legacy modern described).behind
  split
  · have fields : Outline .python ws 0 (m.attributes.map (pythonAttribute "")) :=
      .map fun a listed => pythonAttribute_outline known (by simp) (attributes a listed)
    exact fields.spaced.behind (functions false)
  · have constructor := pythonConstructor_outline known attributes
    have documented := (docLine_outline known described).cons (Outline.blank.cons constructor)
    exact (pythonClassHeader_outline known name).behind (documented.behind (functions true)).inside

theorem javaModule_outline : Outline .java ws m.functions.length (javaModule p m) := by
  obtain ⟨name, described⟩ := lacks_module strings
  have fields (declared : Bool) : Outline .java ws 0 (m.attributes.map (javaAttribute declared)) :=
    .map fun a listed => javaAttribute_outline known declared
      fun s member => strings s (m.mem_strings_of_attribute listed member)
  have functions (declared : Bool) :
      Outline .java ws m.functions.length (m.functions.flatMap (javaFunction declared)) :=
    .flatMap fun f listed => javaFunction_outline known declared
      fun s member => strings s (m.mem_strings_of_function listed member)
  have header : Lacks ws (javaKeyword m.kind ++ " " ++ m.name).toList := by
    cases m.kind <;> simp [javaKeyword, known, name]
  have body (declared : Bool) :=
    Outline.blank.cons ((fields declared).spaced.behind (functions declared)).inside
  have whole := (preamble_outline known .java legacy modern described).behind
    (Outline.block 0 header (body (m.kind = .interface)))
  simpa [javaModule, line] using whole

theorem scriptModule_outline : Outline .javaScript ws m.functions.length (scriptModule p m) := by
  obtain ⟨name, described⟩ := lacks_module strings
  have attributes : ∀ a ∈ m.attributes, ∀ s ∈ a.strings, Lacks ws s.toList :=
    fun a listed s member => strings s (m.mem_strings_of_attribute listed member)
  have functions {keyword : String} (own : ∀ c ∈ keyword.toList, Plain c) :
      Outline .javaScript ws m.functions.length (m.functions.flatMap (scriptFunction keyword)) :=
    .flatMap fun f listed => scriptFunction_outline known own
      fun s member => strings s (m.mem_strings_of_function listed member)
  apply (preamble_outline known .javaScript legacy modern described).behind
  apply Outline.blank.cons
  split
  · have fields : Outline .javaScript ws 0 (m.attributes.map (scriptAttribute "let ")) :=
      .map fun a listed => scriptAttribute_outline known (by simp) (attributes a listed)
    exact fields.spaced.behind (functions (by simp))
  · refine Outline.braced ?_ ((scriptConstructor_outline known attributes).behind (functions (by simp)))
    simp [Text.toString_same, known, name]

theorem neutralModule_outline : Outline .generic ws m.functions.length (neutralModule p m) := by
  obtain ⟨name, described⟩ := lacks_module strings
  have fields : Outline .generic ws 0 (m.attributes.map neutralAttribute) :=
    .map fun a listed => neutralAttribute_outline known
      fun s member => strings s (m.mem_strings_of_attribute listed member)
  have functions : Outline .generic ws m.functions.length (m.functions.flatMap neutralFunction) :=
    .flatMap fun f listed => neutralFunction_outline known
      fun s member => strings s (m.mem_strings_of_function listed member)
  have tag : Lacks ws m.kind.tag.toList := by
    apply lacks_of_signs known
    cases m.kind <;> decide
  have header : Lacks ws (s!"{m.kind.tag} {m.name}").toList := by
    simp [Text.toString_same, known, tag, name]
  exact (preamble_outline known .generic legacy modern described).behind
    (Outline.braced header (fields.behind functions))

end Modules

/-- The lines of a whole skeleton. -/
def projectLines (t : Target) (p : Project) : List Line :=
  [Line.blank].intercalate (p.modules.map (moduleLines t p))

theorem join_render (t : Target) (lss : List (List Line)) :
    Text.join "\n" (lss.map (render t)) = render t ([Line.blank].intercalate lss) := by
  induction lss with
  | nil => rfl
  | cons ls lss ih =>
    cases lss with
    | nil => simp [Text.join]
    | cons ls' lss =>
      rw [List.map_cons] at ih
      rw [List.map_cons, List.map_cons, List.intercalate_cons_cons, Text.join.eq_3 _ _ _ (by simp), ih]
      apply String.toList_inj.mp
      simp [render, Line.chars]

theorem skeletonFor_eq_render (t : Target) (p : Project) :
    p.skeletonFor t = render t (projectLines t p) := by
  rw [projectLines, ← join_render, List.map_map]
  rfl

section Project

variable {p : Project} (strings : ∀ s ∈ p.strings, Lacks ws s.toList) (t : Target)

include known strings

theorem moduleLines_outline {m : Module} (listed : m ∈ p.modules) :
    Outline t ws m.functions.length (moduleLines t p m) := by
  have legacy := strings p.legacyName (by simp [Project.strings])
  have modern := strings p.modernName (by simp [Project.strings])
  have own : ∀ s ∈ m.strings, Lacks ws s.toList :=
    fun s member => strings s (p.mem_strings_of_module listed member)
  cases t with
  | python => exact pythonModule_outline known legacy modern own
  | java => exact javaModule_outline known legacy modern own
  | javaScript => exact scriptModule_outline known legacy modern own
  | generic => exact neutralModule_outline known legacy modern own

theorem projectLines_outline : Outline t ws p.functionCount (projectLines t p) := by
  have each (m) (listed : m ∈ p.modules) := moduleLines_outline known strings t listed
  rw [p.functionCount_eq_sum, projectLines]
  generalize p.modules = ms at each
  induction ms with
  | nil => exact .nil
  | cons m ms ih =>
    rw [List.forall_mem_cons] at each
    cases ms with
    | nil => simpa using each.1
    | cons m' ms =>
      simp only [List.map_cons, List.intercalate_cons_cons, List.sum_cons] at ih ⊢
      exact (each.1.append .blank).append (ih each.2)

end Project

end Retrofit.Skeleton
