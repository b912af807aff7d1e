import Retrofit.Proofs.Project.Strings
import Retrofit.Proofs.Skeleton.Lines
import Retrofit.Proofs.Skeleton.Literal
import Retrofit.Proofs.Text.Occurrence

/-! The signs that a skeleton writes for purposes of its own: the marks of stubs and the braces of blocks.
No sign comes about where the strings of a project are put together with the text around them. -/
namespace Retrofit.Skeleton

def signs : List (List Char) := [['T', 'O', 'D', 'O'], ['\x7b'], ['\x7d']]

/-- The character belongs to no sign. -/
def Plain (c : Char) : Prop :=
  c ∉ signs.flatten

def Lacks (ws : List (List Char)) (text : List Char) : Prop :=
  ∀ w ∈ ws, ¬ w <:+: text

instance (ws : List (List Char)) (text : List Char) : Decidable (Lacks ws text) :=
  inferInstanceAs (Decidable (∀ w ∈ ws, ¬ w <:+: text))

@[simp] theorem plain_iff (c : Char) :
    Plain c ↔ c ≠ 'T' ∧ c ≠ 'O' ∧ c ≠ 'D' ∧ c ≠ '\x7b' ∧ c ≠ '\x7d' := by
  simp only [Plain, signs, List.flatten_cons, List.flatten_nil, List.cons_append, List.nil_append,
    List.mem_cons, List.not_mem_nil, or_false, not_or]
  tauto

theorem Plain.not_mem {c : Char} (plain : Plain c) {w : List Char} (sign : w ∈ signs) : c ∉ w :=
  fun member => plain (List.mem_flatten_of_mem sign member)

section Escapes

variable {w : List Char} (quote : '"' ∉ w) (backslash : '\\' ∉ w)

include quote backslash

theorem prefix_of_escaped {cs : List Char} (within : w <+: cs.flatMap escapeQuotes) : w <+: cs := by
  induction cs generalizing w with
  | nil => exact within
  | cons c cs ih =>
    have cut (rest : List Char) (opens : w <+: '\\' :: rest) : w <+: c :: cs := by
      have nothing := (Chars.prefix_append_cons backslash [] rest).mp opens
      rw [List.prefix_nil.mp nothing]
      exact List.nil_prefix
    rw [List.flatMap_cons] at within
    rcases escapeQuotes_cases c with ⟨rfl, escaped⟩ | ⟨rfl, escaped⟩ | ⟨-, -, escaped⟩
    · rw [escaped] at within
      exact cut _ within
    · rw [escaped] at within
      exact cut _ within
    · rw [escaped] at within
      cases w with
      | nil => exact List.nil_prefix
      | cons d w =>
        obtain ⟨rfl, rest⟩ := List.cons_prefix_cons.mp within
        rw [List.mem_cons, not_or] at quote backslash
        exact (List.prefix_cons_inj d).mpr (ih quote.2 backslash.2 rest)

/-- A word without quotes and backslashes is in the escaped text only if it is in the text. -/
theorem infix_of_escaped {cs : List Char} (within : w <:+: cs.flatMap escapeQuotes) : w <:+: cs := by
  induction cs with
  | nil => exact within
  | cons c cs ih =>
    have front : w <+: (c :: cs).flatMap escapeQuotes → w <+: c :: cs :=
      prefix_of_escaped quote backslash
    have skip {d : Char} (absent : d ∉ w) {rest : List Char} (inside : w <:+: d :: rest) :
        w <:+: rest := by
      rcases (Chars.infix_append_cons absent [] rest).mp inside with nothing | behind
      · rw [List.infix_nil.mp nothing]
        exact List.nil_infix
      · exact behind
    rw [List.flatMap_cons] at within front
    rcases escapeQuotes_cases c with ⟨rfl, escaped⟩ | ⟨rfl, escaped⟩ | ⟨-, -, escaped⟩
    · rw [escaped] at within
      exact List.infix_cons (ih (skip backslash (skip backslash within)))
    · rw [escaped] at within
      exact List.infix_cons (ih (skip quote (skip backslash within)))
    · rw [escaped] at within front
      rcases List.infix_cons_iff.mp within with opens | behind
      · exact (front opens).isInfix
      · exact List.infix_cons (ih behind)

end Escapes

section Words

variable {ws : List (List Char)} (known : ws ⊆ signs)

include known

@[simp] theorem lacks_nil : Lacks ws [] := by
  intro w member within
  have some : ∀ w ∈ signs, w ≠ [] := by decide
  exact some w (known member) (List.infix_nil.mp within)

@[simp] theorem lacks_append_cons {c : Char} (plain : Plain c) (xs ys : List Char) :
    Lacks ws (xs ++ c :: ys) ↔ Lacks ws xs ∧ Lacks ws ys := by
  have apart (w) (member : w ∈ ws) : w <:+: xs ++ c :: ys ↔ w <:+: xs ∨ w <:+: ys :=
    Chars.infix_append_cons (plain.not_mem (known member)) xs ys
  refine ⟨?_, ?_⟩
  · intro whole
    refine ⟨fun w member within => ?_, fun w member within => ?_⟩
    · exact whole w member ((apart w member).mpr (.inl within))
    · exact whole w member ((apart w member).mpr (.inr within))
  · rintro ⟨front, behind⟩ w member within
    rcases (apart w member).mp within with left | right
    · exact front w member left
    · exact behind w member right

@[simp] theorem lacks_cons {c : Char} (plain : Plain c) (ys : List Char) :
    Lacks ws (c :: ys) ↔ Lacks ws ys := by
  have split := lacks_append_cons known plain [] ys
  rw [List.nil_append] at split
  exact split.trans (and_iff_right (lacks_nil known))

theorem lacks_plain_append {gap : List Char} (plain : ∀ c ∈ gap, Plain c) (ys : List Char) :
    Lacks ws (gap ++ ys) ↔ Lacks ws ys := by
  induction gap with
  | nil => rfl
  | cons c gap ih =>
    rw [List.forall_mem_cons] at plain
    rw [List.cons_append, lacks_cons known plain.1]
    exact ih plain.2

theorem lacks_join (c : Char) (gap : List Char) {sep : String} (shape : sep.toList = c :: gap)
    (plain : ∀ d ∈ c :: gap, Plain d) {ss : List String} (each : ∀ s ∈ ss, Lacks ws s.toList) :
    Lacks ws (Text.join sep ss).toList := by
  rw [List.forall_mem_cons] at plain
  induction ss with
  | nil => exact lacks_nil known
  | cons s ss ih =>
    rw [List.forall_mem_cons] at each
    cases ss with
    | nil => exact each.1
    | cons s' ss =>
      simp only [Text.join, String.toList_append, shape, List.append_assoc, List.cons_append]
      rw [lacks_append_cons known plain.1, lacks_plain_append known plain.2]
      exact ⟨each.1, ih each.2⟩

theorem lacks_oneLine {s : String} (lacks : Lacks ws s.toList) : Lacks ws (Text.oneLine s).toList := by
  apply lacks_join known ' ' [] rfl (by simp)
  intro word listed w member within
  obtain ⟨letters, found, rfl⟩ := List.mem_map.mp listed
  rw [String.toList_ofList] at within
  exact lacks w member (within.trans (Chars.infix_of_mem_words found))

/-- A text that lacks all signs lacks those that are asked for. -/
theorem lacks_of_signs {text : List Char} (all : Lacks signs text) : Lacks ws text :=
  fun w member => all w (known member)

theorem lacks_docText {s : String} (lacks : Lacks ws s.toList) : Lacks ws (docText s).toList := by
  intro w member within
  rw [docText, String.toList_ofList] at within
  have quote : ∀ w ∈ signs, '"' ∉ w := by decide
  have backslash : ∀ w ∈ signs, '\\' ∉ w := by decide
  have sign := known member
  exact lacks_oneLine known lacks w member (infix_of_escaped (quote w sign) (backslash w sign) within)

end Words

/-! The texts on the lines of a skeleton -/

section Texts

variable {ws : List (List Char)} (known : ws ⊆ signs) (t : Target)

include known

theorem lacks_comment {text : String} (lacks : Lacks ws text.toList) :
    Lacks ws (t.conventions.lineComment ++ " " ++ Text.oneLine text).toList := by
  have leader : Lacks ws t.conventions.lineComment.toList := by
    apply lacks_of_signs known
    cases t <;> decide
  simp [known, leader, lacks_oneLine known lacks]

theorem lacks_append_remark {text : List Char} (front : Lacks ws text) {d : Option String}
    (lacks : ∀ s ∈ d.toList, Lacks ws s.toList) : Lacks ws (text ++ (remark t d).toList) := by
  cases d with
  | none => simpa [remark] using front
  | some d =>
    have commented := lacks_comment known t (lacks d (by simp))
    simp only [remark]
    split
    · simpa using front
    · simpa [Text.toString_same, known, front] using commented

theorem lacks_attribute {a : Parameter} (strings : ∀ s ∈ a.strings, Lacks ws s.toList) :
    Lacks ws a.name.toList ∧ Lacks ws a.type.toList ∧ Lacks ws (remark t a.description).toList ∧
      Lacks ws (a.type.toList ++ (remark t a.description).toList) := by
  have type : Lacks ws a.type.toList := strings a.type (by simp [Parameter.strings])
  have behind {text : List Char} (front : Lacks ws text) :
      Lacks ws (text ++ (remark t a.description).toList) :=
    lacks_append_remark known t front
      fun s said => strings s (by simp [Parameter.strings, Option.mem_toList.mp said])
  exact ⟨strings a.name (by simp [Parameter.strings]), type, behind (lacks_nil known), behind type⟩

theorem lacks_typeRemark {a : Parameter} (lacks : ∀ s ∈ a.strings, Lacks ws s.toList) :
    Lacks ws (typeRemark t a).toList := by
  have leader : Lacks ws t.conventions.lineComment.toList := by
    apply lacks_of_signs known
    cases t <;> decide
  have type : Lacks ws a.type.toList := lacks a.type (by simp [Parameter.strings])
  have note : Lacks ws (typeNote a).toList := by
    unfold typeNote
    cases described : a.description with
    | none => exact type
    | some d =>
      have words := lacks_oneLine known (lacks d (by simp [Parameter.strings, described]))
      dsimp only
      split
      · exact type
      · simp [known, type, words]
  simp [typeRemark_eq, known, leader, note]

/-- The words behind "Original: " are those of the project, and the one before them is no sign. -/
theorem lacks_original {s : String} (lacks : Lacks ws s.toList) :
    Lacks ws ("Original:".toList ++ ' ' :: s.toList) := by
  rw [lacks_append_cons known (by simp)]
  exact ⟨lacks_of_signs known (by decide), lacks⟩

end Texts

theorem lacks_module {ws : List (List Char)} {m : Module}
    (strings : ∀ s ∈ m.strings, Lacks ws s.toList) :
    Lacks ws m.name.toList ∧ Lacks ws m.description.toList :=
  ⟨strings m.name (by simp [Module.strings]), strings m.description (by simp [Module.strings])⟩

section Signatures

variable {ws : List (List Char)} (known : ws ⊆ signs) {f : Function}
  (strings : ∀ s ∈ f.strings, Lacks ws s.toList)

include strings

theorem lacks_functionName : Lacks ws f.name.toList :=
  strings f.name (by simp [Function.strings])

theorem lacks_description : Lacks ws f.description.toList :=
  strings f.description (by simp [Function.strings])

theorem lacks_input {a : Parameter} (listed : a ∈ f.inputs) :
    Lacks ws a.name.toList ∧ Lacks ws a.type.toList :=
  ⟨strings a.name (f.mem_strings_of_input listed (by simp [Parameter.strings])),
    strings a.type (f.mem_strings_of_input listed (by simp [Parameter.strings]))⟩

theorem lacks_output {a : Parameter} (listed : a ∈ f.outputs) : Lacks ws a.type.toList :=
  strings a.type (f.mem_strings_of_output listed (by simp [Parameter.strings]))

include known

/-- The inputs of a function, each written by `write`, with a comma between them. -/
theorem lacks_params {write : Parameter → String}
    (each : ∀ a : Parameter, Lacks ws a.name.toList → Lacks ws a.type.toList →
      Lacks ws (write a).toList) :
    Lacks ws (Text.join ", " (f.inputs.map write)).toList := by
  apply lacks_join known ',' [' '] rfl (by simp)
  intro s member
  obtain ⟨a, listed, rfl⟩ := List.mem_map.mp member
  have both := lacks_input strings listed
  exact each a both.1 both.2

end Signatures

end Retrofit.Skeleton
