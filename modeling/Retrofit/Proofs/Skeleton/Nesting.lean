import Retrofit.Proofs.Skeleton.Outline

/-! Braces in the text of a skeleton. Each one that is opened is closed, and none is closed that is not
open. -/
namespace Retrofit

namespace Chars

structure Nested (cs : List Char) : Prop where
  never_more : ∀ front, front <+: cs → front.count '\x7d' ≤ front.count '\x7b'
  total : cs.count '\x7d' = cs.count '\x7b'

def Braceless (cs : List Char) : Prop :=
  '\x7b' ∉ cs ∧ '\x7d' ∉ cs

instance (cs : List Char) : Decidable (Braceless cs) :=
  inferInstanceAs (Decidable ('\x7b' ∉ cs ∧ '\x7d' ∉ cs))

variable {xs ys : List Char}

theorem Braceless.of_subset (braceless : Braceless ys) (subset : xs ⊆ ys) : Braceless xs :=
  ⟨fun opened => braceless.1 (subset opened), fun closed => braceless.2 (subset closed)⟩

theorem Braceless.append (first : Braceless xs) (second : Braceless ys) : Braceless (xs ++ ys) := by
  refine ⟨?_, ?_⟩
  · rw [List.mem_append, not_or]
    exact ⟨first.1, second.1⟩
  · rw [List.mem_append, not_or]
    exact ⟨first.2, second.2⟩

theorem Braceless.nested (braceless : Braceless xs) : Nested xs := by
  have same {front : List Char} (without : Braceless front) :
      front.count '\x7d' = front.count '\x7b' := by
    rw [List.count_eq_zero_of_not_mem without.1, List.count_eq_zero_of_not_mem without.2]
  refine ⟨?_, same braceless⟩
  intro front opens
  exact (same (braceless.of_subset opens.subset)).le

namespace Nested

theorem append (first : Nested xs) (second : Nested ys) : Nested (xs ++ ys) := by
  refine ⟨?_, ?_⟩
  · intro front opens
    rcases List.prefix_or_prefix_of_prefix opens (List.prefix_append xs ys) with early | ⟨rest, rfl⟩
    · exact first.never_more front early
    · -- what is opened and closed in the first part is even, so the rest counts alone
      have later := second.never_more rest ((List.prefix_append_right_inj xs).mp opens)
      rw [List.count_append, List.count_append, first.total]
      exact Nat.add_le_add_left later _
  · rw [List.count_append, List.count_append, first.total, second.total]

/-- The brace before the text pays for the one behind it. -/
theorem enclosed (inner : Nested xs) : Nested ('\x7b' :: xs ++ ['\x7d']) := by
  refine ⟨?_, ?_⟩
  · intro front opens
    rcases List.prefix_concat_iff.mp opens with rfl | before
    · simp [inner.total]
    · rcases List.prefix_cons_iff.mp before with rfl | ⟨rest, rfl, within⟩
      · exact Nat.le_refl _
      · have paid := inner.never_more rest within
        simp only [List.count_cons]
        exact Nat.add_le_add paid (Nat.zero_le _)
  · simp [inner.total]

end Nested

end Chars

namespace Skeleton

variable {t : Target} {ls : List Line} {n : Nat}

def braces : List (List Char) := [['\x7b'], ['\x7d']]

theorem lacks_braces_iff (text : List Char) : Lacks braces text ↔ Chars.Braceless text := by
  simp [Lacks, braces, Chars.Braceless, List.singleton_infix_iff]

theorem indentation_braceless (t : Target) (depth : Nat) : Chars.Braceless (indentation t depth) :=
  ⟨not_mem_indentation t depth (by decide), not_mem_indentation t depth (by decide)⟩

theorem code_braceless (t : Target) (depth : Nat) {text : String}
    (braceless : Chars.Braceless text.toList) :
    Chars.Braceless (Line.chars t (.code depth text)) :=
  ((indentation_braceless t depth).append braceless).append (by decide)

/-- What an outline encloses is written between the two braces of its block. -/
theorem block_nested (depth : Nat) {header : String} (braceless : Chars.Braceless header.toList)
    (inner : Chars.Nested (ls.flatMap (·.chars t))) :
    Chars.Nested ((Line.code depth (header ++ " \x7b") :: ls ++ [Line.code depth "\x7d"]).flatMap
      (·.chars t)) := by
  have indented := indentation_braceless t depth
  have newline : Chars.Braceless ['\n'] := by decide
  have before : Chars.Nested (indentation t depth ++ header.toList ++ [' ']) :=
    ((indented.append braceless).append (by decide)).nested
  have between := (newline.nested.append inner).append indented.nested
  have whole := (before.append between.enclosed).append newline.nested
  simpa [Line.chars, indentation] using whole

theorem outline_nested (outline : Outline t braces n ls) : Chars.Nested (ls.flatMap (·.chars t)) := by
  induction outline with
  | nil =>
    have empty : Chars.Braceless [] := by decide
    exact empty.nested
  | blank =>
    have newline : Chars.Braceless ['\n'] := by decide
    exact newline.nested
  | plain depth lacks =>
    rw [List.flatMap_singleton]
    exact (code_braceless t depth ((lacks_braces_iff _).mp lacks)).nested
  | mark depth =>
    have braceless : Chars.Braceless (markText t).toList := by cases t <;> decide
    rw [List.flatMap_singleton]
    exact (code_braceless t depth braceless).nested
  | block depth lacks inner ih => exact block_nested depth ((lacks_braces_iff _).mp lacks) ih
  | append first second ih₁ ih₂ =>
    rw [List.flatMap_append]
    exact ih₁.append ih₂

end Skeleton

open Skeleton

/-- A project without braces in its strings has a skeleton with well-nested braces, in all languages. -/
theorem Project.skeletonFor_nested (t : Target) {p : Project}
    (braceless : ∀ s ∈ p.strings, '\x7b' ∉ s.toList ∧ '\x7d' ∉ s.toList) :
    Chars.Nested (p.skeletonFor t).toList := by
  have lacks : ∀ s ∈ p.strings, Lacks braces s.toList :=
    fun s member => (lacks_braces_iff _).mpr (braceless s member)
  have nested := outline_nested (projectLines_outline (by decide) lacks t)
  rw [skeletonFor_eq_render, render, String.toList_ofList]
  exact nested

/-- An interface and a class that both have an attribute, a function with a result and one without. -/
def teller : Project :=
  let functions : List Function :=
    [⟨"draw", "Draw (coins)", [⟨"coins", "int[]", none⟩], [⟨"rest", "int", none⟩],
      ["protected"], [], [], [], [], some "rest = total - coins"⟩, ⟨"close", "", [], [], [], [], [], [], [], none⟩]
  let attributes : List Parameter := [⟨"total", "int", some "[cents]"⟩]
  ⟨"java", "teller.cbl", "Teller.java", "",
    [⟨"Account", .interface, "", [], functions, attributes, []⟩,
      ⟨"Teller", .abstractClass, "", [], functions, attributes, []⟩], [], [], []⟩

theorem teller_nested :
    (∀ s ∈ teller.strings, '\x7b' ∉ s.toList ∧ '\x7d' ∉ s.toList) ∧
      Chars.Nested (teller.skeletonFor .java).toList ∧
      Chars.Nested (teller.skeletonFor .javaScript).toList ∧
      Chars.Nested (teller.skeletonFor .generic).toList := by
  have braceless : ∀ s ∈ teller.strings, '\x7b' ∉ s.toList ∧ '\x7d' ∉ s.toList := by
    decide +kernel
  exact ⟨braceless, Project.skeletonFor_nested .java braceless,
    Project.skeletonFor_nested .javaScript braceless, Project.skeletonFor_nested .generic braceless⟩

end Retrofit
