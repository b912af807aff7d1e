import Mathlib.Algebra.Ring.Nat
import Mathlib.Data.List.Infix
import Retrofit.Text.Cut
import Retrofit.Proofs.Text.Words

/-! Words inside a text. A character that is not in a word keeps the word to one of its sides. -/
namespace Retrofit.Chars

/-- At how many places of a text a word begins. -/
def occurrences (w : List Char) : List Char → Nat
  | [] => 0
  | c :: cs => (if w <+: c :: cs then 1 else 0) + occurrences w cs

variable {w xs ys cs : List Char} {c : Char}

theorem occurs_iff (w cs : List Char) : occurs w cs = true ↔ w <:+: cs := by
  induction cs with
  | nil => simp [occurs]
  | cons c cs ih => rw [occurs, Bool.or_eq_true, ih, List.isPrefixOf_iff_prefix, List.infix_cons_iff]

theorem prefix_append_cons (absent : c ∉ w) (xs ys : List Char) :
    w <+: xs ++ c :: ys ↔ w <+: xs := by
  refine ⟨?_, fun within => within.trans (List.prefix_append _ _)⟩
  intro within
  have next : xs ++ [c] <+: xs ++ c :: ys := ⟨ys, by simp⟩
  rcases List.prefix_or_prefix_of_prefix within next with shorter | longer
  · rcases List.prefix_concat_iff.mp shorter with rfl | before
    · simp at absent
    · exact before
  · exact absurd (longer.subset (by simp)) absent

theorem infix_append_cons (absent : c ∉ w) (xs ys : List Char) :
    w <:+: xs ++ c :: ys ↔ w <:+: xs ∨ w <:+: ys := by
  induction xs with
  | nil =>
    have front := prefix_append_cons absent [] ys
    rw [List.nil_append] at front ⊢
    rw [List.infix_cons_iff, front, List.prefix_nil, List.infix_nil]
  | cons x xs ih =>
    have front := prefix_append_cons absent (x :: xs) ys
    rw [List.cons_append] at front ⊢
    rw [List.infix_cons_iff, List.infix_cons_iff, front, ih, or_assoc]

/-- A word has no part in a stretch of characters that are foreign to it. -/
theorem infix_append_gap {gap : List Char} (foreign : ∀ c ∈ gap, c ∉ w) (solid : gap ≠ [])
    (xs ys : List Char) : w <:+: xs ++ (gap ++ ys) ↔ w <:+: xs ∨ w <:+: ys := by
  induction gap generalizing xs with
  | nil => exact absurd rfl solid
  | cons c gap ih =>
    rw [List.forall_mem_cons] at foreign
    rw [List.cons_append, infix_append_cons foreign.1]
    cases gap with
    | nil => rw [List.nil_append]
    | cons d gap =>
      have later := ih foreign.2 (List.cons_ne_nil d gap) []
      rw [List.nil_append, List.infix_nil] at later
      rw [later]
      refine ⟨?_, Or.imp_right .inr⟩
      rintro (within | rfl | within)
      · exact .inl within
      · exact .inl List.nil_infix
      · exact .inr within

theorem occurrences_cons {d : Char} (other : c ≠ d) (w ys : List Char) :
    occurrences (d :: w) (c :: ys) = occurrences (d :: w) ys := by
  have closed : ¬ d :: w <+: c :: ys := fun opens => other (List.cons_prefix_cons.mp opens).1.symm
  rw [occurrences, if_neg closed, Nat.zero_add]

theorem occurrences_append {d : Char} (absent : d ∉ xs) (w ys : List Char) :
    occurrences (d :: w) (xs ++ ys) = occurrences (d :: w) ys := by
  induction xs with
  | nil => rfl
  | cons x xs ih =>
    rw [List.mem_cons, not_or] at absent
    rw [List.cons_append, occurrences_cons (Ne.symm absent.1)]
    exact ih absent.2

theorem occurrences_append_cons (absent : c ∉ w) (some : w ≠ []) (xs ys : List Char) :
    occurrences w (xs ++ c :: ys) = occurrences w xs + occurrences w ys := by
  induction xs with
  | nil =>
    obtain ⟨d, w, rfl⟩ := List.exists_cons_of_ne_nil some
    rw [List.mem_cons, not_or] at absent
    rw [List.nil_append, occurrences_cons absent.1, occurrences, Nat.zero_add]
  | cons x xs ih =>
    have front := prefix_append_cons absent (x :: xs) ys
    rw [List.cons_append] at front ⊢
    rw [occurrences, occurrences, ih, if_congr front rfl rfl, Nat.add_assoc]

theorem occurrences_of_not_infix (outside : ¬ w <:+: cs) : occurrences w cs = 0 := by
  induction cs with
  | nil => rfl
  | cons c cs ih =>
    rw [List.infix_cons_iff, not_or] at outside
    rw [occurrences, if_neg outside.1, ih outside.2]

section Pieces

variable {p : Char → Bool} {piece : List Char} {pieces : List (List Char)}

/-- A word without `c` stands in the pieces of a text that is cut at `c`, and only there. -/
theorem occurrences_eq_sum (only : ∀ d, p d = true → d = c) (absent : c ∉ w) (some : w ≠ [])
    (cs : List Char) : occurrences w cs = ((splitWhere p cs).map (occurrences w)).sum := by
  have joined (pieces : List (List Char)) :
      occurrences w ([c].intercalate pieces) = (pieces.map (occurrences w)).sum := by
    induction pieces with
    | nil => rfl
    | cons piece pieces ih =>
      cases pieces with
      | nil => simp
      | cons next pieces =>
        rw [List.map_cons, List.sum_cons, ← ih, List.intercalate_cons_cons, List.append_assoc,
          List.singleton_append]
        exact occurrences_append_cons absent some piece _
  rw [← joined, intercalate_splitWhere only]

theorem infix_of_splitWhere (cut : splitWhere p cs = piece :: pieces) :
    piece <+: cs ∧ ∀ other ∈ pieces, other <:+: cs := by
  induction cs generalizing piece pieces with
  | nil =>
    cases cut
    exact ⟨List.prefix_rfl, List.forall_mem_nil _⟩
  | cons c cs ih =>
    obtain ⟨first, rest, later⟩ := splitWhere_eq_cons p cs
    obtain ⟨front, behind⟩ := ih later
    have inside : ∀ other ∈ rest, other <:+: c :: cs :=
      fun other listed => List.infix_cons (behind other listed)
    cases here : p c with
    | true =>
      rw [splitWhere_cut here, later] at cut
      cases cut
      exact ⟨List.nil_prefix, List.forall_mem_cons.mpr ⟨List.infix_cons front.isInfix, inside⟩⟩
    | false =>
      rw [splitWhere_keep here later] at cut
      cases cut
      exact ⟨(List.prefix_cons_inj c).mpr front, inside⟩

theorem infix_of_mem_splitWhere (member : piece ∈ splitWhere p cs) : piece <:+: cs := by
  obtain ⟨first, rest, cut⟩ := splitWhere_eq_cons p cs
  obtain ⟨front, behind⟩ := infix_of_splitWhere cut
  rw [cut, List.mem_cons] at member
  rcases member with rfl | later
  · exact front.isInfix
  · exact behind piece later

theorem infix_of_mem_words (member : piece ∈ words cs) : piece <:+: cs :=
  infix_of_mem_splitWhere (List.mem_filter.mp member).1

end Pieces

end Retrofit.Chars
