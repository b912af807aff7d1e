import Mathlib.Data.List.DropRight
import Mathlib.Data.List.Infix
import Retrofit.Proofs.Text.Words

/-! White space at the two ends of a text. -/
namespace Retrofit.Chars

/-- Neither the first nor the last character is white space. -/
structure Trimmed (cs : List Char) : Prop where
  first : ∀ nonempty : cs ≠ [], isBlank (cs.head nonempty) = false
  last : ∀ nonempty : cs ≠ [], isBlank (cs.getLast nonempty) = false

variable {xs ys cs gap : List Char}

theorem trimRight_eq_rdropWhile (cs : List Char) : trimRight cs = cs.rdropWhile isBlank :=
  rfl

theorem trimRight_eq_nil (blank : ∀ c ∈ gap, isBlank c = true) : trimRight gap = [] := by
  rw [trimRight_eq_rdropWhile, List.rdropWhile_eq_nil_iff]
  exact blank

theorem trimRight_append (xs ys : List Char) :
    trimRight (xs ++ ys) = if trimRight ys = [] then trimRight xs else xs ++ trimRight ys := by
  unfold trimRight
  rw [List.reverse_append, List.dropWhile_append]
  cases rest : ys.reverse.dropWhile isBlank with
  | nil => simp
  | cons c rest => simp

theorem trimRight_append_blank (xs : List Char) (blank : ∀ c ∈ gap, isBlank c = true) :
    trimRight (xs ++ gap) = trimRight xs := by
  rw [trimRight_append, if_pos (trimRight_eq_nil blank)]

/-- Nothing in front of a character that is not blank is trimmed. -/
theorem trimRight_solid (xs : List Char) {c : Char} (solid : isBlank c = false) (ys : List Char) :
    trimRight (xs ++ c :: ys) = xs ++ c :: trimRight ys := by
  have alone : trimRight [c] = [c] := by simp [trimRight, solid]
  have kept : trimRight (c :: ys) = c :: trimRight ys := by
    rw [trimRight_cons]
    split
    · rename_i nothing
      rw [nothing, alone]
    · rfl
  rw [trimRight_append, kept, if_neg (List.cons_ne_nil _ _)]

theorem trimRight_isPrefix (cs : List Char) : trimRight cs <+: cs :=
  List.rdropWhile_prefix isBlank cs

/-- What is trimmed at the end is blank. -/
theorem exists_gap (cs : List Char) :
    ∃ gap, cs = trimRight cs ++ gap ∧ ∀ c ∈ gap, isBlank c = true := by
  refine ⟨cs.rtakeWhile isBlank, ?_, ?_⟩
  · exact (List.rdropWhile_append_rtakeWhile (p := isBlank)).symm
  · intro c member
    exact List.mem_rtakeWhile_imp member

theorem trim_blank_append (blank : ∀ c ∈ gap, isBlank c = true) (cs : List Char) :
    trim (gap ++ cs) = trim cs := by
  rw [trim, List.dropWhile_append_of_pos blank]
  rfl

theorem trim_append_blank (cs : List Char) (blank : ∀ c ∈ gap, isBlank c = true) :
    trim (cs ++ gap) = trim cs := by
  unfold trim
  rw [List.dropWhile_append]
  cases front : cs.dropWhile isBlank with
  | nil => simp [List.dropWhile_eq_nil_iff.mpr blank]
  | cons c rest => exact trimRight_append_blank (c :: rest) blank

theorem trim_trimRight (cs : List Char) : trim (trimRight cs) = trim cs := by
  obtain ⟨gap, whole, blank⟩ := exists_gap cs
  conv_rhs => rw [whole]
  exact (trim_append_blank _ blank).symm

theorem trim_solid {c : Char} (solid : isBlank c = false) (cs : List Char) :
    trim (c :: cs) = trimRight (c :: cs) := by
  rw [trim, List.dropWhile_cons_of_neg (by simp [solid])]

theorem trim_infix (cs : List Char) : trim cs <:+: cs :=
  (trimRight_isPrefix _).isInfix.trans (List.dropWhile_suffix isBlank).isInfix

theorem trimmed_trim (cs : List Char) : Trimmed (trim cs) := by
  refine ⟨?_, ?_⟩
  · intro nonempty
    have kept : trim cs <+: cs.dropWhile isBlank := trimRight_isPrefix _
    rw [kept.head nonempty]
    exact List.head_dropWhile_not isBlank _
  · intro nonempty
    have solid := List.rdropWhile_last_not isBlank (cs.dropWhile isBlank) nonempty
    exact Bool.eq_false_iff.mpr solid

theorem Trimmed.trim_eq (trimmed : Trimmed cs) : trim cs = cs := by
  cases cs with
  | nil => rfl
  | cons c cs =>
    have solid : isBlank c = false := trimmed.first (List.cons_ne_nil c cs)
    rw [trim_solid solid, trimRight_eq_rdropWhile,
      List.rdropWhile_eq_self_iff]
    intro nonempty
    exact Bool.eq_false_iff.mp (trimmed.last nonempty)

end Retrofit.Chars
