import Retrofit.Text.Blank

/-! A text that is cut at some of its characters. No piece holds such a character, and the pieces say
where the cuts were. -/
namespace Retrofit.Chars

section Cuts

variable {α : Type} {p : α → Bool}

theorem splitWhere_cut {c : α} (cut : p c = true) (cs : List α) :
    splitWhere p (c :: cs) = [] :: splitWhere p cs := by
  simp [splitWhere, cut]

theorem splitWhere_keep {c : α} (keep : p c = false) {cs piece : List α}
    {pieces : List (List α)} (rest : splitWhere p cs = piece :: pieces) :
    splitWhere p (c :: cs) = (c :: piece) :: pieces := by
  simp [splitWhere, keep, rest]

theorem splitWhere_eq_cons (p : α → Bool) (cs : List α) :
    ∃ piece pieces, splitWhere p cs = piece :: pieces :=
  List.exists_cons_of_ne_nil (splitWhere_ne_nil p cs)

theorem uncut_of_mem_splitWhere {cs piece : List α} (member : piece ∈ splitWhere p cs) :
    ∀ c ∈ piece, p c = false := by
  induction cs generalizing piece with
  | nil =>
    rw [splitWhere, List.mem_singleton] at member
    simp [member]
  | cons c cs ih =>
    cases here : p c with
    | true =>
      rw [splitWhere_cut here, List.mem_cons] at member
      rcases member with rfl | later
      · simp
      · exact ih later
    | false =>
      obtain ⟨first, pieces, rest⟩ := splitWhere_eq_cons p cs
      rw [rest] at ih
      rw [splitWhere_keep here rest, List.mem_cons] at member
      rcases member with rfl | later
      · have kept := ih List.mem_cons_self
        rw [List.forall_mem_cons]
        exact ⟨here, kept⟩
      · exact ih (List.mem_cons_of_mem _ later)

theorem splitWhere_of_uncut {cs : List α} (uncut : ∀ c ∈ cs, p c = false) :
    splitWhere p cs = [cs] := by
  induction cs with
  | nil => rfl
  | cons c cs ih =>
    rw [List.forall_mem_cons] at uncut
    exact splitWhere_keep uncut.1 (ih uncut.2)

theorem splitWhere_append {c : α} (cut : p c = true) (xs ys : List α) :
    splitWhere p (xs ++ c :: ys) = splitWhere p xs ++ splitWhere p ys := by
  induction xs with
  | nil => exact splitWhere_cut cut ys
  | cons x xs ih =>
    cases here : p x with
    | true =>
      rw [List.cons_append, splitWhere_cut here, splitWhere_cut here, ih]
      rfl
    | false =>
      obtain ⟨piece, pieces, rest⟩ := splitWhere_eq_cons p xs
      rw [rest] at ih
      rw [List.cons_append, splitWhere_keep here ih, splitWhere_keep here rest]
      rfl

/-- The last piece of the first text goes on with the first piece of the second. -/
theorem splitWhere_joined {ys first : List α} {rest : List (List α)}
    (pieces : splitWhere p ys = first :: rest) (xs : List α) :
    ∃ front last, splitWhere p xs = front ++ [last] ∧
      splitWhere p (xs ++ ys) = front ++ (last ++ first) :: rest := by
  induction xs with
  | nil => exact ⟨[], [], rfl, pieces⟩
  | cons x xs ih =>
    obtain ⟨front, last, cut, joined⟩ := ih
    cases here : p x with
    | true =>
      refine ⟨[] :: front, last, ?_, ?_⟩
      · rw [splitWhere_cut here, cut]
        rfl
      · rw [List.cons_append, splitWhere_cut here, joined]
        rfl
    | false =>
      cases front with
      | nil => exact ⟨[], x :: last, splitWhere_keep here cut, splitWhere_keep here joined⟩
      | cons piece front =>
        exact ⟨(x :: piece) :: front, last, splitWhere_keep here cut, splitWhere_keep here joined⟩

/-- Cuts at one character only can be undone. -/
theorem intercalate_splitWhere {sep : α} (only : ∀ c, p c = true → c = sep) (cs : List α) :
    [sep].intercalate (splitWhere p cs) = cs := by
  induction cs with
  | nil => rfl
  | cons c cs ih =>
    obtain ⟨piece, pieces, rest⟩ := splitWhere_eq_cons p cs
    rw [rest] at ih
    cases here : p c with
    | true =>
      rw [splitWhere_cut here, rest, only c here, List.intercalate_cons_cons, ih]
      rfl
    | false =>
      rw [splitWhere_keep here rest]
      cases pieces with
      | nil => simpa using ih
      | cons next pieces =>
        rw [List.intercalate_cons_cons] at ih ⊢
        rw [← ih]
        rfl

/-- Each cut makes one piece more. -/
theorem length_splitWhere (p : α → Bool) (cs : List α) :
    (splitWhere p cs).length = cs.countP p + 1 := by
  induction cs with
  | nil => rfl
  | cons c cs ih =>
    cases here : p c with
    | true => rw [splitWhere_cut here, List.length_cons, ih, List.countP_cons_of_pos here]
    | false =>
      obtain ⟨piece, pieces, rest⟩ := splitWhere_eq_cons p cs
      rw [rest] at ih
      rw [splitWhere_keep here rest, List.countP_cons_of_neg (by simp [here]), ← ih]
      rfl

/-- Texts that are joined at a cut are cut one after the other. -/
theorem splitWhere_join {p : Char → Bool} {sep : String} {c : Char} (single : sep.toList = [c]) (cut : p c = true)
    {texts : List String} (filled : texts ≠ []) :
    splitWhere p (Text.join sep texts).toList = texts.flatMap fun s => splitWhere p s.toList := by
  induction texts with
  | nil => exact absurd rfl filled
  | cons s texts ih =>
    cases texts with
    | nil => simp [Text.join]
    | cons s' texts =>
      have more : s' :: texts ≠ [] := List.cons_ne_nil s' texts
      rw [List.flatMap_cons, ← ih more, ← splitWhere_append cut, Text.join.eq_3 _ _ _ more]
      simp [single]

theorem splitWhere_injective {sep : α} (only : ∀ c, p c = true → c = sep) {xs ys : List α}
    (same : splitWhere p xs = splitWhere p ys) : xs = ys := by
  have joined := congrArg [sep].intercalate same
  rwa [intercalate_splitWhere only, intercalate_splitWhere only] at joined

end Cuts

/-- The lines of a text. What is behind the last newline is one too, even if it is empty. -/
def lines (text : List Char) : List (List Char) :=
  splitWhere (· == '\n') text

theorem lines_append (xs ys : List Char) : lines (xs ++ '\n' :: ys) = lines xs ++ lines ys :=
  splitWhere_append (p := (· == '\n')) (beq_self_eq_true '\n') xs ys

theorem lines_of_unbroken {text : List Char} (unbroken : '\n' ∉ text) : lines text = [text] := by
  apply splitWhere_of_uncut
  intro c member
  rw [beq_eq_false_iff_ne]
  exact ne_of_mem_of_not_mem member unbroken

theorem length_lines (text : List Char) : (lines text).length = text.count '\n' + 1 :=
  length_splitWhere (· == '\n') text

theorem lines_join {texts : List String} (filled : texts ≠ []) :
    lines (Text.join "\n" texts).toList = texts.flatMap fun s => lines s.toList :=
  splitWhere_join (p := (· == '\n')) rfl (beq_self_eq_true '\n') filled

end Retrofit.Chars
