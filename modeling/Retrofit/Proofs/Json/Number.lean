import Retrofit.Proofs.Json.Printer

/-! Numbers that are read back as they were written: all counts, and the tenths below one. -/
namespace Retrofit

/-- So many tenths. -/
def Binary64.tenths (k : Nat) : Binary64 :=
  (Binary64.ofDecimal? false k (-1)).getD .zero

namespace Json

/-! Digits -/

/-- What may follow a number is not part of it. -/
theorem EndsNumber.foreign {c : Char} {r : List Char} (ends : EndsNumber (c :: r)) :
    c.isDigit = false ∧ c ≠ '.' ∧ isExponentLetter c = false := by
  simp only [EndsNumber, isSpace, Bool.or_eq_true, beq_iff_eq] at ends
  rcases ends with rfl | rfl | rfl | ((rfl | rfl) | rfl) | rfl <;> decide

theorem EndsNumber.not_digit {rest : List Char} (ends : EndsNumber rest) :
    startsWithDigit rest = false := by
  cases rest with
  | nil => rfl
  | cons c r => exact ends.foreign.1

theorem le_ofDigitChars (ds : List Char) (n : Nat) : n ≤ Nat.ofDigitChars 10 ds n := by
  rw [Nat.ofDigitChars_eq_ofDigitChars_zero]
  have one : 1 ≤ 10 ^ ds.length := Nat.one_le_pow _ _ (by decide)
  have more := Nat.le_mul_of_pos_left n one
  omega

/-- Digits are taken from the front for as long as the number that they make fits. -/
theorem digitsUpTo_front {bound n : Nat} {ds : List Char} (digits : ∀ d ∈ ds, d.isDigit = true)
    (within : n ≤ bound) (taken : Nat) :
    ∃ front behind, ds = front ++ behind ∧ Nat.ofDigitChars 10 front n ≤ bound ∧
      (Nat.ofDigitChars 10 ds n ≤ bound → behind = []) ∧
      ∀ rest, startsWithDigit rest = false → digitsUpTo bound n taken (ds ++ rest) =
        (Nat.ofDigitChars 10 front n, taken + front.length, behind ++ rest) := by
  induction ds generalizing n taken with
  | nil =>
    refine ⟨[], [], rfl, within, fun _ => rfl, ?_⟩
    intro rest ended
    cases rest with
    | nil => rfl
    | cons c r =>
      have foreign : c.isDigit = false := ended
      simp [digitsUpTo, foreign]
  | cons d ds ih =>
    rw [List.forall_mem_cons] at digits
    have value : 10 * n + (d.toNat - '0'.toNat) = n * 10 + digitValue d := by
      rw [Nat.mul_comm]
      rfl
    by_cases next : n * 10 + digitValue d ≤ bound
    · obtain ⟨front, behind, split, fits, all, taking⟩ := ih digits.2 next (taken + 1)
      refine ⟨d :: front, behind, by rw [split, List.cons_append], ?_, ?_, ?_⟩
      · rwa [Nat.ofDigitChars_cons, value]
      · rwa [Nat.ofDigitChars_cons, value]
      · intro rest ended
        rw [Nat.ofDigitChars_cons, value, List.length_cons, Nat.add_comm front.length,
          ← Nat.add_assoc, ← taking rest ended]
        simp only [List.cons_append, digitsUpTo, digits.1, next, decide_true, Bool.and_self, if_true]
    · refine ⟨[], d :: ds, rfl, within, ?_, ?_⟩
      · intro fits
        rw [Nat.ofDigitChars_cons, value] at fits
        exact absurd (Nat.le_trans (le_ofDigitChars ds _) fits) next
      · intro rest _
        simp [digitsUpTo, next]

/-- Digits are taken as long as there are any, if the number that they make fits. -/
theorem digitsUpTo_digits {bound : Nat} {ds rest : List Char} (digits : ∀ d ∈ ds, d.isDigit = true)
    (ended : startsWithDigit rest = false) (n taken : Nat) (fits : Nat.ofDigitChars 10 ds n ≤ bound) :
    digitsUpTo bound n taken (ds ++ rest) = (Nat.ofDigitChars 10 ds n, taken + ds.length, rest) := by
  have within : n ≤ bound := Nat.le_trans (le_ofDigitChars ds n) fits
  obtain ⟨front, behind, split, -, all, taking⟩ := digitsUpTo_front digits within taken
  rw [taking rest ended, split, all fits, List.append_nil, List.nil_append]

/-- A number that is not zero does not begin with a zero. -/
theorem head_toDigits {n : Nat} (positive : 0 < n) :
    ∃ c ds, Nat.toDigits 10 n = c :: ds ∧ c ≠ '0' := by
  induction n using Nat.strongRecOn with
  | ind n ih =>
    rw [Nat.toDigits_eq_if (by decide)]
    split
    · rename_i single
      have solid : ∀ k : Fin 10, k.val ≠ 0 → k.val.digitChar ≠ '0' := by decide
      exact ⟨n.digitChar, [], rfl, solid ⟨n, single⟩ (Nat.ne_of_gt positive)⟩
    · rename_i long
      obtain ⟨c, ds, front, solid⟩ := ih (n / 10) (by omega) (by omega)
      exact ⟨c, ds ++ [Nat.digitChar (n % 10)], by rw [front]; rfl, solid⟩

/-- The digits of a whole number: one zero, or digits that do not begin with a zero. -/
inductive Whole : List Char → Prop
  | zero : Whole ['0']
  | solid (c ds) (nonzero : c ≠ '0') (digits : ∀ d ∈ c :: ds, d.isDigit = true) : Whole (c :: ds)

theorem digits_toDigits (n : Nat) : ∀ d ∈ Nat.toDigits 10 n, d.isDigit = true :=
  fun _ member => Nat.isDigit_of_mem_toDigits (by decide) (by decide) member

theorem toDigits_whole (n : Nat) : Whole (Nat.toDigits 10 n) := by
  rcases Nat.eq_zero_or_pos n with rfl | positive
  · rw [Nat.toDigits_zero]
    exact .zero
  · have digits := digits_toDigits n
    obtain ⟨c, ds, front, solid⟩ := head_toDigits positive
    rw [front] at digits ⊢
    exact .solid c ds solid digits

theorem unsignedNumber_whole (negative : Bool) {ds rest : List Char} (whole : Whole ds)
    (fits : Nat.ofDigitChars 10 ds 0 ≤ largestWord) (ended : startsWithDigit rest = false) :
    unsignedNumber negative (ds ++ rest) = afterWhole negative (Nat.ofDigitChars 10 ds 0) rest := by
  cases whole with
  | zero =>
    simp only [List.singleton_append, unsignedNumber, if_true, ended, Bool.false_eq_true, if_false]
    rfl
  | solid c ds nonzero digits =>
    have taken := digitsUpTo_digits digits ended 0 0 fits
    rw [List.cons_append] at taken ⊢
    simp only [unsignedNumber, nonzero, if_false, digits c List.mem_cons_self, if_true, taken, ended,
      Bool.false_eq_true]

/-- All that is read behind the point are the digits; those that do not fit are dropped. -/
theorem fractionPart_front (negative : Bool) {n : Nat} (within : n ≤ largestWord) (e : Int)
    {ds : List Char} (digits : ∀ d ∈ ds, d.isDigit = true) (some : ds ≠ []) :
    ∃ front behind, ds = front ++ behind ∧ Nat.ofDigitChars 10 front n ≤ largestWord ∧
      (Nat.ofDigitChars 10 ds n ≤ largestWord → behind = []) ∧
      ∀ rest, startsWithDigit rest = false → fractionPart negative n e (ds ++ rest) =
        afterDigits negative (Nat.ofDigitChars 10 front n) (e - front.length) rest := by
  obtain ⟨front, behind, split, fits, all, taking⟩ := digitsUpTo_front digits within 0
  refine ⟨front, behind, split, fits, all, ?_⟩
  intro rest ended
  rw [fractionPart, taking rest ended]
  dsimp only
  rw [Nat.zero_add]
  rw [split, List.forall_mem_append] at digits
  cases behind with
  | nil =>
    have taken : front.length ≠ 0 := by
      rw [List.append_nil] at split
      rw [← split]
      exact List.length_eq_zero_iff.not.mpr some
    simp only [List.nil_append, ended, Bool.false_eq_true, if_false, taken]
  | cons d ds =>
    have goesOn : startsWithDigit (d :: ds ++ rest) = true := digits.2 d List.mem_cons_self
    have dropped : (d :: ds ++ rest).dropWhile Char.isDigit = rest := by
      rw [List.dropWhile_append_of_pos digits.2]
      cases rest with
      | nil => rfl
      | cons c r => exact List.dropWhile_cons_of_neg (Bool.eq_false_iff.mp ended)
    rw [if_pos goesOn, dropped]

/-! Counts -/

theorem afterWhole_ended (negative : Bool) (n : Nat) {rest : List Char} (ends : EndsNumber rest) :
    afterWhole negative n rest = .ok (wholeNumber negative n, rest) := by
  cases rest with
  | nil => rfl
  | cons c r =>
    obtain ⟨-, point, letter⟩ := ends.foreign
    simp [afterWhole, point, letter]

theorem unsignedNumber_toDigits (negative : Bool) {n : Nat} (fits : n ≤ largestWord) {rest : List Char}
    (ends : EndsNumber rest) :
    unsignedNumber negative (Nat.toDigits 10 n ++ rest) = .ok (wholeNumber negative n, rest) := by
  have value : Nat.ofDigitChars 10 (Nat.toDigits 10 n) 0 = n := Nat.ofDigitChars_ten_toDigits
  have within : Nat.ofDigitChars 10 (Nat.toDigits 10 n) 0 ≤ largestWord := by
    rw [value]
    exact fits
  rw [unsignedNumber_whole negative (toDigits_whole n) within ends.not_digit, value,
    afterWhole_ended negative n ends]

theorem number_of_digit {c : Char} (digit : c.isDigit = true) (cs : List Char) :
    number (c :: cs) = unsignedNumber false (c :: cs) := by
  unfold number
  split
  · rename_i same
    cases same
    cases digit
  · rfl

theorem integer_legible {n : Nat} (fits : n ≤ largestWord) : (Number.integer n).Legible := by
  have written : writtenNumber (.integer n) = Nat.toDigits 10 n := by
    simp [writtenNumber, writtenInteger]
  obtain ⟨c, ds, front⟩ := List.exists_cons_of_ne_nil (Nat.toDigits_ne_nil (n := n) (b := 10))
  have digit : c.isDigit = true :=
    digits_toDigits n c (by rw [front]; exact List.mem_cons_self)
  rw [Number.Legible, written]
  refine ⟨⟨c, ds, front, by rw [digit, Bool.or_true]⟩, ?_⟩
  intro rest ends
  have read := unsignedNumber_toDigits false fits ends
  rw [front, List.cons_append] at read ⊢
  rw [number_of_digit digit, read]
  rfl

/-! Tenths -/

theorem afterDigits_ended (negative : Bool) (n : Nat) (e : Int) {rest : List Char}
    (ends : EndsNumber rest) : afterDigits negative n e rest = realNumber negative n e rest := by
  cases rest with
  | nil => rfl
  | cons c r => simp [afterDigits, ends.foreign.2.2]

/-- One digit behind the point is read as so many tenths. -/
theorem number_pointed {d : Char} (digit : d.isDigit = true) (small : digitValue d ≤ largestWord)
    {rest : List Char} (ends : EndsNumber rest) :
    number ('0' :: '.' :: d :: rest) = realNumber false (digitValue d) (-1) rest := by
  have value : Nat.ofDigitChars 10 [d] 0 = digitValue d := by
    simp [Nat.ofDigitChars_cons, digitValue]
  have within : Nat.ofDigitChars 10 [d] 0 ≤ largestWord := by
    rw [value]
    exact small
  have taken := digitsUpTo_digits (List.forall_mem_singleton.mpr digit) ends.not_digit 0 0 within
  rw [value, List.singleton_append] at taken
  have fraction : fractionPart false 0 0 (d :: rest) = realNumber false (digitValue d) (-1) rest := by
    simp [fractionPart, taken, ends.not_digit, afterDigits_ended false _ _ ends]
  have point : startsWithDigit ('.' :: d :: rest) = false := rfl
  rw [number_of_digit rfl]
  simp [unsignedNumber, point, afterWhole, fraction]

theorem tenths_legible {k : Nat} (below : k < 10) : (Number.real (.tenths k)).Legible := by
  have written : ∀ k : Fin 10, (Binary64.tenths k).text = ['0', '.', k.val.digitChar] := by
    decide +kernel
  have scaled : ∀ k : Fin 10, scaled? k (-1) = some (.tenths k) := by decide +kernel
  have digit : ∀ k : Fin 10, k.val.digitChar.isDigit = true ∧ digitValue k.val.digitChar = k := by
    decide
  obtain ⟨isDigit, value⟩ := digit ⟨k, below⟩
  have text := written ⟨k, below⟩
  have real := scaled ⟨k, below⟩
  dsimp only at isDigit value text real
  rw [Number.Legible, writtenNumber, text]
  refine ⟨⟨'0', _, rfl, rfl⟩, ?_⟩
  intro rest ends
  have small : digitValue k.digitChar ≤ largestWord := by
    rw [value, largestWord, UInt64.size]
    omega
  have read := number_pointed isDigit small ends
  rw [value, realNumber, real] at read
  exact read

end Json

end Retrofit
