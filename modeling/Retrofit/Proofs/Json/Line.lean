import Mathlib.Tactic.SplitIfs
import Retrofit.Json.Printer

/-! A document that is written compactly holds no control character, and so it is one line. -/
namespace Retrofit

/-- No character is a control character of the first row of the code table. -/
def Chars.Uncontrolled (cs : List Char) : Prop :=
  ∀ c ∈ cs, 0x20 ≤ c.toNat

instance : DecidablePred Chars.Uncontrolled :=
  fun cs => List.decidableBAll _ cs

namespace Chars.Uncontrolled

variable {c : Char} {xs ys : List Char}

theorem nil : Uncontrolled [] :=
  List.forall_mem_nil _

theorem cons (first : 0x20 ≤ c.toNat) (rest : Uncontrolled xs) : Uncontrolled (c :: xs) :=
  List.forall_mem_cons.mpr ⟨first, rest⟩

theorem append (front : Uncontrolled xs) (behind : Uncontrolled ys) : Uncontrolled (xs ++ ys) :=
  List.forall_mem_append.mpr ⟨front, behind⟩

theorem digit (digit : c.isDigit = true) : 0x20 ≤ c.toNat :=
  Nat.le_trans (by decide) (Char.isDigit_iff_toNat.mp digit).1

theorem toDigits (n : Nat) : Uncontrolled (Nat.toDigits 10 n) :=
  fun _ member => digit (Nat.isDigit_of_mem_toDigits (by decide) (by decide) member)

end Chars.Uncontrolled

open Chars (Uncontrolled)

/-! Numbers -/

section Decimals

variable {P : Char → Prop} (digit : ∀ d : Char, d.isDigit = true → P d)
  (marks : ∀ d ∈ ['-', '+', '.', 'e'], P d)

include digit marks

/-- A decimal is written with digits, signs, a point and the letter of the exponent. -/
theorem Binary64.forall_mem_decimalText (c : Nat) (p : Int) : ∀ d ∈ decimalText c p, P d := by
  have digits (n : Nat) : ∀ d ∈ Nat.toDigits 10 n, P d :=
    fun d member => digit d (Nat.isDigit_of_mem_toDigits (by decide) (by decide) member)
  have front (n : Nat) : ∀ d ∈ (Nat.toDigits 10 c).take n, P d :=
    fun d member => digits c d (List.mem_of_mem_take member)
  have behind (n : Nat) : ∀ d ∈ (Nat.toDigits 10 c).drop n, P d :=
    fun d member => digits c d (List.mem_of_mem_drop member)
  have zeros (n : Nat) : ∀ d ∈ List.replicate n '0', P d :=
    fun d member => List.eq_of_mem_replicate member ▸ digit '0' rfl
  have exponent (e : Int) := digits e.natAbs
  have zero : P '0' := digit '0' rfl
  simp only [List.forall_mem_cons] at marks
  obtain ⟨minus, plus, point, letter, -⟩ := marks
  unfold decimalText
  dsimp only
  split_ifs <;> simp only [List.forall_mem_append, List.forall_mem_cons, List.cons_append]
  · exact ⟨zero, point, zeros _, digits c⟩
  · exact ⟨front _, point, behind _⟩
  · exact ⟨⟨digits c, zeros _⟩, point, zero, List.forall_mem_nil _⟩
  · exact ⟨⟨⟨front 1, List.forall_mem_nil _⟩, letter, minus, List.forall_mem_nil _⟩, exponent _⟩
  · exact ⟨⟨⟨front 1, List.forall_mem_nil _⟩, letter, plus, List.forall_mem_nil _⟩, exponent _⟩
  · exact ⟨⟨⟨front 1, point, behind 1⟩, letter, minus, List.forall_mem_nil _⟩, exponent _⟩
  · exact ⟨⟨⟨front 1, point, behind 1⟩, letter, plus, List.forall_mem_nil _⟩, exponent _⟩

theorem Binary64.forall_mem_text (x : Binary64) : ∀ d ∈ x.text, P d := by
  unfold text
  rw [List.forall_mem_append]
  refine ⟨?_, ?_⟩
  · split
    · exact List.forall_mem_singleton.mpr (marks '-' (by decide))
    · exact List.forall_mem_nil _
  · split
    · have zero : P '0' := digit '0' rfl
      have point : P '.' := marks '.' (by decide)
      simp only [List.forall_mem_cons]
      exact ⟨zero, point, zero, List.forall_mem_nil _⟩
    · exact forall_mem_decimalText digit marks _ _

end Decimals

theorem Binary64.text_uncontrolled (x : Binary64) : Uncontrolled x.text := by
  have marks : Uncontrolled ['-', '+', '.', 'e'] := by decide
  exact forall_mem_text (fun _ => Uncontrolled.digit) marks x

namespace Json

theorem writtenNumber_uncontrolled (n : Number) : Uncontrolled (writtenNumber n) := by
  cases n with
  | integer n =>
    have sign : Uncontrolled (if n < 0 then ['-'] else []) := by
      split <;> decide
    exact sign.append (.toDigits n.natAbs)
  | real x => exact x.text_uncontrolled

/-! Texts -/

theorem writtenChar_uncontrolled (c : Char) : Uncontrolled (writtenChar c) := by
  have hex : ∀ n : Fin 16, 0x20 ≤ (hexDigit n).toNat := by decide
  unfold writtenChar
  split_ifs with quote backslash line carriage tab back feed control
  · decide
  · decide
  · decide
  · decide
  · decide
  · decide
  · decide
  · have digits : Uncontrolled [hexDigit (c.toNat / 16), hexDigit (c.toNat % 16)] :=
      .cons (hex ⟨c.toNat / 16, by omega⟩) (.cons (hex ⟨c.toNat % 16, by omega⟩) .nil)
    have escape : Uncontrolled ['\\', 'u', '0', '0'] := by decide
    exact escape.append digits
  · exact .cons (Nat.le_of_not_lt control) .nil

theorem writtenText_uncontrolled (s : String) : Uncontrolled (writtenText s) := by
  have body : Uncontrolled (s.toList.flatMap writtenChar) := by
    intro c member
    obtain ⟨d, -, inside⟩ := List.mem_flatMap.mp member
    exact writtenChar_uncontrolled d c inside
  exact .append (.cons (by decide) body) (by decide)

/-! Values -/

mutual

theorem compactValue_uncontrolled : (v : Value) → Uncontrolled (compactValue v)
  | .null | .bool true | .bool false | .array [] | .object [] => by
    simp only [compactValue]
    decide
  | .number n => by
    simp only [compactValue]
    exact writtenNumber_uncontrolled n
  | .text s => by
    simp only [compactValue]
    exact writtenText_uncontrolled s
  | .array (v :: vs) => by
    simp only [compactValue]
    exact .append (.cons (by decide) (compactValue_uncontrolled v)) (compactItems_uncontrolled vs)
  | .object ((k, v) :: ms) => by
    simp only [compactValue]
    have key : Uncontrolled ('{' :: writtenText k) := .cons (by decide) (writtenText_uncontrolled k)
    have value : Uncontrolled (':' :: compactValue v) := .cons (by decide) (compactValue_uncontrolled v)
    exact (key.append value).append (compactMembers_uncontrolled ms)

theorem compactItems_uncontrolled : (vs : List Value) → Uncontrolled (compactItems vs)
  | [] => by
    simp only [compactItems]
    decide
  | v :: vs => by
    simp only [compactItems]
    exact .append (.cons (by decide) (compactValue_uncontrolled v)) (compactItems_uncontrolled vs)

theorem compactMembers_uncontrolled : (ms : List (String × Value)) → Uncontrolled (compactMembers ms)
  | [] => by
    simp only [compactMembers]
    decide
  | (k, v) :: ms => by
    simp only [compactMembers]
    have key : Uncontrolled (',' :: writtenText k) := .cons (by decide) (writtenText_uncontrolled k)
    have value : Uncontrolled (':' :: compactValue v) := .cons (by decide) (compactValue_uncontrolled v)
    exact (key.append value).append (compactMembers_uncontrolled ms)

end

end Json

end Retrofit
