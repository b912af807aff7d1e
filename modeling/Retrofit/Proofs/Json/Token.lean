import Mathlib.Data.List.DropRight
import Retrofit.Json.Skim

/-! Where a token ends. Every token is passed over exactly as far as it is read, so that reading and
skimming a document part company only over what its numbers and texts stand for. -/
namespace Retrofit.Json

/-- What a reader makes of the front of a text, apart from the text that is left and the place of a
fault. -/
def reading {α : Type} (read : Except Fault (α × List Char)) : Except Cause α :=
  match read with
  | .ok (x, _) => .ok x
  | .error f => .error f.cause

/-- Passes over a number with its sign. -/
def numeral : Skimmer := fun cs =>
  match cs with
  | '-' :: r => skimNumber r
  | r => skimNumber r

theorem length_skipSpace (cs : List Char) : (skipSpace cs).length ≤ cs.length :=
  List.length_dropWhile_le _ cs

theorem skipSpace_skipSpace (cs : List Char) : skipSpace (skipSpace cs) = skipSpace cs :=
  List.dropWhile_idempotent _ cs

theorem length_of_skipSpace {cs r : List Char} {c : Char} (front : skipSpace cs = c :: r) :
    r.length < cs.length := by
  have bound := length_skipSpace cs
  rw [front, List.length_cons] at bound
  omega

theorem not_space_of_skipSpace {cs r : List Char} {c : Char} (front : skipSpace cs = c :: r) :
    isSpace c = false := by
  have stable := skipSpace_skipSpace cs
  rw [front, skipSpace, List.dropWhile_cons] at stable
  cases space : isSpace c with
  | false => rfl
  | true =>
    simp only [space, if_true] at stable
    have bound := List.length_dropWhile_le isSpace r
    rw [stable, List.length_cons] at bound
    omega

theorem skipSpace_cons {c : Char} (solid : isSpace c = false) (r : List Char) :
    skipSpace (c :: r) = c :: r := by
  simp [skipSpace, solid]

theorem word_length (ws cs rest : List Char) (ok : word ws cs = .ok rest) :
    rest.length ≤ cs.length := by
  induction ws generalizing cs with
  | nil =>
    simp only [word, Except.ok.injEq] at ok
    simp [ok]
  | cons w ws ih =>
    cases cs with
    | nil => simp [word, here] at ok
    | cons c cs =>
      simp only [word] at ok
      split at ok
      · exact Nat.le_succ_of_le (ih cs ok)
      · simp [past] at ok

theorem colon_length (cs rest : List Char) (ok : colon cs = .ok rest) :
    rest.length < cs.length := by
  unfold colon at ok
  split at ok
  · simp [past] at ok
  · rename_i c r front
    split at ok
    · simp only [Except.ok.injEq] at ok
      subst ok
      exact length_of_skipSpace front
    · simp [past] at ok

/-! Numbers -/

theorem exponentSign_length (cs : List Char) : (exponentSign cs).2.length ≤ cs.length := by
  unfold exponentSign
  split <;> simp

theorem skimExponent_length (cs rest : List Char) (ok : skimExponent cs = .ok rest) :
    rest.length ≤ cs.length := by
  have signed := exponentSign_length cs
  unfold skimExponent at ok
  split at ok
  · simp [here] at ok
  · rename_i c r front
    rw [front, List.length_cons] at signed
    split at ok
    · simp only [Except.ok.injEq] at ok
      subst ok
      have bound := List.length_dropWhile_le Char.isDigit r
      omega
    · simp [past] at ok

theorem skimFraction_length (cs rest : List Char) (ok : skimFraction cs = .ok rest) :
    rest.length ≤ cs.length := by
  have bound := List.length_dropWhile_le Char.isDigit cs
  unfold skimFraction at ok
  split at ok
  · split at ok
    · simp only [Except.ok.injEq] at ok
      simp [← ok]
    · rename_i c r front
      rw [front, List.length_cons] at bound
      split at ok
      · have shorter := skimExponent_length r rest ok
        omega
      · simp only [Except.ok.injEq] at ok
        simp only [← ok, List.length_cons]
        omega
  · simp [past] at ok

theorem skimAfterWhole_length (cs rest : List Char) (ok : skimAfterWhole cs = .ok rest) :
    rest.length ≤ cs.length := by
  unfold skimAfterWhole at ok
  split at ok
  · simp only [Except.ok.injEq] at ok
    simp [← ok]
  · rename_i c r
    split at ok
    · exact Nat.le_succ_of_le (skimFraction_length r rest ok)
    · split at ok
      · exact Nat.le_succ_of_le (skimExponent_length r rest ok)
      · simp only [Except.ok.injEq] at ok
        simp [← ok]

theorem skimNumber_length (cs rest : List Char) (ok : skimNumber cs = .ok rest) :
    rest.length < cs.length := by
  unfold skimNumber at ok
  split at ok
  · simp [here] at ok
  · rename_i c r
    split at ok
    · split at ok
      · simp [past] at ok
      · exact Nat.lt_succ_of_le (skimAfterWhole_length r rest ok)
    · split at ok
      · have shorter := skimAfterWhole_length _ rest ok
        have bound := List.length_dropWhile_le Char.isDigit r
        simp only [List.length_cons]
        omega
      · simp [past] at ok

theorem numeral_length (cs rest : List Char) (ok : numeral cs = .ok rest) :
    rest.length < cs.length := by
  unfold numeral at ok
  split at ok
  · exact Nat.lt_succ_of_lt (skimNumber_length _ rest ok)
  · exact skimNumber_length cs rest ok

theorem dropDigits_of_not_starts {cs : List Char} (none : startsWithDigit cs = false) :
    cs.dropWhile Char.isDigit = cs := by
  cases cs with
  | nil => rfl
  | cons c cs => simp_all [startsWithDigit]

/-- However many digits fit, all of them stand in front of the same text. -/
theorem digitsUpTo_dropDigits (bound n taken : Nat) (cs : List Char) :
    (digitsUpTo bound n taken cs).2.2.dropWhile Char.isDigit = cs.dropWhile Char.isDigit := by
  induction cs generalizing n taken with
  | nil => rfl
  | cons c cs ih =>
    unfold digitsUpTo
    split
    · rename_i fits
      simp only [Bool.and_eq_true] at fits
      rw [ih, List.dropWhile_cons, if_pos fits.1]
    · rfl

theorem digitsUpTo_none_or_starts (bound n taken : Nat) (cs : List Char) :
    digitsUpTo bound n taken cs = (n, taken, cs) ∨ startsWithDigit cs = true := by
  cases cs with
  | nil => exact .inl rfl
  | cons c cs =>
    cases digit : c.isDigit with
    | true => exact .inr digit
    | false => exact .inl (by simp [digitsUpTo, digit])

theorem signedReal_rest {negative : Bool} {size : Option Binary64} {cs rest : List Char}
    {x : Number} (ok : signedReal negative size cs = .ok (x, rest)) : rest = cs := by
  cases size with
  | none => simp [signedReal, here] at ok
  | some y =>
    simp only [signedReal, Except.ok.injEq, Prod.mk.injEq] at ok
    exact ok.2.symm

theorem realNumber_rest {negative : Bool} {n : Nat} {e : Int} {cs rest : List Char} {x : Number}
    (ok : realNumber negative n e cs = .ok (x, rest)) : rest = cs :=
  signedReal_rest ok

theorem exponentPart_skimmed (negative : Bool) (n : Nat) (e : Int) (cs rest : List Char)
    (x : Number) (ok : exponentPart negative n e cs = .ok (x, rest)) :
    skimExponent cs = .ok rest := by
  unfold exponentPart at ok
  unfold skimExponent
  generalize exponentSign cs = signed at ok ⊢
  obtain ⟨down, r⟩ := signed
  cases r with
  | nil => simp [here] at ok
  | cons c r =>
    dsimp only at ok ⊢
    have all := digitsUpTo_dropDigits largestExponent 0 0 (c :: r)
    generalize digitsUpTo largestExponent 0 0 (c :: r) = found at ok all
    obtain ⟨k, taken, left⟩ := found
    dsimp only at ok all
    split at ok
    · rename_i digit
      rw [List.dropWhile_cons, if_pos digit] at all
      rw [if_pos digit, ← all]
      cases left with
      | nil => rw [realNumber_rest ok]; rfl
      | cons d left =>
        dsimp only at ok
        split at ok
        · rename_i more
          split at ok
          · simp [here] at ok
          · simp only [Except.ok.injEq, Prod.mk.injEq] at ok
            rw [List.dropWhile_cons, if_pos more, ok.2]
        · rename_i ended
          rw [realNumber_rest ok, List.dropWhile_cons, if_neg ended]
    · simp [past] at ok

/-- What may follow the digits of a number is passed over as it is read. -/
theorem afterDigits_skimmed (negative : Bool) (n : Nat) (e : Int) (cs rest : List Char)
    (x : Number) (ok : afterDigits negative n e cs = .ok (x, rest)) :
    (match cs with
      | [] => Except.ok []
      | c :: r => if isExponentLetter c then skimExponent r else .ok (c :: r)) = .ok rest := by
  unfold afterDigits at ok
  split at ok
  · rw [realNumber_rest ok]
  · split at ok
    · rename_i letter
      simp only [letter, if_true]
      exact exponentPart_skimmed negative n e _ rest x ok
    · rename_i letter
      simp only [letter, Bool.false_eq_true, if_false]
      rw [realNumber_rest ok]

theorem fractionPart_skimmed (negative : Bool) (n : Nat) (e : Int) (cs rest : List Char)
    (x : Number) (ok : fractionPart negative n e cs = .ok (x, rest)) :
    skimFraction cs = .ok rest := by
  unfold fractionPart at ok
  have all := digitsUpTo_dropDigits largestWord n 0 cs
  have started := digitsUpTo_none_or_starts largestWord n 0 cs
  generalize digitsUpTo largestWord n 0 cs = found at ok all started
  obtain ⟨m, taken, r⟩ := found
  dsimp only at ok all
  have starts : startsWithDigit cs = true := by
    rcases started with same | starts
    · simp only [Prod.mk.injEq] at same
      obtain ⟨-, rfl, rfl⟩ := same
      split at ok
      · assumption
      · simp only [if_true] at ok
        split at ok <;> simp [past] at ok
    · exact starts
  unfold skimFraction
  rw [if_pos starts, ← all]
  split at ok
  · exact afterDigits_skimmed _ _ _ _ rest x ok
  · rename_i ended
    rw [dropDigits_of_not_starts (by simpa using ended)]
    split at ok
    · split at ok <;> simp [past] at ok
    · exact afterDigits_skimmed _ _ _ _ rest x ok

theorem afterWhole_skimmed (negative : Bool) (n : Nat) (cs rest : List Char) (x : Number)
    (ok : afterWhole negative n cs = .ok (x, rest)) : skimAfterWhole cs = .ok rest := by
  unfold afterWhole at ok
  split at ok
  · cases ok
    rfl
  · unfold skimAfterWhole
    dsimp only
    split at ok
    · rename_i point
      rw [if_pos point]
      exact fractionPart_skimmed _ _ _ _ rest x ok
    · rename_i point
      rw [if_neg point]
      split at ok
      · rename_i letter
        rw [if_pos letter]
        exact exponentPart_skimmed _ _ _ _ rest x ok
      · rename_i letter
        rw [if_neg letter]
        simp only [Except.ok.injEq, Prod.mk.injEq] at ok
        rw [ok.2]

theorem unsignedNumber_skimmed (negative : Bool) (cs rest : List Char) (x : Number)
    (ok : unsignedNumber negative cs = .ok (x, rest)) : skimNumber cs = .ok rest := by
  unfold unsignedNumber at ok
  split at ok
  · simp [here] at ok
  · rename_i c r
    unfold skimNumber
    dsimp only
    split at ok
    · rename_i zero
      rw [if_pos zero]
      split at ok
      · simp [past] at ok
      · rename_i ended
        rw [if_neg ended]
        exact afterWhole_skimmed _ _ _ rest x ok
    · rename_i zero
      rw [if_neg zero]
      split at ok
      · rename_i digit
        rw [if_pos digit]
        have all := digitsUpTo_dropDigits largestWord 0 0 (c :: r)
        rw [List.dropWhile_cons, if_pos digit] at all
        generalize digitsUpTo largestWord 0 0 (c :: r) = found at ok all
        obtain ⟨m, taken, r'⟩ := found
        dsimp only at ok all
        rw [← all]
        split at ok
        · unfold skimAfterWhole
          split at ok
          · rename_i r'' front
            rw [front]
            exact fractionPart_skimmed _ _ _ _ rest x ok
          · rename_i other
            have skimmed := afterDigits_skimmed _ _ _ _ rest x ok
            generalize r'.dropWhile Char.isDigit = after at skimmed other
            cases after with
            | nil => exact skimmed
            | cons d r'' =>
              have point : d ≠ '.' := fun same => other r'' (by rw [same])
              dsimp only
              rw [if_neg point]
              exact skimmed
        · rename_i ended
          rw [dropDigits_of_not_starts (by simpa using ended)]
          exact afterWhole_skimmed _ _ _ rest x ok
      · simp [past] at ok

theorem numeral_unsigned {c : Char} {r : List Char} (plain : c ≠ '-') :
    numeral (c :: r) = skimNumber (c :: r) := by
  unfold numeral
  split
  · rename_i minus
    exact absurd (List.cons.inj minus).1 plain
  · rfl

/-- A number that can be read is passed over up to the same place. -/
theorem number_skimmed (cs rest : List Char) (x : Number) (ok : number cs = .ok (x, rest)) :
    numeral cs = .ok rest := by
  unfold number at ok
  split at ok
  · exact unsignedNumber_skimmed true _ rest x ok
  · rename_i plain
    cases cs with
    | nil => cases ok
    | cons c r =>
      have unsigned : c ≠ '-' := fun minus => plain r (by rw [minus])
      rw [numeral_unsigned unsigned]
      exact unsignedNumber_skimmed false (c :: r) rest x ok

/-! Texts -/

theorem hexUnit_length (cs rest : List Char) (n : Nat) (ok : hexUnit cs = .ok (n, rest)) :
    rest.length < cs.length := by
  unfold hexUnit at ok
  split at ok
  · simp at ok
  · split at ok
    · split at ok
      · simp only [Except.ok.injEq, Prod.mk.injEq] at ok
        simp only [← ok.2, List.length_cons]
        omega
      · simp at ok
    · simp at ok

theorem skimEscape_length (cs rest : List Char) (ok : skimEscape cs = .ok rest) :
    rest.length < cs.length := by
  unfold skimEscape at ok
  split at ok
  · simp [here] at ok
  · rename_i c r
    split at ok
    · cases unit : hexUnit r with
      | error f => simp [unit, Except.map] at ok
      | ok found =>
        simp only [unit, Except.map, Except.ok.injEq] at ok
        subst ok
        exact Nat.lt_succ_of_lt (hexUnit_length r _ found.1 unit)
    · split at ok
      · simp only [Except.ok.injEq] at ok
        simp [← ok]
      · simp [past] at ok

theorem skimText_length (n : Nat) (cs rest : List Char) (ok : skimText n cs = .ok rest) :
    rest.length < cs.length := by
  induction n generalizing cs with
  | zero => simp [skimText, here] at ok
  | succ n ih =>
    cases cs with
    | nil => simp [skimText, here] at ok
    | cons c r =>
      simp only [skimText] at ok
      split at ok
      · simp only [Except.ok.injEq] at ok
        simp [← ok]
      · split at ok
        · split at ok
          · rename_i r' escaped
            have shorter := skimEscape_length r r' escaped
            have shortest := ih r' ok
            simp only [List.length_cons]
            omega
          · simp at ok
        · split at ok
          · simp [here] at ok
          · exact Nat.lt_succ_of_lt (ih r ok)

/-- A character by number takes one escape, or two when it is written as a pair of surrogates. -/
theorem unicodeEscape_skimmed (cs rest : List Char) (x : Char)
    (ok : unicodeEscape cs = .ok (x, rest)) :
    skimEscape ('u' :: cs) = .ok rest ∨
      ∃ r, skimEscape ('u' :: cs) = .ok ('\\' :: r) ∧ skimEscape r = .ok rest := by
  unfold unicodeEscape at ok
  cases unit : hexUnit cs with
  | error f => simp [unit, bind, Except.bind] at ok
  | ok found =>
    obtain ⟨n, r⟩ := found
    simp only [unit, bind, Except.bind] at ok
    have first : skimEscape ('u' :: cs) = .ok r := by simp [skimEscape, unit, Except.map]
    rw [first]
    split at ok
    · simp [here] at ok
    · split at ok
      · -- The first half of a pair: the second half must follow.
        cases r with
        | nil => simp [here] at ok
        | cons b r =>
          dsimp only at ok
          split at ok
          · rename_i backslash
            subst backslash
            cases r with
            | nil => simp [here] at ok
            | cons u r =>
              dsimp only at ok
              split at ok
              · rename_i letter
                subst letter
                cases low : hexUnit r with
                | error f => simp [low] at ok
                | ok half =>
                  obtain ⟨m, r'⟩ := half
                  simp only [low] at ok
                  split at ok
                  · simp only [Except.ok.injEq, Prod.mk.injEq] at ok
                    refine .inr ⟨'u' :: r, rfl, ?_⟩
                    simp [skimEscape, low, Except.map, ok.2]
                  · simp [here] at ok
              · simp [past] at ok
          · simp [past] at ok
      · simp only [Except.ok.injEq, Prod.mk.injEq] at ok
        exact .inl (by rw [ok.2])

theorem escape_skimmed (cs rest : List Char) (x : Char) (ok : escape cs = .ok (x, rest)) :
    skimEscape cs = .ok rest ∨
      ∃ r, skimEscape cs = .ok ('\\' :: r) ∧ skimEscape r = .ok rest := by
  unfold escape at ok
  split at ok
  · simp [here] at ok
  · rename_i c r
    split at ok
    · rename_i letter
      subst letter
      exact unicodeEscape_skimmed r rest x ok
    · rename_i letter
      split at ok
      · rename_i y short
        simp only [Except.ok.injEq, Prod.mk.injEq] at ok
        apply Or.inl
        simp [skimEscape, letter, short, ok.2]
      · simp [past] at ok

/-- A text that can be read is passed over up to the same quote. A pair of surrogates takes two steps
here and one there, so the counts of steps are not the same. -/
theorem textBody_skimmed (n m : Nat) (seen cs out rest : List Char)
    (ok : textBody n seen cs = .ok (out, rest)) (enough : cs.length < m) :
    skimText m cs = .ok rest := by
  induction n generalizing m seen cs with
  | zero => simp [textBody, here] at ok
  | succ n ih =>
    cases cs with
    | nil => simp [textBody, here] at ok
    | cons c r =>
      obtain ⟨m, rfl⟩ : ∃ k, m = k + 1 := ⟨m - 1, by omega⟩
      rw [List.length_cons] at enough
      simp only [textBody] at ok
      simp only [skimText]
      split at ok
      · rename_i quote
        simp only [Except.ok.injEq, Prod.mk.injEq] at ok
        rw [if_pos quote, ok.2]
      · rename_i quote
        rw [if_neg quote]
        split at ok
        · rename_i backslash
          rw [if_pos backslash]
          split at ok
          · rename_i x r' escaped
            rcases escape_skimmed r r' x escaped with once | ⟨q, first, second⟩
            · have shorter := skimEscape_length r r' once
              rw [once]
              exact ih m _ r' ok (by omega)
            · have shorter := skimEscape_length r _ first
              have shortest := skimEscape_length q r' second
              rw [List.length_cons] at shorter
              obtain ⟨m, rfl⟩ : ∃ k, m = k + 1 := ⟨m - 1, by omega⟩
              rw [first]
              simp only [skimText, second]
              exact ih m _ r' ok (by omega)
          · simp at ok
        · rename_i backslash
          rw [if_neg backslash]
          split at ok
          · simp [past] at ok
          · rename_i visible
            rw [if_neg visible]
            exact ih m _ r ok (by omega)

theorem textTail_skimmed (limit : Nat) (cs rest : List Char) (s : String)
    (ok : textTail limit cs = .ok (s, rest)) (within : cs.length ≤ limit) :
    skimText (limit + 1) cs = .ok rest := by
  unfold textTail at ok
  cases body : textBody (limit + 1) [] cs with
  | error f => simp [body, bind, Except.bind] at ok
  | ok found =>
    obtain ⟨out, r⟩ := found
    simp only [body, bind, Except.bind, pure, Except.pure, Except.ok.injEq, Prod.mk.injEq] at ok
    rw [← ok.2]
    exact textBody_skimmed _ _ [] cs out r body (by omega)

end Retrofit.Json
