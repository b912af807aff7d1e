import Retrofit.Proofs.Binary64.Shortest
import Retrofit.Proofs.Json.Number

/-! Every number that can be held is read again from what is written for it. A real is read as a finite one,
though not always as itself: its digits are rounded, then the power of ten, then what the two make. -/
namespace Retrofit.Json

open Binary64 (greatest one)

/-! Scaling by a power of ten -/

section Scaled

variable {n m k l : Nat} {e : Int} {x y : Binary64}

theorem power_finite (within : k ≤ 308) : (Binary64.ofNat? (Nat.pow 10 k)).isSome = true := by
  have largest : ∀ b < 309, 308 ≤ b → (Binary64.ofNat? (Nat.pow 10 b)).isSome = true := by
    decide +kernel
  obtain ⟨b, least, most⟩ : ∃ b < 309, 308 ≤ b := ⟨308, by decide, le_refl 308⟩
  exact Binary64.ofNat?_finite (Nat.pow_le_pow_right (by decide) (Nat.le_trans within most))
    (largest b least most)

theorem one_le_power (power : Binary64.ofNat? (Nat.pow 10 k) = some y) : one.rank ≤ y.rank := by
  have unit : Binary64.ofNat? 1 = some one := by decide +kernel
  exact Binary64.ofNat?_rank_le (Binary64.one_pow_pos k) unit power

theorem divide_finite (x : Binary64) (within : k ≤ 308) :
    ((Binary64.ofNat? (Nat.pow 10 k)).bind x.div?).isSome = true := by
  obtain ⟨y, power⟩ := Option.isSome_iff_exists.mp (power_finite within)
  rw [power, Option.bind_some]
  exact Binary64.div?_finite x (one_le_power power)

theorem divideByPower_finite (x : Binary64) (k : Nat) : (divideByPower x k).isSome = true := by
  induction k using Nat.strongRecOn generalizing x with
  | ind k ih =>
    rw [divideByPower]
    split
    · rename_i within
      exact divide_finite x within
    · split
      · rfl
      · rename_i long _
        -- So large a power is not to be evaluated.
        generalize largest : 308 = b at long ⊢
        obtain ⟨y, quotient⟩ := Option.isSome_iff_exists.mp (divide_finite x (Nat.le_of_eq largest.symm))
        rw [quotient, Option.bind_some]
        exact ih _ (by omega) y

/-- Fewer units of a smaller power of ten are finite too. -/
theorem scaled?_finite (le : n ≤ m) (le' : k ≤ l) (within : l ≤ 308)
    (finite : (scaled? m l).isSome = true) : (scaled? n k).isSome = true := by
  unfold scaled? at finite ⊢
  cases larger : Binary64.ofNat? m with
  | none =>
    rw [larger] at finite
    cases finite
  | some y =>
    obtain ⟨x, smaller⟩ := Option.isSome_iff_exists.mp
      (Binary64.ofNat?_finite le (Option.isSome_iff_exists.mpr ⟨y, larger⟩))
    obtain ⟨z, power⟩ := Option.isSome_iff_exists.mp (power_finite (Nat.le_trans le' within))
    obtain ⟨w, power'⟩ := Option.isSome_iff_exists.mp (power_finite within)
    have ranks := Binary64.ofNat?_rank_le le smaller larger
    have ranks' := Binary64.ofNat?_rank_le (Nat.pow_le_pow_right (by decide) le') power power'
    have up (j : Nat) : (0 : Int) ≤ j := Int.natCast_nonneg j
    have most (j : Nat) (le : j ≤ 308) : (j : Int) ≤ 308 := Int.ofNat_le.mpr le
    rw [larger, Option.bind_some, if_pos (up l), if_pos (most l within), Int.toNat_natCast, power',
      Option.bind_some] at finite
    rw [smaller, Option.bind_some, if_pos (up k), if_pos (most k (Nat.le_trans le' within)),
      Int.toNat_natCast, power, Option.bind_some]
    exact Binary64.mul?_finite ranks ranks' finite

/-- As many units as fit a word stay finite up to this power of ten. -/
theorem scaled?_word (word : n ≤ largestWord) (within : k ≤ 288) : (scaled? n k).isSome = true := by
  have finite : (scaled? largestWord (288 : Nat)).isSome = true := by decide +kernel
  exact scaled?_finite word within (by decide) finite

theorem scaled?_of_nonpos (word : n ≤ largestWord) (down : e ≤ 0) : (scaled? n e).isSome = true := by
  rcases Int.lt_or_eq_of_le down with less | rfl
  · obtain ⟨x, rounded⟩ := Option.isSome_iff_exists.mp
      (Binary64.ofNat?_finite word (by decide +kernel))
    rw [scaled?, rounded, Option.bind_some, if_neg (Int.not_le.mpr less)]
    exact divideByPower_finite x _
  · exact scaled?_word (k := 0) word (Nat.zero_le _)

/-- The shortest decimal of the greatest number but one. Below it no power of ten takes a word beyond what
is finite. -/
def roof : Nat := 17976931348623156 * Nat.pow 10 292

theorem roof_lt (long : 309 ≤ k) : roof < Nat.pow 10 k := by
  have least : ∀ b < 310, 309 ≤ b → roof < Nat.pow 10 b := by decide +kernel
  obtain ⟨b, tall, last, shorter⟩ : ∃ b, 309 ≤ b ∧ b < 310 ∧ b ≤ k := ⟨309, by omega, by omega, long⟩
  exact Nat.lt_of_lt_of_le (least b last tall) (Nat.pow_le_pow_right (by decide) shorter)

theorem scaled?_below (word : n ≤ largestWord) (below : n * Nat.pow 10 k < roof) :
    (scaled? n k).isSome = true := by
  -- Where a word may be too much, the most units below are tried for each power.
  have most : ∀ k < 309, 289 ≤ k → (scaled? (roof / Nat.pow 10 k) k).isSome = true := by
    decide +kernel
  by_cases small : k ≤ 288
  · exact scaled?_word word small
  by_cases within : k < 309
  · refine scaled?_finite ?_ (le_refl k) (Nat.le_of_lt_succ within) (most k within (by omega))
    exact (Nat.le_div_iff_mul_le (Binary64.one_pow_pos k)).mpr (Nat.le_of_lt below)
  · have top : roof < Nat.pow 10 k := roof_lt (Nat.le_of_not_lt within)
    rcases Nat.eq_zero_or_pos n with rfl | some
    · have zero : Binary64.ofNat? 0 = some .zero := by decide +kernel
      rw [scaled?, zero, Option.bind_some, if_pos (by omega), if_neg (by omega)]
      rfl
    · have least := Nat.le_mul_of_pos_left (Nat.pow 10 k) some
      exact absurd (Nat.lt_of_lt_of_le top least) (Nat.lt_asymm below)

/-- The number `m` is made of the first digits of `c`, all but the last `j`. -/
structure Leads (c m j : Nat) : Prop where
  word : m ≤ largestWord
  le : m * Nat.pow 10 j ≤ c
  whole : c ≤ largestWord → m = c ∧ j = 0

theorem scaled?_leads {c j : Nat} {p : Int} (leads : Leads c m j)
    (below : c * Nat.pow 10 p.toNat < roof * Nat.pow 10 (-p).toNat) :
    (scaled? m (p + j)).isSome = true := by
  by_cases down : p + j ≤ 0
  · exact scaled?_of_nonpos leads.word down
  · obtain ⟨k, power⟩ := Int.eq_ofNat_of_zero_le (a := p + j) (by omega)
    have shift : k + (-p).toNat = j + p.toNat := by omega
    rw [power]
    refine scaled?_below leads.word (Nat.lt_of_mul_lt_mul_right (a := Nat.pow 10 (-p).toNat) ?_)
    calc m * Nat.pow 10 k * Nat.pow 10 (-p).toNat
        = m * (Nat.pow 10 k * Nat.pow 10 (-p).toNat) := Nat.mul_assoc _ _ _
      _ = m * Nat.pow 10 (k + (-p).toNat) := congrArg (m * ·) (Nat.pow_add 10 _ _).symm
      _ = m * Nat.pow 10 (j + p.toNat) := by rw [shift]
      _ = m * (Nat.pow 10 j * Nat.pow 10 p.toNat) := congrArg (m * ·) (Nat.pow_add 10 _ _)
      _ = m * Nat.pow 10 j * Nat.pow 10 p.toNat := (Nat.mul_assoc _ _ _).symm
      _ ≤ c * Nat.pow 10 p.toNat := Nat.mul_le_mul_right _ leads.le
      _ < roof * Nat.pow 10 (-p).toNat := below

theorem shortest_below (nonzero : x.isZero = false) (lower : x.rank.val + 1 < greatest.rank) :
    x.shortest.1 * Nat.pow 10 x.shortest.2.toNat < roof * Nat.pow 10 (-x.shortest.2).toNat := by
  apply Binary64.lt_of_decimalRank_lt
  have last : Binary64.nearestRank roof 1 + 1 = greatest.rank := by decide +kernel
  have short := (Binary64.shortest_short nonzero).rank_le
  omega

/-- The two greatest numbers have decimals that fit a word. -/
theorem shortest_top (upper : greatest.rank.val ≤ x.rank.val + 1) :
    x.shortest.1 ≤ largestWord ∧ (scaled? x.shortest.1 x.shortest.2).isSome = true := by
  have top : ∀ negative, ∀ below < 2, ∀ finite : 0x7fefffffffffffff - below < 0x7ff0000000000000,
      (Binary64.mk negative ⟨_, finite⟩).shortest = (17976931348623157 - 2 * below, 292) := by
    decide +kernel
  have word : ∀ below < 2, 17976931348623157 - 2 * below ≤ largestWord ∧
      (scaled? (17976931348623157 - 2 * below) 292).isSome = true := by
    decide +kernel
  have least : 0x7fefffffffffffff ≤ x.rank.val + 1 := upper
  have most := x.rank.isLt
  have same : 0x7fefffffffffffff - (0x7fefffffffffffff - x.rank.val) = x.rank.val := by omega
  have found := top x.negative (0x7fefffffffffffff - x.rank.val) (by omega) (by omega)
  simp only [same] at found
  rw [found]
  exact word _ (by omega)

theorem scaled?_shortest (nonzero : x.isZero = false) {j : Nat} (leads : Leads x.shortest.1 m j) :
    (scaled? m (x.shortest.2 + j)).isSome = true := by
  by_cases lower : x.rank.val + 1 < greatest.rank.val
  · exact scaled?_leads leads (shortest_below nonzero lower)
  · have top := shortest_top (Nat.le_of_not_lt lower)
    have whole := leads.whole top.1
    rw [whole.1, whole.2, Int.natCast_zero, Int.add_zero]
    exact top.2

theorem length_shortest (nonzero : x.isZero = false) :
    (Nat.toDigits 10 x.shortest.1).length ≤ 709 := by
  by_cases lower : x.rank.val + 1 < greatest.rank.val
  · have below := shortest_below nonzero lower
    have least : x.shortest.1 ≤ x.shortest.1 * Nat.pow 10 x.shortest.2.toNat :=
      Nat.le_mul_of_pos_right _ (Binary64.one_pow_pos _)
    have low : (-x.shortest.2).toNat ≤ 400 := by
      have low := (Binary64.shortest_short nonzero).low
      omega
    generalize (-x.shortest.2).toNat = k at below low
    have length (b : Nat) (tall : 309 ≤ b) : (Nat.toDigits 10 x.shortest.1).length ≤ b + k := by
      rw [Nat.length_toDigits_le_iff (by decide) (by omega)]
      calc x.shortest.1 < roof * Nat.pow 10 k := Nat.lt_of_le_of_lt least below
        _ ≤ Nat.pow 10 b * Nat.pow 10 k := Nat.mul_le_mul_right _ (Nat.le_of_lt (roof_lt tall))
        _ = 10 ^ (b + k) := (Nat.pow_add 10 b k).symm
    exact Nat.le_trans (length 309 (le_refl 309)) (Nat.add_le_add_left low 309)
  · have word := (shortest_top (Nat.le_of_not_lt lower)).1
    have short : (Nat.toDigits 10 x.shortest.1).length ≤ 20 := by
      rw [Nat.length_toDigits_le_iff (by decide) (by decide)]
      exact Nat.lt_of_le_of_lt word (by decide)
    omega

end Scaled

/-! Reading a decimal -/

section Reading

variable {ds fs : List Char} {n : Nat} {e : Int}

theorem realNumber_of_finite (negative : Bool) (finite : (scaled? n e).isSome = true) :
    ∃ y, ∀ rest, realNumber negative n e rest = .ok (.real y, rest) := by
  obtain ⟨x, scaled⟩ := Option.isSome_iff_exists.mp finite
  refine ⟨if negative then x.neg else x, fun rest => ?_⟩
  rw [realNumber, scaled, signedReal]

theorem digit_le {c : Char} (digit : c.isDigit = true) : c.toNat - '0'.toNat ≤ 9 := by
  simp only [Char.isDigit, Bool.and_eq_true, decide_eq_true_eq] at digit
  have last : c.toNat ≤ '9'.toNat := digit.2
  have nine : '9'.toNat = '0'.toNat + 9 := rfl
  omega

theorem ofDigitChars_lt (digits : ∀ d ∈ ds, d.isDigit = true) :
    Nat.ofDigitChars 10 ds 0 < 10 ^ ds.length := by
  induction ds with
  | nil => decide
  | cons d ds ih =>
    rw [List.forall_mem_cons] at digits
    have first := digit_le digits.1
    have others := ih digits.2
    rw [Nat.ofDigitChars_cons, Nat.mul_zero, Nat.zero_add, Nat.ofDigitChars_eq_ofDigitChars_zero,
      List.length_cons, Nat.pow_succ]
    have atMost := Nat.mul_le_mul_left (10 ^ ds.length) first
    omega

theorem fits_of_short (digits : ∀ d ∈ ds, d.isDigit = true) (short : ds.length ≤ 16) :
    Nat.ofDigitChars 10 ds 0 ≤ largestWord := by
  have few : 10 ^ ds.length ≤ 10 ^ 16 := Nat.pow_le_pow_right (by decide) short
  have word : 10 ^ 16 ≤ largestWord := by decide
  exact Nat.le_of_lt (Nat.lt_of_lt_of_le (ofDigitChars_lt digits) (Nat.le_trans few word))

theorem zero_digit : ∀ d ∈ ['0'], d.isDigit = true :=
  List.forall_mem_singleton.mpr rfl

theorem Whole.digits (whole : Whole ds) : ∀ d ∈ ds, d.isDigit = true := by
  cases whole with
  | zero => exact zero_digit
  | solid c ds nonzero digits => exact digits

/-- What is left of a number whose digits, up to the point, make a word. -/
theorem unsignedNumber_pointed (negative : Bool) (whole : Whole ds) (short : ds.length ≤ 16)
    (cs : List Char) :
    unsignedNumber negative (ds ++ '.' :: cs) =
      fractionPart negative (Nat.ofDigitChars 10 ds 0) 0 cs := by
  rw [unsignedNumber_whole negative whole (fits_of_short whole.digits short) rfl, afterWhole, if_pos rfl]

/-- A number without an exponent. -/
theorem pointed_read (negative : Bool) (whole : Whole ds) (short : ds.length ≤ 16)
    (digits : ∀ d ∈ fs, d.isDigit = true) (some : fs ≠ []) :
    ∃ y, ∀ rest, EndsNumber rest →
      unsignedNumber negative (ds ++ '.' :: fs ++ rest) = .ok (.real y, rest) := by
  obtain ⟨front, behind, -, fits, -, taken⟩ :=
    fractionPart_front negative (fits_of_short whole.digits short) 0 digits some
  have finite := scaled?_of_nonpos (e := 0 - front.length) fits (by omega)
  obtain ⟨y, read⟩ := realNumber_of_finite negative finite
  refine ⟨y, fun rest ends => ?_⟩
  rw [List.append_assoc, List.cons_append, unsignedNumber_pointed negative whole short,
    taken rest ends.not_digit, afterDigits_ended negative _ _ ends, read]

theorem exponentPart_written (negative : Bool) (n : Nat) (before : Int) (small : e.natAbs ≤ largestExponent)
    {rest : List Char} (ends : EndsNumber rest) :
    exponentPart negative n before ((if e < 0 then '-' else '+') :: (Nat.toDigits 10 e.natAbs ++ rest)) =
      realNumber negative n (before + e) rest := by
  have sign : exponentSign ((if e < 0 then '-' else '+') :: (Nat.toDigits 10 e.natAbs ++ rest)) =
      (decide (e < 0), Nat.toDigits 10 e.natAbs ++ rest) := by
    by_cases down : e < 0 <;> simp [down, exponentSign]
  have value : Nat.ofDigitChars 10 (Nat.toDigits 10 e.natAbs) 0 = e.natAbs :=
    Nat.ofDigitChars_ten_toDigits
  have taken := digitsUpTo_digits (digits_toDigits e.natAbs) ends.not_digit 0 0 (value.symm ▸ small)
  rw [value] at taken
  have digits := digits_toDigits e.natAbs
  obtain ⟨c, r, front⟩ := List.exists_cons_of_ne_nil (Nat.toDigits_ne_nil (n := e.natAbs) (b := 10))
  have power : (if decide (e < 0) = true then before - e.natAbs else before + e.natAbs) = before + e := by
    by_cases down : e < 0
    · rw [if_pos (decide_eq_true down)]
      omega
    · rw [if_neg (by simpa using down)]
      omega
  rw [exponentPart, sign]
  dsimp only
  rw [front] at digits taken ⊢
  rw [List.cons_append] at taken ⊢
  have digit := digits c List.mem_cons_self
  simp only [digit, if_true, taken]
  cases rest with
  | nil => simp only [power]
  | cons d rest => simp only [ends.foreign.1, Bool.false_eq_true, if_false, power]

theorem leads_of_front {c : Nat} {front behind : List Char}
    (written : Nat.toDigits 10 c = front ++ behind) (fits : Nat.ofDigitChars 10 front 0 ≤ largestWord)
    (all : c ≤ largestWord → behind = []) : Leads c (Nat.ofDigitChars 10 front 0) behind.length := by
  have value : c = 10 ^ behind.length * Nat.ofDigitChars 10 front 0 + Nat.ofDigitChars 10 behind 0 := by
    rw [← Nat.ofDigitChars_eq_ofDigitChars_zero, ← Nat.ofDigitChars_append, ← written,
      Nat.ofDigitChars_ten_toDigits]
  refine ⟨fits, ?_, ?_⟩
  · rw [Nat.mul_comm]
    exact Nat.le_trans (Nat.le_add_right _ _) (Nat.le_of_eq value.symm)
  · intro word
    rw [all word] at value ⊢
    refine ⟨?_, rfl⟩
    rw [value, List.length_nil, Nat.pow_zero, Nat.one_mul, Nat.ofDigitChars_nil, Nat.add_zero]

/-- A number with one digit before the point and an exponent. Of more digits than fit a word the last ones are
dropped. -/
theorem exponent_read (negative : Bool) {c : Nat} {p : Int} {d : Char} (solid : d ≠ '0')
    (written : Nat.toDigits 10 c = d :: fs) (small : (fs.length + p).natAbs ≤ largestExponent)
    (finite : ∀ m j, Leads c m j → (scaled? m (p + j)).isSome = true) :
    ∃ y, ∀ rest, EndsNumber rest →
      unsignedNumber negative
        (d :: (if fs = [] then [] else '.' :: fs) ++ ['e', if fs.length + p < 0 then '-' else '+'] ++
          Nat.toDigits 10 (fs.length + p).natAbs ++ rest) = .ok (.real y, rest) := by
  have digits := digits_toDigits c
  rw [written, List.forall_mem_cons] at digits
  have whole : Whole [d] := .solid d [] solid (List.forall_mem_singleton.mpr digits.1)
  have short : [d].length ≤ 16 := Nat.le_add_left 1 15
  have word := fits_of_short whole.digits short
  by_cases alone : fs = []
  · subst alone
    have digit : Nat.toDigits 10 c = [d] ++ [] := written
    have leads := leads_of_front digit word fun _ => rfl
    obtain ⟨y, read⟩ := realNumber_of_finite negative (finite _ _ leads)
    refine ⟨y, fun rest ends => ?_⟩
    have power := exponentPart_written negative (Nat.ofDigitChars 10 [d] 0) 0 small ends
    simp only [List.length_nil, Int.natCast_zero, Int.zero_add, Int.add_zero] at power read ⊢
    simp only [if_true, List.cons_append, List.nil_append]
    rw [← List.singleton_append, unsignedNumber_whole negative whole word rfl, ← read rest, ← power]
    rfl
  · obtain ⟨front, behind, split, fits, all, taken⟩ := fractionPart_front negative word 0 digits.2 alone
    rw [← Nat.ofDigitChars_append] at fits all
    have leads : Leads c (Nat.ofDigitChars 10 ([d] ++ front) 0) behind.length := by
      refine leads_of_front (by rw [written, split]; rfl) fits fun within => all ?_
      rwa [List.singleton_append, ← written, Nat.ofDigitChars_ten_toDigits]
    obtain ⟨y, read⟩ := realNumber_of_finite negative (finite _ _ leads)
    refine ⟨y, fun rest ends => ?_⟩
    have dropped : 0 - (front.length : Int) + (fs.length + p) = p + behind.length := by
      rw [split, List.length_append]
      omega
    have power := exponentPart_written negative (Nat.ofDigitChars 10 ([d] ++ front) 0)
      (0 - front.length) small ends
    rw [dropped, read] at power
    simp only [alone, if_false, List.append_assoc, List.cons_append, List.nil_append]
    rw [← List.singleton_append, unsignedNumber_pointed negative whole short, taken _ rfl,
      ← Nat.ofDigitChars_append, ← power]
    rfl

theorem decimalText_read (negative : Bool) {x : Binary64} (nonzero : x.isZero = false) :
    ∃ y, ∀ rest, EndsNumber rest →
      unsignedNumber negative (Binary64.decimalText x.shortest.1 x.shortest.2 ++ rest) =
        .ok (.real y, rest) := by
  have short := Binary64.shortest_short nonzero
  have digits := digits_toDigits x.shortest.1
  have length := length_shortest nonzero
  have finite (m j : Nat) (leads : Leads x.shortest.1 m j) :=
    scaled?_shortest nonzero leads
  obtain ⟨d, fs, written, solid⟩ := head_toDigits short.positive
  have low := short.low
  have high := short.high
  generalize x.shortest.1 = c at digits length finite written
  generalize x.shortest.2 = p at finite low high
  unfold Binary64.decimalText
  rw [written] at digits length ⊢
  dsimp only
  rw [List.length_cons] at length ⊢
  split
  · rename_i plain
    rw [Bool.and_eq_true, decide_eq_true_eq, decide_eq_true_eq] at plain
    split
    · have fraction : ∀ f ∈ List.replicate (-((fs.length + 1 : Nat) + p)).toNat '0' ++ d :: fs,
          f.isDigit = true := by
        rw [List.forall_mem_append]
        exact ⟨fun f zero => List.eq_of_mem_replicate zero ▸ rfl, digits⟩
      exact pointed_read negative .zero (Nat.le_add_left 1 15) fraction (by simp)
    · split
      · rename_i positive inside
        obtain ⟨k, point⟩ := Int.eq_succ_of_zero_lt (Int.lt_of_not_ge positive)
        rw [point, Int.toNat_natCast_add_one]
        have whole : Whole ((d :: fs).take (k + 1)) :=
          .solid d (fs.take k) solid fun f member => digits f (List.mem_of_mem_take (i := k + 1) member)
        refine pointed_read negative whole ?_ (fun f member => digits f (List.mem_of_mem_drop member)) ?_
        · rw [List.length_take]
          omega
        · rw [← List.length_pos_iff, List.length_drop, List.length_cons]
          omega
      · have whole : Whole (d :: fs ++ List.replicate p.toNat '0') := by
          refine .solid d _ solid (List.forall_mem_append.mpr ⟨digits, ?_⟩)
          exact fun f zero => List.eq_of_mem_replicate zero ▸ rfl
        have read := pointed_read negative whole ?_ zero_digit (List.cons_ne_nil _ _)
        · simpa only [List.append_assoc, List.cons_append, List.nil_append] using read
        · rw [List.length_append, List.length_replicate, List.length_cons]
          omega
  · have small : (fs.length + p).natAbs ≤ largestExponent := by
      unfold largestExponent
      omega
    have read := exponent_read negative solid written small finite
    have power : ((fs.length + 1 : Nat) : Int) + p - 1 = fs.length + p := by omega
    have alone : fs.length + 1 = 1 ↔ fs = [] := by
      rw [Nat.add_eq_right, List.length_eq_zero_iff]
    simpa only [power, alone, List.take_succ_cons, List.take_zero, List.drop_succ_cons, List.drop_zero,
      List.singleton_append] using read

end Reading

/-! What is held -/

/-- A number that a document is held with: a whole number of 64 bits, with a sign or without one, or any
finite real. -/
def Number.Held : Number → Prop
  | .integer n => -0x8000000000000000 ≤ n ∧ n ≤ largestWord
  | .real _ => True

theorem digit_of_unsignedNumber {negative : Bool} {cs rest : List Char} {n : Number}
    (read : unsignedNumber negative cs = .ok (n, rest)) : ∃ c r, cs = c :: r ∧ c.isDigit = true := by
  cases cs with
  | nil => cases read
  | cons c r =>
    refine ⟨c, r, rfl, ?_⟩
    by_cases zero : c = '0'
    · rw [zero]
      rfl
    · by_contra other
      simp [unsignedNumber, zero, other, past] at read

/-- A number with its sign can be read if its digits can. -/
theorem readable_of_unsigned {n m : Number} (negative : Bool) {ds : List Char}
    (written : writtenNumber n = (if negative then ['-'] else []) ++ ds)
    (read : ∀ rest, EndsNumber rest → unsignedNumber negative (ds ++ rest) = .ok (m, rest)) :
    n.Readable := by
  have alone := read [] trivial
  rw [List.append_nil] at alone
  obtain ⟨c, r, front, digit⟩ := digit_of_unsignedNumber alone
  have reading (rest : List Char) (ends : EndsNumber rest) :
      number (writtenNumber n ++ rest) = .ok (m, rest) := by
    rw [written, ← read rest ends]
    cases negative with
    | true => rfl
    | false => rw [front]; exact number_of_digit digit _
  have same : n.reread = m := by
    have whole := reading [] trivial
    rw [List.append_nil] at whole
    exact Number.reread_eq whole
  rw [Number.Readable, same]
  refine ⟨?_, reading⟩
  cases negative with
  | true => exact ⟨'-', ds, written, rfl⟩
  | false => exact ⟨c, r, by rw [written, front]; rfl, by rw [digit, Bool.or_true]⟩

theorem Number.Held.readable {n : Number} (held : n.Held) : n.Readable := by
  cases n with
  | integer n =>
    have word : n.natAbs ≤ largestWord := by
      obtain ⟨low, high⟩ := held
      have half : 0x8000000000000000 ≤ largestWord := by decide
      omega
    refine readable_of_unsigned (decide (n < 0)) ?_ fun rest ends =>
      unsignedNumber_toDigits (decide (n < 0)) word ends
    rw [writtenNumber, writtenInteger]
    simp only [decide_eq_true_eq]
  | real x =>
    by_cases zero : x.isZero = true
    · obtain ⟨y, read⟩ := pointed_read x.negative .zero (Nat.le_add_left 1 15) zero_digit
        (List.cons_ne_nil _ _)
      refine readable_of_unsigned x.negative ?_ read
      rw [writtenNumber, Binary64.text, if_pos zero]
      rfl
    · obtain ⟨y, read⟩ := decimalText_read x.negative (Bool.eq_false_iff.mpr zero)
      refine readable_of_unsigned x.negative ?_ read
      rw [writtenNumber, Binary64.text, if_neg zero]

end Retrofit.Json
