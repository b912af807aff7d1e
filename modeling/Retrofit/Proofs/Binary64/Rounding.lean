import Mathlib.Order.Monotone.Basic
import Mathlib.Tactic.Ring
import Retrofit.Binary64.Basic

/-! Rounding keeps the order of quotients. So whatever is no larger than something finite is finite too,
through any number of roundings. A quotient is compared with another by products, crosswise. -/
namespace Retrofit.Binary64

section Whole

variable {num den num' den' : Nat}

theorem div_le_roundHalfEven (num den : Nat) : num / den ≤ roundHalfEven num den := by
  unfold roundHalfEven
  dsimp only
  split <;> omega

theorem roundHalfEven_le_succ (num den : Nat) : roundHalfEven num den ≤ num / den + 1 := by
  unfold roundHalfEven
  dsimp only
  split <;> omega

/-- A quotient is rounded up if its rest is more than half of the divisor, or just half and odd. -/
theorem roundHalfEven_eq_succ_iff :
    roundHalfEven num den = num / den + 1 ↔
      den < 2 * (num % den) ∨ (2 * (num % den) = den ∧ num / den % 2 = 1) := by
  unfold roundHalfEven
  dsimp only
  split <;> rename_i tip <;>
    simp only [Bool.or_eq_true, Bool.and_eq_true, decide_eq_true_eq, beq_iff_eq] at tip
  · exact iff_of_true rfl tip
  · exact iff_of_false (by omega) tip

theorem roundHalfEven_mono (positive : 0 < den) (positive' : 0 < den')
    (le : num * den' ≤ num' * den) : roundHalfEven num den ≤ roundHalfEven num' den' := by
  have whole := Nat.div_add_mod num den
  have whole' := Nat.div_add_mod num' den'
  have rest := Nat.mod_lt num positive
  have rest' := Nat.mod_lt num' positive'
  have floors : num / den ≤ num' / den' := by
    rw [Nat.le_div_iff_mul_le positive']
    refine Nat.le_of_mul_le_mul_right ?_ positive
    calc num / den * den' * den = num / den * den * den' := by ring
      _ ≤ num * den' := Nat.mul_le_mul_right _ (Nat.div_mul_le_self _ _)
      _ ≤ num' * den := le
  rcases Nat.lt_or_eq_of_le floors with less | same
  · have above := roundHalfEven_le_succ num den
    have below := div_le_roundHalfEven num' den'
    omega
  · by_cases up : roundHalfEven num den = num / den + 1
    · -- With the same whole part, the rests compare as the quotients do.
      have rests : num % den * den' ≤ num' % den' * den := by
        have left : num * den' = den * den' * (num / den) + num % den * den' := by
          conv_lhs => rw [← whole]
          ring
        have right : num' * den = den * den' * (num / den) + num' % den' * den := by
          conv_lhs => rw [← whole', ← same]
          ring
        omega
      have up' : roundHalfEven num' den' = num' / den' + 1 := by
        rw [roundHalfEven_eq_succ_iff] at up ⊢
        rcases up with more | ⟨half, odd⟩
        · refine .inl (Nat.lt_of_mul_lt_mul_right (a := den) ?_)
          calc den' * den = den * den' := Nat.mul_comm _ _
            _ < 2 * (num % den) * den' := Nat.mul_lt_mul_of_pos_right more positive'
            _ = 2 * (num % den * den') := Nat.mul_assoc _ _ _
            _ ≤ 2 * (num' % den' * den) := Nat.mul_le_mul_left 2 rests
            _ = 2 * (num' % den') * den := (Nat.mul_assoc _ _ _).symm
        · have atLeast : den' ≤ 2 * (num' % den') := by
            refine Nat.le_of_mul_le_mul_right ?_ positive
            calc den' * den = 2 * (num % den) * den' := by rw [half, Nat.mul_comm]
              _ = 2 * (num % den * den') := Nat.mul_assoc _ _ _
              _ ≤ 2 * (num' % den' * den) := Nat.mul_le_mul_left 2 rests
              _ = 2 * (num' % den') * den := (Nat.mul_assoc _ _ _).symm
          rw [same] at odd
          omega
      omega
    · have above := roundHalfEven_le_succ num den
      have below := div_le_roundHalfEven num' den'
      omega

theorem roundHalfEven_le {k : Nat} (positive : 0 < den) (le : num ≤ den * k) :
    roundHalfEven num den ≤ k := by
  have whole : roundHalfEven k 1 = k := by simp [roundHalfEven, Nat.mod_one]
  have bound : roundHalfEven num den ≤ roundHalfEven k 1 := by
    apply roundHalfEven_mono positive Nat.one_pos
    rwa [Nat.mul_one, Nat.mul_comm k]
  rwa [whole] at bound

theorem le_roundHalfEven {k : Nat} (positive : 0 < den) (le : den * k ≤ num) :
    k ≤ roundHalfEven num den :=
  Nat.le_trans ((Nat.le_div_iff_mul_le positive).mpr (by rwa [Nat.mul_comm])) (div_le_roundHalfEven _ _)

theorem roundHalfEven_mul (positive : 0 < den) (k : Nat) : roundHalfEven (den * k) den = k :=
  Nat.le_antisymm (roundHalfEven_le positive (Nat.le_refl _)) (le_roundHalfEven positive (Nat.le_refl _))

end Whole

section Nearest

variable {num den num' den' s s' : Nat}

/-- The quotient has at most 53 binary digits before the point in units of `2 ^ s`, and just as many
unless the unit is the smallest. -/
structure InUnit (num den s : Nat) : Prop where
  below : num < den * 2 ^ (s + 53)
  above : s = 0 ∨ den * 2 ^ (s + 52) ≤ num

def unitOf (num den : Nat) : Nat :=
  let guess := num.log2 - den.log2 - 53
  if num / (den <<< guess) < 0x20000000000000 then guess else guess + 1

theorem nearestRank_eq (num den : Nat) :
    nearestRank num den =
      unitOf (num <<< 1074) den * 0x10000000000000 +
        roundHalfEven (num <<< 1074) (den <<< unitOf (num <<< 1074) den) :=
  rfl

theorem unitOf_inUnit (num : Nat) (positive : 0 < den) : InUnit num den (unitOf num den) := by
  have low := Nat.log2_self_le (Nat.ne_of_gt positive)
  have high := Nat.lt_log2_self (n := den)
  have top := Nat.lt_log2_self (n := num)
  unfold unitOf
  generalize digits : den.log2 = d at low high ⊢
  generalize digits' : num.log2 = n at top ⊢
  dsimp only
  have scaled : 0 < den <<< (n - d - 53) := Nat.shiftLeft_pos_iff.mpr positive
  split
  · rename_i few
    rw [Nat.div_lt_iff_lt_mul scaled, Nat.shiftLeft_eq] at few
    refine ⟨?_, ?_⟩
    · calc num < 2 ^ 53 * (den * 2 ^ (n - d - 53)) := few
        _ = den * 2 ^ (n - d - 53 + 53) := by ring
    · by_cases least : n - d - 53 = 0
      · exact .inl least
      · refine .inr ?_
        have nonzero : num ≠ 0 := by
          intro zero
          rw [zero, Nat.log2_zero] at digits'
          omega
        calc den * 2 ^ (n - d - 53 + 52) ≤ 2 ^ (d + 1) * 2 ^ (n - d - 53 + 52) :=
              Nat.mul_le_mul_right _ (Nat.le_of_lt high)
          _ = 2 ^ n := by
              rw [← Nat.pow_add]
              congr 1
              omega
          _ ≤ num := by
              rw [← digits']
              exact Nat.log2_self_le nonzero
  · rename_i many
    rw [Nat.not_lt, Nat.le_div_iff_mul_le scaled, Nat.shiftLeft_eq] at many
    refine ⟨?_, .inr ?_⟩
    · calc num < 2 ^ (n + 1) := top
        _ ≤ 2 ^ (d + (n - d - 53 + 1 + 53)) := Nat.pow_le_pow_right (by decide) (by omega)
        _ = 2 ^ d * 2 ^ (n - d - 53 + 1 + 53) := Nat.pow_add _ _ _
        _ ≤ den * 2 ^ (n - d - 53 + 1 + 53) := Nat.mul_le_mul_right _ low
    · calc den * 2 ^ (n - d - 53 + 1 + 52) = 2 ^ 53 * (den * 2 ^ (n - d - 53)) := by ring
        _ ≤ num := many

theorem InUnit.mono (unit : InUnit num den s) (unit' : InUnit num' den' s')
    (le : num * den' ≤ num' * den) : s ≤ s' := by
  rcases unit.above with least | above
  · omega
  · by_contra less
    have smaller : num' < den' * 2 ^ (s + 52) :=
      Nat.lt_of_lt_of_le unit'.below
        (Nat.mul_le_mul_left _ (Nat.pow_le_pow_right (by decide) (by omega)))
    have positive : 0 < den := by
      apply Nat.pos_of_ne_zero
      intro zero
      have impossible := unit.below
      rw [zero, Nat.zero_mul] at impossible
      exact Nat.not_lt_zero _ impossible
    have contrary : num' * den < num * den' := by
      calc num' * den < den' * 2 ^ (s + 52) * den := Nat.mul_lt_mul_of_pos_right smaller positive
        _ = den * 2 ^ (s + 52) * den' := by ring
        _ ≤ num * den' := Nat.mul_le_mul_right _ above
    omega

theorem InUnit.unique (unit : InUnit num den s) (unit' : InUnit num den s') : s = s' :=
  Nat.le_antisymm (unit.mono unit' (Nat.le_refl _)) (unit'.mono unit (Nat.le_refl _))

theorem shiftLeft_mul_le (le : num * den' ≤ num' * den) (n : Nat) :
    (num <<< n) * den' ≤ (num' <<< n) * den := by
  rw [Nat.shiftLeft_eq, Nat.shiftLeft_eq]
  calc num * 2 ^ n * den' = num * den' * 2 ^ n := Nat.mul_right_comm _ _ _
    _ ≤ num' * den * 2 ^ n := Nat.mul_le_mul_right _ le
    _ = num' * 2 ^ n * den := Nat.mul_right_comm _ _ _

/-- A larger quotient is never rounded to a smaller number. -/
theorem nearestRank_mono (positive : 0 < den) (positive' : 0 < den')
    (le : num * den' ≤ num' * den) : nearestRank num den ≤ nearestRank num' den' := by
  have scaled := shiftLeft_mul_le le 1074
  rw [nearestRank_eq, nearestRank_eq]
  generalize num <<< 1074 = a at scaled ⊢
  generalize num' <<< 1074 = a' at scaled ⊢
  have unit := unitOf_inUnit a positive
  have unit' := unitOf_inUnit a' positive'
  have units := unit.mono unit' scaled
  generalize unitOf a den = s at unit units ⊢
  generalize unitOf a' den' = s' at unit' units ⊢
  have divisor : 0 < den <<< s := Nat.shiftLeft_pos_iff.mpr positive
  have divisor' : 0 < den' <<< s' := Nat.shiftLeft_pos_iff.mpr positive'
  rcases Nat.lt_or_eq_of_le units with less | rfl
  · -- The smaller unit is full at most, and the larger one holds at least half as much.
    have full : roundHalfEven a (den <<< s) ≤ 2 ^ 53 := by
      apply roundHalfEven_le divisor
      rw [Nat.shiftLeft_eq]
      calc a ≤ den * 2 ^ (s + 53) := Nat.le_of_lt unit.below
        _ = den * 2 ^ s * 2 ^ 53 := by ring
    have half : 2 ^ 52 ≤ roundHalfEven a' (den' <<< s') := by
      apply le_roundHalfEven divisor'
      rw [Nat.shiftLeft_eq]
      rcases unit'.above with least | above
      · omega
      · calc den' * 2 ^ s' * 2 ^ 52 = den' * 2 ^ (s' + 52) := by ring
          _ ≤ a' := above
    omega
  · have rounded : roundHalfEven a (den <<< s) ≤ roundHalfEven a' (den' <<< s) := by
      apply roundHalfEven_mono divisor divisor'
      rw [Nat.shiftLeft_eq, Nat.shiftLeft_eq]
      calc a * (den' * 2 ^ s) = a * den' * 2 ^ s := (Nat.mul_assoc _ _ _).symm
        _ ≤ a' * den * 2 ^ s := Nat.mul_le_mul_right _ scaled
        _ = a' * (den * 2 ^ s) := Nat.mul_assoc _ _ _
    omega

end Nearest

/-- The absolute value of the number of this rank, in units of `2 ^ -1074`. -/
def magnitude (rank : Nat) : Nat :=
  if rank < 0x10000000000000 then rank
  else (0x10000000000000 + rank % 0x10000000000000) * 2 ^ (rank / 0x10000000000000 - 1)

theorem ratio_eq (x : Binary64) : x.ratio = (magnitude x.rank, 1 <<< 1074) := by
  unfold ratio significand scale magnitude
  rw [Nat.shiftLeft_eq _ (x.rank.val / _ - 1)]
  split
  · rename_i small
    rw [Nat.div_eq_of_lt small, Nat.zero_sub, Nat.pow_zero, Nat.mul_one]
  · rfl

theorem units_pos : 0 < 1 <<< 1074 := by
  decide +kernel

/-- The order of ranks is that of absolute values. -/
theorem magnitude_mono : Monotone magnitude := by
  apply monotone_nat_of_le_succ
  intro rank
  unfold magnitude
  by_cases small : rank + 1 < 0x10000000000000
  · rw [if_pos (by omega), if_pos small]
    omega
  rw [if_neg small]
  by_cases edge : rank < 0x10000000000000
  · have last : rank + 1 = 0x10000000000000 := by omega
    rw [if_pos edge, last]
    omega
  rw [if_neg edge]
  by_cases full : rank % 0x10000000000000 = 0xfffffffffffff
  · -- The next number is the first with a larger unit.
    have carry : (rank + 1) % 0x10000000000000 = 0 := by omega
    have unit : (rank + 1) / 0x10000000000000 - 1 = rank / 0x10000000000000 - 1 + 1 := by omega
    rw [full, carry, unit, Nat.pow_succ, Nat.add_zero, Nat.mul_comm (2 ^ _) 2, ← Nat.mul_assoc]
    exact Nat.mul_le_mul_right _ (by decide)
  · have next : (rank + 1) % 0x10000000000000 = rank % 0x10000000000000 + 1 := by omega
    have unit : (rank + 1) / 0x10000000000000 = rank / 0x10000000000000 := by omega
    rw [next, unit]
    exact Nat.mul_le_mul_right _ (by omega)

section Exact

variable (x : Binary64)

theorem significand_lt : x.significand < 2 ^ 53 := by
  unfold significand
  split <;> omega

theorem scale_or_significand : x.scale = 0 ∨ 2 ^ 52 ≤ x.significand := by
  unfold scale significand
  split <;> omega

theorem scale_significand_rank : x.scale * 0x10000000000000 + x.significand = x.rank := by
  unfold scale significand
  split <;> omega

theorem scale_inUnit {units : Nat} (positive : 0 < units) :
    InUnit (units <<< x.scale * x.significand) units x.scale := by
  rw [Nat.shiftLeft_eq]
  refine ⟨?_, ?_⟩
  · calc units * 2 ^ x.scale * x.significand < units * 2 ^ x.scale * 2 ^ 53 :=
          Nat.mul_lt_mul_of_pos_left x.significand_lt (Nat.mul_pos positive (Nat.two_pow_pos _))
      _ = units * 2 ^ (x.scale + 53) := by ring
  · refine x.scale_or_significand.imp_right fun many => ?_
    calc units * 2 ^ (x.scale + 52) = units * 2 ^ x.scale * 2 ^ 52 := by ring
      _ ≤ units * 2 ^ x.scale * x.significand := Nat.mul_le_mul_left _ many

theorem shiftLeft_comm_mul (a s n : Nat) : (a <<< s) <<< n = (1 <<< n) <<< s * a := by
  simp only [Nat.shiftLeft_eq]
  ring

/-- A number of the format is its own rounding. -/
theorem nearestRank_ratio : nearestRank x.ratio.1 x.ratio.2 = x.rank := by
  have positive := units_pos
  rw [nearestRank_eq, ratio]
  dsimp only
  rw [shiftLeft_comm_mul]
  generalize 1 <<< 1074 = units at positive
  have divisor : 0 < units <<< x.scale := Nat.shiftLeft_pos_iff.mpr positive
  have own := (unitOf_inUnit _ positive).unique (x.scale_inUnit positive)
  rw [own, roundHalfEven_mul divisor, scale_significand_rank]

end Exact

section Finite

variable {num den num' den' : Nat} {negative negative' : Bool} {x y x' y' : Binary64}

theorem nearest?_isSome_iff :
    (nearest? negative num den).isSome = true ↔ nearestRank num den < 0x7ff0000000000000 := by
  unfold nearest?
  dsimp only
  split
  · rename_i finite
    exact iff_of_true rfl finite
  · rename_i infinite
    exact iff_of_false Bool.false_ne_true infinite

theorem rank_of_nearest? (nearest : nearest? negative num den = some x) :
    x.rank.val = nearestRank num den := by
  unfold nearest? at nearest
  dsimp only at nearest
  split at nearest
  · cases nearest
    rfl
  · cases nearest

theorem nearest?_finite (positive : 0 < den) (positive' : 0 < den') (le : num * den' ≤ num' * den)
    (finite : (nearest? negative' num' den').isSome = true) :
    (nearest? negative num den).isSome = true := by
  rw [nearest?_isSome_iff] at finite ⊢
  exact Nat.lt_of_le_of_lt (nearestRank_mono positive positive' le) finite

theorem ofNat?_finite {n m : Nat} (le : n ≤ m) (finite : (ofNat? m).isSome = true) :
    (ofNat? n).isSome = true :=
  nearest?_finite Nat.one_pos Nat.one_pos (Nat.mul_le_mul_right 1 le) finite

theorem ofNat?_rank_le {n m : Nat} (le : n ≤ m) (nearest : ofNat? n = some x)
    (nearest' : ofNat? m = some y) : x.rank ≤ y.rank := by
  rw [Fin.le_def, rank_of_nearest? nearest, rank_of_nearest? nearest']
  exact nearestRank_mono Nat.one_pos Nat.one_pos (Nat.mul_le_mul_right 1 le)

theorem mul?_finite (le : x.rank ≤ x'.rank) (le' : y.rank ≤ y'.rank)
    (finite : (x'.mul? y').isSome = true) : (x.mul? y).isSome = true := by
  unfold mul? at finite ⊢
  simp only [ratio_eq] at finite ⊢
  refine nearest?_finite (Nat.mul_pos units_pos units_pos) (Nat.mul_pos units_pos units_pos) ?_ finite
  exact Nat.mul_le_mul_right _ (Nat.mul_le_mul (magnitude_mono le) (magnitude_mono le'))

/-- The greatest number of the format. -/
def greatest : Binary64 := ⟨false, ⟨0x7fefffffffffffff, by decide⟩⟩

def one : Binary64 := ⟨false, ⟨0x3ff0000000000000, by decide⟩⟩

theorem magnitude_one : magnitude one.rank = 1 <<< 1074 := by
  decide +kernel

/-- To divide by one or more leaves a number finite. -/
theorem div?_finite (x : Binary64) (le : one.rank ≤ y.rank) : (x.div? y).isSome = true := by
  have finite : (nearest? false (magnitude greatest.rank) (1 <<< 1074)).isSome = true := by
    decide +kernel
  have least : 1 <<< 1074 ≤ magnitude y.rank := by
    rw [← magnitude_one]
    exact magnitude_mono le
  have most : magnitude x.rank ≤ magnitude greatest.rank := by
    apply magnitude_mono
    exact Nat.le_of_lt_succ x.rank.isLt
  have positive : 0 < 1 <<< 1074 * magnitude y.rank :=
    Nat.mul_pos units_pos (Nat.lt_of_lt_of_le units_pos least)
  unfold div?
  simp only [ratio_eq]
  refine nearest?_finite positive units_pos ?_ finite
  generalize 1 <<< 1074 = units at least
  calc magnitude x.rank * units * units
      ≤ magnitude greatest.rank * units * magnitude y.rank :=
        Nat.mul_le_mul (Nat.mul_le_mul_right _ most) least
    _ = magnitude greatest.rank * (units * magnitude y.rank) := Nat.mul_assoc _ _ _

end Finite

end Retrofit.Binary64
