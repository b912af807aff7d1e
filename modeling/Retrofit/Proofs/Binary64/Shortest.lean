import Mathlib.Data.Nat.Log
import Retrofit.Binary64.Shortest
import Retrofit.Proofs.Binary64.Rounding

/-! The shortest decimal of a number is not zero, and it is rounded to that number or to a smaller one. Both
hold of the decimal that the search would end with if it found none that reads back. -/
namespace Retrofit.Binary64

variable {x : Binary64} {c : Nat} {p : Int}

theorem one_pow_pos (n : Nat) : 0 < Nat.pow 10 n :=
  Nat.pow_pos (by decide)

/-- The rank of `c * 10 ^ p`. -/
def decimalRank (c : Nat) (p : Int) : Nat :=
  nearestRank (c * Nat.pow 10 p.toNat) (Nat.pow 10 (-p).toNat)

theorem rank_ne_zero (nonzero : x.isZero = false) : x.rank.val ≠ 0 := by
  intro zero
  rw [isZero, zero] at nonzero
  cases nonzero

theorem rank_of_readsBack (nonzero : x.isZero = false) (back : x.readsBack c p = true) :
    0 < c ∧ decimalRank c p = x.rank := by
  have positive := rank_ne_zero nonzero
  have read := eq_of_beq back
  unfold ofDecimal? at read
  split at read
  · exact absurd (congrArg (·.rank.val) (Option.some.inj read)).symm positive
  · rename_i some
    split at read
    · cases read
    · split at read
      · exact absurd (congrArg (·.rank.val) (Option.some.inj read)).symm positive
      · exact ⟨Nat.pos_of_ne_zero some, (rank_of_nearest? read).symm⟩

theorem readsBack_of_pointOn? (point : x.pointOn? p = some c) : x.readsBack c p = true := by
  unfold pointOn? at point
  dsimp only at point
  split at point
  · rename_i near
    cases point
    exact near
  · split at point
    · rename_i below
      cases point
      exact below
    · split at point
      · rename_i above
        cases point
        exact above
      · cases point

/-- The search ends at a decimal that reads back, or after so many steps with the whole part. -/
theorem coarsestFrom_cases (x : Binary64) (n : Nat) (start : Int) :
    ∃ c p, x.coarsestFrom n start = (c, p) ∧ start - n ≤ p ∧ p ≤ start ∧
      (x.readsBack c p = true ∨ (p = start - n ∧ c = (x.inUnits p).1 / (x.inUnits p).2)) := by
  induction n generalizing start with
  | zero => exact ⟨_, start, rfl, by omega, by omega, .inr ⟨by omega, rfl⟩⟩
  | succ n ih =>
    unfold coarsestFrom
    split
    · rename_i c found
      exact ⟨c, start, rfl, by omega, by omega, .inl (readsBack_of_pointOn? found)⟩
    · obtain ⟨c, p, searched, low, high, ended⟩ := ih (start - 1)
      refine ⟨c, p, searched, by omega, by omega, ended.imp_right fun ⟨last, whole⟩ => ⟨by omega, whole⟩⟩

/-- Where the search for a number of so many binary digits ends at the latest. -/
def lastPower (digits : Nat) : Int :=
  ((digits : Int) - 1072) * 1233 / 4096 - 20

theorem log2_units : (1 <<< 1074).log2 = 1074 := by
  decide +kernel

theorem log2_magnitude_lt (x : Binary64) : (magnitude x.rank).log2 < 2099 := by
  have most : magnitude x.rank ≤ magnitude greatest.rank := by
    apply magnitude_mono
    exact Nat.le_of_lt_succ x.rank.isLt
  have largest : (magnitude greatest.rank).log2 < 2099 := by decide +kernel
  rw [Nat.log2_eq_log_two] at largest ⊢
  exact Nat.lt_of_le_of_lt (Nat.log_mono_right most) largest

theorem magnitude_ne_zero (nonzero : x.isZero = false) : magnitude x.rank ≠ 0 := by
  have least : magnitude 1 ≤ magnitude x.rank :=
    magnitude_mono (Nat.pos_of_ne_zero (rank_ne_zero nonzero))
  exact Nat.ne_of_gt least

/-- There is a whole part at the last power of ten. -/
theorem lastPower_small :
    ∀ digits < 2099, 1 <<< 1074 * Nat.pow 10 (lastPower digits).toNat ≤
      2 ^ digits * Nat.pow 10 (-lastPower digits).toNat := by
  decide +kernel

theorem whole_pos (nonzero : x.isZero = false) (last : p = lastPower (magnitude x.rank).log2) :
    0 < (x.inUnits p).1 / (x.inUnits p).2 := by
  have least := Nat.log2_self_le (magnitude_ne_zero nonzero)
  rw [inUnits, ratio_eq, last]
  dsimp only
  apply Nat.div_pos
  · exact Nat.le_trans (lastPower_small _ x.log2_magnitude_lt) (Nat.mul_le_mul_right _ least)
  · exact Nat.mul_pos units_pos (one_pow_pos _)

theorem whole_rank_le (x : Binary64) (p : Int) :
    decimalRank ((x.inUnits p).1 / (x.inUnits p).2) p ≤ x.rank := by
  have positive : 0 < x.ratio.2 := by
    rw [ratio_eq]
    exact units_pos
  rw [decimalRank, ← x.nearestRank_ratio]
  apply nearestRank_mono (one_pow_pos _) positive
  rw [inUnits, Nat.mul_assoc, Nat.mul_comm (Nat.pow 10 _)]
  exact Nat.div_mul_le_self _ _

/-- What is known of the shortest decimal of a number other than zero. -/
structure Short (x : Binary64) (c : Nat) (p : Int) : Prop where
  positive : 0 < c
  low : -400 ≤ p
  high : p ≤ 400
  rank_le : decimalRank c p ≤ x.rank

theorem shortest_short (nonzero : x.isZero = false) : Short x x.shortest.1 x.shortest.2 := by
  have digits := x.log2_magnitude_lt
  have start : ((magnitude x.rank).log2 - (1 <<< 1074).log2 + 2 : Int) * 1233 / 4096 + 1 =
      lastPower (magnitude x.rank).log2 + 21 := by
    rw [log2_units, lastPower]
    omega
  obtain ⟨c, p, searched, low, high, ended⟩ :=
    coarsestFrom_cases x 21 (lastPower (magnitude x.rank).log2 + 21)
  have found : x.shortest = (c, p) := by
    rw [shortest, ratio_eq]
    dsimp only
    rw [start, searched]
  have lowest : -400 ≤ lastPower (magnitude x.rank).log2 := by
    unfold lastPower
    omega
  have highest : lastPower (magnitude x.rank).log2 ≤ 379 := by
    unfold lastPower
    omega
  rw [found]
  rcases ended with back | ⟨last, rfl⟩
  · obtain ⟨positive, rank⟩ := rank_of_readsBack nonzero back
    exact ⟨positive, by omega, by omega, Nat.le_of_eq rank⟩
  · exact ⟨whole_pos nonzero (by omega), by omega, by omega, whole_rank_le x p⟩

/-- A decimal that is rounded to less than a bound is less than that bound. -/
theorem lt_of_decimalRank_lt {bound : Nat} (less : decimalRank c p < nearestRank bound 1) :
    c * Nat.pow 10 p.toNat < bound * Nat.pow 10 (-p).toNat := by
  by_contra atLeast
  rw [Nat.not_lt] at atLeast
  have more : nearestRank bound 1 ≤ decimalRank c p := by
    apply nearestRank_mono Nat.one_pos (one_pow_pos _)
    rwa [Nat.mul_one]
  omega

end Retrofit.Binary64
