/-! Finite numbers of the binary64 format, without recourse to machine arithmetic. Products, quotients
and readings are exact quotients of natural numbers, rounded once: to the nearest number of the format,
a tie going to the even significand. -/
namespace Retrofit

/-- A sign, and the rank of the absolute value among the non-negative numbers of the format. The rank is
also the bit pattern below the sign bit; rank `0x7ff0000000000000` would be infinity. -/
structure Binary64 where
  negative : Bool
  rank : Fin 0x7ff0000000000000
  deriving DecidableEq

namespace Binary64

def zero : Binary64 := ⟨false, 0⟩

def neg (x : Binary64) : Binary64 := ⟨!x.negative, x.rank⟩

def isZero (x : Binary64) : Bool := x.rank.val == 0

def bits (x : Binary64) : Nat :=
  (if x.negative then 0x8000000000000000 else 0) + x.rank.val

/-- The absolute value is `significand * 2 ^ (scale - 1074)`. -/
def significand (x : Binary64) : Nat :=
  if x.rank.val < 0x10000000000000 then x.rank.val
  else 0x10000000000000 + x.rank.val % 0x10000000000000

def scale (x : Binary64) : Nat :=
  x.rank.val / 0x10000000000000 - 1

/-- The absolute value as a quotient of natural numbers. -/
def ratio (x : Binary64) : Nat × Nat :=
  (x.significand <<< x.scale, 1 <<< 1074)

/-- `num / den` as a whole number, a tie going to the even one. -/
def roundHalfEven (num den : Nat) : Nat :=
  let q := num / den
  let twice := 2 * (num % den)
  if den < twice || (twice == den && q % 2 == 1) then q + 1 else q

/-- The rank nearest to `num / den`, past every rank when that is too large. The quotient is rounded to
a multiple of `2 ^ (scale - 1074)`, with the scale that leaves a significand of 53 bits, or 0 if
that would be less. -/
def nearestRank (num den : Nat) : Nat :=
  let scaled := num <<< 1074
  let guess := scaled.log2 - den.log2 - 53
  let scale := if scaled / (den <<< guess) < 0x20000000000000 then guess else guess + 1
  scale * 0x10000000000000 + roundHalfEven scaled (den <<< scale)

/-- The number nearest to `num / den`, if it is finite. -/
def nearest? (negative : Bool) (num den : Nat) : Option Binary64 :=
  let r := nearestRank num den
  if h : r < 0x7ff0000000000000 then some ⟨negative, ⟨r, h⟩⟩ else none

def ofNat? (n : Nat) : Option Binary64 := nearest? false n 1

def mul? (x y : Binary64) : Option Binary64 :=
  nearest? (x.negative != y.negative) (x.ratio.1 * y.ratio.1) (x.ratio.2 * y.ratio.2)

/-- The quotient by a number that is not zero. -/
def div? (x y : Binary64) : Option Binary64 :=
  nearest? (x.negative != y.negative) (x.ratio.1 * y.ratio.2) (x.ratio.2 * y.ratio.1)

/-- The number nearest to `digits * 10 ^ exponent`, if it is finite. Beyond the first two bounds the
answer is infinity or zero whatever the digits are. -/
def ofDecimal? (negative : Bool) (digits : Nat) (exponent : Int) : Option Binary64 :=
  if digits = 0 then some ⟨negative, 0⟩
  else if 400 < exponent then none
  else if 3 * exponent < -(digits.log2 + 1200 : Int) then some ⟨negative, 0⟩
  else nearest? negative (digits * Nat.pow 10 exponent.toNat) (Nat.pow 10 (-exponent).toNat)

/-- Strictly smaller as a number, so that the two zeros are equal. -/
def less (x y : Binary64) : Bool :=
  match x.negative, y.negative with
  | false, false => x.rank < y.rank
  | true, true => y.rank < x.rank
  | true, false => !(x.isZero && y.isZero)
  | false, true => false

end Binary64

end Retrofit
