import Retrofit.Binary64.Basic

/-! The shortest decimal text that reads back as the same number. The text is a point of the coarsest
grid of powers of ten on which the number or one of its two neighbours there reads back. -/
namespace Retrofit.Binary64

/-- The absolute value in units of `10 ^ p`. -/
def inUnits (x : Binary64) (p : Int) : Nat × Nat :=
  (x.ratio.1 * Nat.pow 10 (-p).toNat, x.ratio.2 * Nat.pow 10 p.toNat)

/-- Whether `c * 10 ^ p` is read as the absolute value. -/
def readsBack (x : Binary64) (c : Nat) (p : Int) : Bool :=
  ofDecimal? false c p == some ⟨false, x.rank⟩

/-- The multiple of `10 ^ p` that reads back; of two, the nearer one, then the even one. -/
def pointOn? (x : Binary64) (p : Int) : Option Nat :=
  let (num, den) := x.inUnits p
  let near := roundHalfEven num den
  let below := num / den
  if x.readsBack near p then some near
  else if x.readsBack below p then some below
  else if x.readsBack (below + 1) p then some (below + 1)
  else none

def coarsestFrom (x : Binary64) : Nat → Int → Nat × Int
  | 0, p => ((x.inUnits p).1 / (x.inUnits p).2, p)
  | n + 1, p =>
    match x.pointOn? p with
    | some c => (c, p)
    | none => coarsestFrom x n (p - 1)

/-- Digits and exponent of the shortest decimal. The search begins at a power of ten above twice the
value; 17 digits always suffice. -/
def shortest (x : Binary64) : Nat × Int :=
  let (num, den) := x.ratio
  let magnitude : Int := (num.log2 : Int) - den.log2 + 2
  x.coarsestFrom 21 (magnitude * 1233 / 4096 + 1)

/-- Decimal text of `c * 10 ^ p`: with a point and no exponent from 10⁻⁵ up to 10¹⁶, and otherwise one
digit before the point and an exponent with its sign. -/
def decimalText (c : Nat) (p : Int) : List Char :=
  let ds := Nat.toDigits 10 c
  let point : Int := ds.length + p
  if -4 ≤ point && point ≤ 16 then
    if point ≤ 0 then '0' :: '.' :: List.replicate (-point).toNat '0' ++ ds
    else if point < ds.length then ds.take point.toNat ++ '.' :: ds.drop point.toNat
    else ds ++ List.replicate p.toNat '0' ++ ['.', '0']
  else
    let e := point - 1
    ds.take 1 ++ (if ds.length = 1 then [] else '.' :: ds.drop 1) ++
      ['e', if e < 0 then '-' else '+'] ++ Nat.toDigits 10 e.natAbs

def text (x : Binary64) : List Char :=
  (if x.negative then ['-'] else []) ++
    if x.isZero then ['0', '.', '0'] else decimalText x.shortest.1 x.shortest.2

end Retrofit.Binary64
