import Retrofit.Binary64.Basic

/-! Reading a number as people write it: a sign, digits with a point among them, and a power of ten, all
but the digits optional. -/
namespace Retrofit.Binary64

/-- The number that appending decimal digits to `n` makes. -/
def appendDigits (n : Nat) (ds : List Char) : Nat :=
  ds.foldl (fun n d => n * 10 + (d.toNat - 48)) n

/-- Whether a minus sign leads the text, and the text behind the sign. -/
def splitSign : List Char → Bool × List Char
  | '-' :: cs => (true, cs)
  | '+' :: cs => (false, cs)
  | cs => (false, cs)

/-- The power of ten at the end of a number, or 0 if there is none. -/
def exponent? : List Char → Option Int
  | [] => some 0
  | c :: cs =>
    let (down, ds) := splitSign cs
    if (c == 'e' || c == 'E') && !ds.isEmpty && ds.all Char.isDigit then
      some (if down then -(appendDigits 0 ds : Int) else appendDigits 0 ds)
    else none

/-- The finite number nearest to what the text says, if it is written correctly. -/
def parse? (text : List Char) : Option Binary64 :=
  let (negative, cs) := splitSign text
  let whole := cs.takeWhile Char.isDigit
  let rest := cs.dropWhile Char.isDigit
  let (fraction, rest) := match rest with
    | '.' :: r => (r.takeWhile Char.isDigit, r.dropWhile Char.isDigit)
    | r => ([], r)
  if whole.isEmpty && fraction.isEmpty then none
  else (exponent? rest).bind fun e =>
    ofDecimal? negative (appendDigits (appendDigits 0 whole) fraction) (e - fraction.length)

end Retrofit.Binary64
