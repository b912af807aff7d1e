/-! White space, and the functions on text that cut at it. A character is blank exactly when Unicode
gives it the property White_Space; the four blanks of JSON are a smaller set and live with the reader. -/
namespace Retrofit

namespace Chars

def isBlank (c : Char) : Bool :=
  let n := c.toNat
  (0x09 ≤ n && n ≤ 0x0D) || n == 0x20 || n == 0x85 || n == 0xA0 || n == 0x1680 ||
    (0x2000 ≤ n && n ≤ 0x200A) || n == 0x2028 || n == 0x2029 || n == 0x202F || n == 0x205F ||
    n == 0x3000

def trimRight (cs : List Char) : List Char :=
  (cs.reverse.dropWhile isBlank).reverse

def trim (cs : List Char) : List Char :=
  trimRight (cs.dropWhile isBlank)

/-- Cuts at every character that satisfies `p` and drops it: `n` cuts leave `n + 1` pieces. -/
def splitWhere {α : Type} (p : α → Bool) : List α → List (List α)
  | [] => [[]]
  | c :: cs =>
    if p c then [] :: splitWhere p cs
    else match splitWhere p cs with
      | [] => [[c]]
      | piece :: pieces => (c :: piece) :: pieces

/-- The maximal runs of characters that are not blank. -/
def words (cs : List Char) : List (List Char) :=
  (splitWhere isBlank cs).filter (· ≠ [])

theorem splitWhere_ne_nil {α : Type} (p : α → Bool) (cs : List α) : splitWhere p cs ≠ [] := by
  cases cs with
  | nil => simp [splitWhere]
  | cons c cs =>
    simp only [splitWhere]
    split
    · simp
    · split <;> simp

end Chars

namespace Text

def trim (s : String) : String :=
  String.ofList (Chars.trim s.toList)

/-- No character of the text is anything but white space. -/
def isBlank (s : String) : Bool :=
  s.toList.all Chars.isBlank

/-- Puts `sep` between neighbours. -/
def join (sep : String) : List String → String
  | [] => ""
  | [s] => s
  | s :: rest => s ++ sep ++ join sep rest

/-- The words of the text with one space between neighbours, so that no line break is left. -/
def oneLine (s : String) : String :=
  join " " ((Chars.words s.toList).map String.ofList)

end Text

end Retrofit
