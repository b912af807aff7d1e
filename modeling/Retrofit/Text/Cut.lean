/-! Lengths, cuts and searches. Every length counts characters, so a cut never falls inside one. -/
namespace Retrofit

namespace Chars

/-- Whether `needle` stands somewhere in the text. -/
def occurs (needle : List Char) : List Char → Bool
  | [] => needle.isEmpty
  | c :: cs => needle.isPrefixOf (c :: cs) || occurs needle cs

end Chars

namespace Text

/-- The first `n` characters, or the whole text when it is no longer. -/
def takeChars (n : Nat) (s : String) : String :=
  String.ofList (s.toList.take n)

/-- The first `n` characters, with `marker` behind them exactly when something was cut off. -/
def truncate (n : Nat) (marker s : String) : String :=
  if n < s.toList.length then takeChars n s ++ marker else s

def contains (s needle : String) : Bool :=
  Chars.occurs needle.toList s.toList

end Text

end Retrofit
