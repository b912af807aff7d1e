import Retrofit.Text.Unprintable

/-! Text between double quotes, for messages: a quote or a backslash has a backslash before it, and a
character that would not be seen is shown by its number. -/
namespace Retrofit

namespace Chars

def quoteChar (c : Char) : List Char :=
  if c = '"' then ['\\', '"']
  else if c = '\\' then ['\\', '\\']
  else if c = '\n' then ['\\', 'n']
  else if c = '\r' then ['\\', 'r']
  else if c = '\t' then ['\\', 't']
  else if c = '\x00' then ['\\', '0']
  else if isUnprintable c then ['\\', 'u', '{'] ++ Nat.toDigits 16 c.toNat ++ ['}']
  else [c]

end Chars

namespace Text

def quoted (s : String) : String :=
  String.ofList ('"' :: s.toList.flatMap Chars.quoteChar ++ ['"'])

end Text

end Retrofit
