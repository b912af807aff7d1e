import Retrofit.Text.Alphabetic
import Retrofit.Text.LetterCase

/-! Headings from identifiers: `abstract_class` becomes `Abstract_Class`. -/
namespace Retrofit

namespace Chars

/-- A letter behind a letter is lowered, any other letter is raised, and the rest is kept.
`afterLetter` says whether the character before was a letter. -/
def titleFrom (afterLetter : Bool) : List Char → List Char
  | [] => []
  | c :: cs =>
    if isAlphabetic c then
      (if afterLetter then lowerCase c else upperCase c) ++ titleFrom true cs
    else c :: titleFrom false cs

end Chars

namespace Text

def title (s : String) : String :=
  String.ofList (Chars.titleFrom false s.toList)

end Text

end Retrofit
