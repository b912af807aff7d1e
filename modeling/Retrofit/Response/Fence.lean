import Retrofit.Text.Blank
import Retrofit.Text.Cut

/-! A response may stand inside a code fence: a first line of three backticks and a tag, and a last line of
three backticks. -/
namespace Retrofit.Response

def fence : List Char := "```".toList

/-- Drops the last line when it is nothing but a fence. -/
def dropClosing (lines : List (List Char)) : List (List Char) :=
  match lines.getLast? with
  | some l => if Chars.trim l = fence then lines.dropLast else lines
  | none => lines

def unfencedChars (cs : List Char) : List Char :=
  let text := Chars.trim cs
  if fence.isPrefixOf text then
    let lines := dropClosing ((Chars.splitWhere (· == '\n') text).drop 1)
    Chars.trim (['\n'].intercalate lines)
  else text

/-- The text inside the fence, or the whole text if there is none, without white space around it. -/
def unfenced (raw : String) : String :=
  String.ofList (unfencedChars raw.toList)

end Retrofit.Response
