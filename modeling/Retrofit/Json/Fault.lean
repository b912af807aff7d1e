import Retrofit.Binary64.Shortest
import Retrofit.Text.Quoted
import Retrofit.Text.Blank

/-! Why a document cannot be read, and where. A fault is placed by the number of bytes behind it, so that
a reader needs to know nothing but the text it has left. -/
namespace Retrofit.Json

/-- What stands where something else was expected. -/
inductive Found where
  | null
  | bool (b : Bool)
  | integer (n : Int)
  | real (x : Binary64)
  | text (s : String)
  | sequence
  | map

inductive Expected where
  | text
  | sequence
  | flag
  | count
  | real
  | unit
  | record (name : String)

inductive Cause where
  | endInList
  | endInObject
  | endInText
  | endInValue
  | expectedColon
  | expectedListEnd
  | expectedObjectEnd
  | expectedWord
  | expectedValue
  | badEscape
  | badNumber
  | numberTooLarge
  | controlCharacter
  | keyNotText
  | loneSurrogate
  | trailingComma
  | trailingText
  | cutEscape
  | tooDeep
  | wrongType (found : Found) (expected : Expected)
  | negativeCount (n : Int)
  | unknownTag (tag : String) (tags : List String)
  | repeatedMember (key : String)
  | missingMember (key : String)
  | wrongLength (items : Nat) (name : String) (fields : Nat)

structure Fault where
  cause : Cause
  /-- Bytes of the text after the place of the fault. -/
  behind : Nat

/-- The text is well formed as far as it was read, but says something else than the schema wants. -/
def Cause.isMismatch : Cause → Bool
  | .wrongType .. | .negativeCount _ | .unknownTag .. | .repeatedMember _ | .missingMember _
  | .wrongLength .. => true
  | _ => false

def Found.message : Found → String
  | .null => "null"
  | .bool b => s!"boolean `{b}`"
  | .integer n => s!"integer `{n}`"
  | .real x => s!"floating point `{String.ofList x.text}`"
  | .text s => s!"string {Text.quoted s}"
  | .sequence => "sequence"
  | .map => "map"

def Expected.message : Expected → String
  | .text => "a string"
  | .sequence => "a sequence"
  | .flag => "a boolean"
  | .count => "usize"
  | .real => "f64"
  | .unit => "unit"
  | .record name => s!"struct {name}"

/-- The allowed tags of a choice, as a message lists them. -/
def tagList (tags : List String) : String :=
  match tags.map fun t => s!"`{t}`" with
  | [a] => a
  | [a, b] => s!"{a} or {b}"
  | all => "one of " ++ Text.join ", " all

def Cause.message : Cause → String
  | .endInList => "EOF while parsing a list"
  | .endInObject => "EOF while parsing an object"
  | .endInText => "EOF while parsing a string"
  | .endInValue => "EOF while parsing a value"
  | .expectedColon => "expected `:`"
  | .expectedListEnd => "expected `,` or `]`"
  | .expectedObjectEnd => "expected `,` or `\x7d`"
  | .expectedWord => "expected ident"
  | .expectedValue => "expected value"
  | .badEscape => "invalid escape"
  | .badNumber => "invalid number"
  | .numberTooLarge => "number out of range"
  | .controlCharacter => "control character (\\u0000-\\u001F) found while parsing a string"
  | .keyNotText => "key must be a string"
  | .loneSurrogate => "lone leading surrogate in hex escape"
  | .trailingComma => "trailing comma"
  | .trailingText => "trailing characters"
  | .cutEscape => "unexpected end of hex escape"
  | .tooDeep => "recursion limit exceeded"
  | .wrongType found expected => s!"invalid type: {found.message}, expected {expected.message}"
  | .negativeCount n => s!"invalid value: integer `{n}`, expected usize"
  | .unknownTag tag tags => s!"unknown variant `{tag}`, expected {tagList tags}"
  | .repeatedMember key => s!"duplicate field `{key}`"
  | .missingMember key => s!"missing field `{key}`"
  | .wrongLength items name fields =>
    s!"invalid length {items}, expected struct {name} with {fields} elements"

def byteCount (cs : List Char) : Nat :=
  cs.foldr (fun c bytes => c.utf8Size + bytes) 0

/-- Line and column after so many bytes: lines count from 1, columns count bytes from the last line
break. -/
def placeAfter : Nat → List Char → Nat → Nat → Nat × Nat
  | _, [], line, column => (line, column)
  | bytes, c :: cs, line, column =>
    if bytes = 0 then (line, column)
    else if c = '\n' then placeAfter (bytes - 1) cs (line + 1) 0
    else if bytes < c.utf8Size then (line, column + bytes)
    else placeAfter (bytes - c.utf8Size) cs line (column + c.utf8Size)

/-- The fault as a sentence that places it in the text it was found in. -/
def Fault.message (f : Fault) (text : String) : String :=
  let cs := text.toList
  let (line, column) := placeAfter (byteCount cs - f.behind) cs 1 0
  s!"{f.cause.message} at line {line} column {column}"

end Retrofit.Json
