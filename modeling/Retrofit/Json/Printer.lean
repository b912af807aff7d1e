import Retrofit.Json.Value
import Retrofit.Binary64.Shortest

/-! Writing a document, in one line or with two spaces of indentation for each level. -/
namespace Retrofit.Json

def hexDigit (n : Nat) : Char :=
  if n < 10 then Char.ofNat (48 + n) else Char.ofNat (87 + n)

/-- A character inside a text. Only the quote, the backslash and the control characters are escaped. -/
def writtenChar (c : Char) : List Char :=
  if c = '"' then ['\\', '"']
  else if c = '\\' then ['\\', '\\']
  else if c = '\n' then ['\\', 'n']
  else if c = '\r' then ['\\', 'r']
  else if c = '\t' then ['\\', 't']
  else if c = '\x08' then ['\\', 'b']
  else if c = '\x0c' then ['\\', 'f']
  else if c.toNat < 0x20 then
    ['\\', 'u', '0', '0', hexDigit (c.toNat / 16), hexDigit (c.toNat % 16)]
  else [c]

def writtenText (s : String) : List Char :=
  '"' :: s.toList.flatMap writtenChar ++ ['"']

def writtenInteger (n : Int) : List Char :=
  (if n < 0 then ['-'] else []) ++ Nat.toDigits 10 n.natAbs

def writtenNumber : Number → List Char
  | .integer n => writtenInteger n
  | .real x => x.text

/-! In one line -/

mutual

def compactValue : Value → List Char
  | .null => ['n', 'u', 'l', 'l']
  | .bool true => ['t', 'r', 'u', 'e']
  | .bool false => ['f', 'a', 'l', 's', 'e']
  | .number n => writtenNumber n
  | .text s => writtenText s
  | .array [] => ['[', ']']
  | .array (v :: vs) => '[' :: compactValue v ++ compactItems vs
  | .object [] => ['{', '}']
  | .object ((k, v) :: ms) => '{' :: writtenText k ++ ':' :: compactValue v ++ compactMembers ms

/-- The items after the first, and the bracket. -/
def compactItems : List Value → List Char
  | [] => [']']
  | v :: vs => ',' :: compactValue v ++ compactItems vs

/-- The members after the first, and the bracket. -/
def compactMembers : List (String × Value) → List Char
  | [] => ['}']
  | (k, v) :: ms => ',' :: writtenText k ++ ':' :: compactValue v ++ compactMembers ms

end

/-! With indentation -/

def newLine (depth : Nat) : List Char :=
  '\n' :: List.replicate (2 * depth) ' '

mutual

def prettyValue (depth : Nat) : Value → List Char
  | .null => ['n', 'u', 'l', 'l']
  | .bool true => ['t', 'r', 'u', 'e']
  | .bool false => ['f', 'a', 'l', 's', 'e']
  | .number n => writtenNumber n
  | .text s => writtenText s
  | .array [] => ['[', ']']
  | .array (v :: vs) =>
    '[' :: newLine (depth + 1) ++ prettyValue (depth + 1) v ++ prettyItems depth vs
  | .object [] => ['{', '}']
  | .object ((k, v) :: ms) =>
    '{' :: newLine (depth + 1) ++ writtenText k ++ ':' :: ' ' :: prettyValue (depth + 1) v ++
      prettyMembers depth ms

def prettyItems (depth : Nat) : List Value → List Char
  | [] => newLine depth ++ [']']
  | v :: vs => ',' :: newLine (depth + 1) ++ prettyValue (depth + 1) v ++ prettyItems depth vs

def prettyMembers (depth : Nat) : List (String × Value) → List Char
  | [] => newLine depth ++ ['}']
  | (k, v) :: ms =>
    ',' :: newLine (depth + 1) ++ writtenText k ++ ':' :: ' ' :: prettyValue (depth + 1) v ++
      prettyMembers depth ms

end

def compact (v : Value) : String := String.ofList (compactValue v)

def pretty (v : Value) : String := String.ofList (prettyValue 0 v)

end Retrofit.Json
