import Retrofit.Json.Token

/-! Passing over a value that no schema asks for. Less is checked here than when a value is read: depth
and size of numbers do not matter, nor does which character an escape stands for; and behind a comma any
value, or any key, is as good as an item. -/
namespace Retrofit.Json

/-- Passes over something at the front of a text and gives the text that is left. -/
abbrev Skimmer := List Char → Except Fault (List Char)

def skimExponent : Skimmer := fun cs =>
  match (exponentSign cs).2 with
  | [] => here .badNumber []
  | c :: r => if c.isDigit then .ok (r.dropWhile Char.isDigit) else past .badNumber (c :: r)

def skimFraction : Skimmer := fun cs =>
  if startsWithDigit cs then
    match cs.dropWhile Char.isDigit with
    | [] => .ok []
    | c :: r => if isExponentLetter c then skimExponent r else .ok (c :: r)
  else past .badNumber cs

def skimAfterWhole : Skimmer := fun cs =>
  match cs with
  | [] => .ok []
  | c :: r =>
    if c = '.' then skimFraction r
    else if isExponentLetter c then skimExponent r
    else .ok cs

def skimNumber : Skimmer := fun cs =>
  match cs with
  | [] => here .badNumber []
  | c :: r =>
    if c = '0' then
      if startsWithDigit r then past .badNumber r else skimAfterWhole r
    else if c.isDigit then skimAfterWhole (r.dropWhile Char.isDigit)
    else past .badNumber cs

def skimEscape : Skimmer := fun cs =>
  match cs with
  | [] => here .endInText []
  | c :: r =>
    if c = 'u' then (hexUnit r).map Prod.snd
    else if (shortEscape? c).isSome then .ok r
    else past .badEscape cs

/-- Up to and past the closing quote of a text. -/
def skimText : Nat → Skimmer
  | 0, cs => here .endInText cs
  | _ + 1, [] => here .endInText []
  | n + 1, c :: r =>
    if c = '"' then .ok r
    else if c = '\\' then
      match skimEscape r with
      | .ok r' => skimText n r'
      | .error f => .error f
    else if c.toNat < 0x20 then here .controlCharacter (c :: r)
    else skimText n r

/-- What is left of a list after one of its items. -/
def skimItems (inner : Skimmer) : Nat → Skimmer
  | 0, cs => here .endInList cs
  | n + 1, cs =>
    match skipSpace cs with
    | [] => past .endInList []
    | c :: r =>
      if c = ']' then .ok r
      else if c = ',' then
        match inner r with
        | .ok r' => skimItems inner n r'
        | .error f => .error f
      else past .expectedListEnd (c :: r)

def skimMember (limit : Nat) (inner : Skimmer) : Skimmer := fun cs =>
  match skipSpace cs with
  | [] => past .endInObject []
  | c :: r =>
    if c = '"' then do
      let r' ← skimText (limit + 1) r
      inner (← colon r')
    else past .keyNotText (c :: r)

/-- What is left of an object after one of its members. -/
def skimMembers (limit : Nat) (inner : Skimmer) : Nat → Skimmer
  | 0, cs => here .endInObject cs
  | n + 1, cs =>
    match skipSpace cs with
    | [] => past .endInObject []
    | c :: r =>
      if c = '}' then .ok r
      else if c = ',' then
        match skimMember limit inner r with
        | .ok r' => skimMembers limit inner n r'
        | .error f => .error f
      else past .expectedObjectEnd (c :: r)

/-- A value. The count bounds the depth, which the length of the document bounds. -/
def skimValue (limit : Nat) : Nat → Skimmer
  | 0, cs => past .expectedValue cs
  | depth + 1, cs =>
    match skipSpace cs with
    | [] => past .endInValue []
    | c :: r =>
      if c = 'n' then word ['u', 'l', 'l'] r
      else if c = 't' then word ['r', 'u', 'e'] r
      else if c = 'f' then word ['a', 'l', 's', 'e'] r
      else if c = '-' then skimNumber r
      else if c.isDigit then skimNumber (c :: r)
      else if c = '"' then skimText (limit + 1) r
      else if c = '[' then
        match skipSpace r with
        | [] => past .endInList []
        | d :: r' =>
          if d = ']' then .ok r'
          else do skimItems (skimValue limit depth) (limit + 1) (← skimValue limit depth (d :: r'))
      else if c = '{' then
        match skipSpace r with
        | [] => past .endInObject []
        | d :: r' =>
          if d = '}' then .ok r'
          else do
            skimMembers limit (skimValue limit depth) (limit + 1)
              (← skimMember limit (skimValue limit depth) (d :: r'))
      else past .expectedValue (c :: r)

end Retrofit.Json
