import Retrofit.Json.Fault
import Retrofit.Json.Value

/-! The tokens of JSON, each read from the front of a text. A reader gets a limit besides the text, the
length of the whole document; no loop inside a reader runs longer than that. -/
namespace Retrofit.Json

/-- Reads a value from the front of a text and gives it with the text that is left. -/
abbrev Reader (α : Type) := List Char → Except Fault (α × List Char)

/-- A fault at the place where `cs` begins. -/
def here {α : Type} (cause : Cause) (cs : List Char) : Except Fault α :=
  .error ⟨cause, byteCount cs⟩

/-- A fault that counts the first byte of `cs` as read, unless the text is at its end. -/
def past {α : Type} (cause : Cause) (cs : List Char) : Except Fault α :=
  .error ⟨cause, byteCount cs - 1⟩

def isSpace (c : Char) : Bool :=
  c == ' ' || c == '\t' || c == '\n' || c == '\r'

def skipSpace (cs : List Char) : List Char :=
  cs.dropWhile isSpace

/-- The rest of a word of which the first letter has been read. -/
def word : List Char → List Char → Except Fault (List Char)
  | [], cs => .ok cs
  | _ :: _, [] => here .endInValue []
  | w :: ws, c :: cs => if c = w then word ws cs else past .expectedWord (c :: cs)

def colon (cs : List Char) : Except Fault (List Char) :=
  match skipSpace cs with
  | [] => past .endInObject []
  | c :: r => if c = ':' then .ok r else past .expectedColon (c :: r)

/-! Numbers -/

def digitValue (c : Char) : Nat := c.toNat - 48

def largestWord : Nat := UInt64.size - 1

def largestExponent : Nat := 0x7fffffff

/-- Appends decimal digits to `n` for as long as the result fits `bound`; gives how many it took. -/
def digitsUpTo (bound : Nat) : Nat → Nat → List Char → Nat × Nat × List Char
  | n, taken, [] => (n, taken, [])
  | n, taken, c :: cs =>
    if c.isDigit && n * 10 + digitValue c ≤ bound then
      digitsUpTo bound (n * 10 + digitValue c) (taken + 1) cs
    else (n, taken, c :: cs)

def startsWithDigit : List Char → Bool
  | c :: _ => c.isDigit
  | [] => false

/-- Divides by powers of ten no larger than 10³⁰⁸, a rounded quotient at a time. -/
def divideByPower (x : Binary64) (k : Nat) : Option Binary64 :=
  if k ≤ 308 then
    (Binary64.ofNat? (Nat.pow 10 k)).bind x.div?
  else if x.isZero then some x
  else
    ((Binary64.ofNat? (Nat.pow 10 308)).bind x.div?).bind fun y => divideByPower y (k - 308)
termination_by k
decreasing_by omega

/-- The binary64 number that stands for `n * 10 ^ e`: `n` is rounded first, then the product with, or the
quotient by, the rounded power of ten. -/
def scaled? (n : Nat) (e : Int) : Option Binary64 :=
  (Binary64.ofNat? n).bind fun x =>
    if 0 ≤ e then
      if e ≤ 308 then (Binary64.ofNat? (Nat.pow 10 e.toNat)).bind x.mul?
      else if x.isZero then some x else none
    else divideByPower x e.natAbs

/-- A real number with its sign, if its absolute value is finite. Nothing more is read. -/
def signedReal (negative : Bool) (size : Option Binary64) : Reader Number := fun cs =>
  match size with
  | some x => .ok (.real (if negative then x.neg else x), cs)
  | none => here .numberTooLarge cs

def realNumber (negative : Bool) (n : Nat) (e : Int) : Reader Number :=
  signedReal negative (scaled? n e)

/-- Whether an exponent has a minus sign, and the text behind its sign. -/
def exponentSign : List Char → Bool × List Char
  | '+' :: r => (false, r)
  | '-' :: r => (true, r)
  | r => (false, r)

/-- The number whose digits make `n * 10 ^ e`, with the exponent that is still to be read: the text
begins behind the letter E. -/
def exponentPart (negative : Bool) (n : Nat) (e : Int) : Reader Number := fun cs =>
  let (down, r) := exponentSign cs
  match r with
  | [] => here .endInValue []
  | c :: _ =>
    if c.isDigit then
      match digitsUpTo largestExponent 0 0 r with
      | (k, _, []) => realNumber negative n (if down then e - k else e + k) []
      | (k, _, d :: r') =>
        if d.isDigit then
          if n ≠ 0 && !down then here .numberTooLarge r'
          else .ok (.real { Binary64.zero with negative }, r'.dropWhile Char.isDigit)
        else realNumber negative n (if down then e - k else e + k) (d :: r')
    else past .badNumber r

def isExponentLetter (c : Char) : Bool := c == 'e' || c == 'E'

/-- What may follow the digits of a number that has a fraction or is too long for a word. -/
def afterDigits (negative : Bool) (n : Nat) (e : Int) : Reader Number := fun cs =>
  match cs with
  | [] => realNumber negative n e []
  | c :: r => if isExponentLetter c then exponentPart negative n e r else realNumber negative n e cs

/-- The digits behind the point. Those that would take the number beyond a word are dropped. -/
def fractionPart (negative : Bool) (n : Nat) (e : Int) : Reader Number := fun cs =>
  let (m, taken, r) := digitsUpTo largestWord n 0 cs
  if startsWithDigit r then afterDigits negative m (e - taken) (r.dropWhile Char.isDigit)
  else if taken = 0 then
    match r with
    | [] => past .endInValue []
    | _ => past .badNumber r
  else afterDigits negative m (e - taken) r

/-- Whole numbers of 64 bits stay whole; minus zero and all others become reals. -/
def wholeNumber (negative : Bool) (n : Nat) : Number :=
  if !negative then .integer n
  else if 1 ≤ n && n ≤ 0x8000000000000000 then .integer (-n)
  else .real ((Binary64.ofNat? n).getD Binary64.zero).neg

/-- What may follow the digits of a whole number that fits a word. -/
def afterWhole (negative : Bool) (n : Nat) : Reader Number := fun cs =>
  match cs with
  | [] => .ok (wholeNumber negative n, [])
  | c :: r =>
    if c = '.' then fractionPart negative n 0 r
    else if isExponentLetter c then exponentPart negative n 0 r
    else .ok (wholeNumber negative n, cs)

def unsignedNumber (negative : Bool) : Reader Number := fun cs =>
  match cs with
  | [] => here .endInValue []
  | c :: r =>
    if c = '0' then
      if startsWithDigit r then past .badNumber r else afterWhole negative 0 r
    else if c.isDigit then
      let (n, _, r') := digitsUpTo largestWord 0 0 cs
      if startsWithDigit r' then
        let more := r'.takeWhile Char.isDigit
        match r'.dropWhile Char.isDigit with
        | '.' :: r'' => fractionPart negative n more.length r''
        | r'' => afterDigits negative n more.length r''
      else afterWhole negative n r'
    else past .badNumber cs

/-- A number, from its sign or its first digit on. -/
def number : Reader Number := fun cs =>
  match cs with
  | '-' :: r => unsignedNumber true r
  | r => unsignedNumber false r

/-! Texts -/

def hexValue? (c : Char) : Option Nat :=
  if c.isDigit then some (c.toNat - 48)
  else if 'a' ≤ c ∧ c ≤ 'f' then some (c.toNat - 87)
  else if 'A' ≤ c ∧ c ≤ 'F' then some (c.toNat - 55)
  else none

def hexUnit : Reader Nat := fun cs =>
  if byteCount cs < 4 then .error ⟨.endInText, 0⟩
  else
    match cs with
    | a :: b :: c :: d :: r =>
      match hexValue? a, hexValue? b, hexValue? c, hexValue? d with
      | some a, some b, some c, some d => .ok (((a * 16 + b) * 16 + c) * 16 + d, r)
      | _, _, _, _ => .error ⟨.badEscape, byteCount cs - 4⟩
    | _ => .error ⟨.badEscape, byteCount cs - 4⟩

def isLowSurrogate (n : Nat) : Bool := 0xDC00 ≤ n && n ≤ 0xDFFF

def isHighSurrogate (n : Nat) : Bool := 0xD800 ≤ n && n ≤ 0xDBFF

/-- A character by number: two surrogates, high before low, make one character. -/
def unicodeEscape : Reader Char := fun cs => do
  let (n, r) ← hexUnit cs
  if isLowSurrogate n then here .loneSurrogate r
  else if isHighSurrogate n then
    match r with
    | [] => here .endInText []
    | b :: r' =>
      if b = '\\' then
        match r' with
        | [] => here .endInText []
        | u :: r'' =>
          if u = 'u' then
            let (m, r''') ← hexUnit r''
            if isLowSurrogate m then
              .ok (Char.ofNat ((n - 0xD800) * 0x400 + (m - 0xDC00) + 0x10000), r''')
            else here .loneSurrogate r'''
          else past .cutEscape r'
      else past .cutEscape r
  else .ok (Char.ofNat n, r)

/-- The character that a letter behind a backslash stands for. -/
def shortEscape? (c : Char) : Option Char :=
  if c = '"' then some '"'
  else if c = '\\' then some '\\'
  else if c = '/' then some '/'
  else if c = 'b' then some '\x08'
  else if c = 'f' then some '\x0c'
  else if c = 'n' then some '\n'
  else if c = 'r' then some '\r'
  else if c = 't' then some '\t'
  else none

def escape : Reader Char := fun cs =>
  match cs with
  | [] => here .endInText []
  | c :: r =>
    if c = 'u' then unicodeEscape r
    else match shortEscape? c with
      | some x => .ok (x, r)
      | none => past .badEscape cs

/-- The characters up to the closing quote, the last one first. -/
def textBody : Nat → List Char → Reader (List Char)
  | 0, _, cs => here .endInText cs
  | _ + 1, _, [] => here .endInText []
  | n + 1, seen, c :: r =>
    if c = '"' then .ok (seen, r)
    else if c = '\\' then
      match escape r with
      | .ok (x, r') => textBody n (x :: seen) r'
      | .error f => .error f
    else if c.toNat < 0x20 then past .controlCharacter (c :: r)
    else textBody n (c :: seen) r

def textTail (limit : Nat) : Reader String := fun cs => do
  let (seen, r) ← textBody (limit + 1) [] cs
  return (String.ofList seen.reverse, r)

/-! Items and keys -/

/-- Whether a list or an object goes on. -/
inductive Next where
  /-- The closing bracket has been read. -/
  | stop (rest : List Char)
  /-- Another item begins here, or the text of another key. -/
  | more (rest : List Char)

/-- Up to the next item of a list. `first` says that none has been read. -/
def nextItem (first : Bool) (cs : List Char) : Except Fault Next :=
  match skipSpace cs with
  | [] => past .endInList []
  | c :: r =>
    if c = ']' then .ok (.stop r)
    else if first then .ok (.more (c :: r))
    else if c = ',' then
      match skipSpace r with
      | [] => past .endInValue []
      | d :: r' => if d = ']' then past .trailingComma (d :: r') else .ok (.more (d :: r'))
    else past .expectedListEnd (c :: r)

/-- Up to the next key of an object, behind its opening quote. -/
def nextKey (first : Bool) (cs : List Char) : Except Fault Next :=
  match skipSpace cs with
  | [] => past .endInObject []
  | c :: r =>
    if c = '}' then .ok (.stop r)
    else if first then
      if c = '"' then .ok (.more r) else past .keyNotText (c :: r)
    else if c = ',' then
      match skipSpace r with
      | [] => past .endInValue []
      | d :: r' =>
        if d = '"' then .ok (.more r')
        else if d = '}' then past .trailingComma (d :: r')
        else past .keyNotText (d :: r')
    else past .expectedObjectEnd (c :: r)

/-- The items of a list after its opening bracket, those already read in front, last one first. -/
def items {α : Type} (item : Reader α) : Nat → List α → Reader (List α)
  | 0, _, cs => here .endInList cs
  | n + 1, seen, cs =>
    match nextItem seen.isEmpty cs with
    | .error f => .error f
    | .ok (.stop r) => .ok (seen.reverse, r)
    | .ok (.more r) =>
      match item r with
      | .error f => .error f
      | .ok (x, r') => items item n (x :: seen) r'

/-- The members of an object after its opening bracket. Each key is read here; `member` reads on from
the key's closing quote and says what has been gathered then. -/
def members {σ : Type} (limit : Nat) (member : String → σ → Reader σ) : Nat → Bool → σ → Reader σ
  | 0, _, _, cs => here .endInObject cs
  | n + 1, first, gathered, cs =>
    match nextKey first cs with
    | .error f => .error f
    | .ok (.stop r) => .ok (gathered, r)
    | .ok (.more r) =>
      match textTail limit r with
      | .error f => .error f
      | .ok (key, r') =>
        match member key gathered r' with
        | .error f => .error f
        | .ok (gathered', r'') => members limit member n false gathered' r''

/-- Nothing but white space may follow a document. -/
def finished {α : Type} (x : α) (cs : List Char) : Except Fault α :=
  match skipSpace cs with
  | [] => .ok x
  | c :: r => past .trailingText (c :: r)

end Retrofit.Json
