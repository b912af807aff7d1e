import Retrofit.Json.Shape
import Retrofit.Json.Skim

/-! Reading a document by a schema, from left to right: the first fault of either kind, in the text or
against the schema, is the one reported. Members that the schema does not name are passed over. A record
may also be written as the list of its fields, and a tag as an object `{"tag": null}`. -/
namespace Retrofit.Json

/-- Reads on to see what stands where something else was expected, and reports that. -/
def mismatch {α : Type} (limit : Nat) (expected : Expected) (cs : List Char) : Except Fault α :=
  match cs with
  | [] => past .endInValue []
  | c :: r =>
    if c = 'n' then do here (.wrongType .null expected) (← word ['u', 'l', 'l'] r)
    else if c = 't' then do here (.wrongType (.bool true) expected) (← word ['r', 'u', 'e'] r)
    else if c = 'f' then do here (.wrongType (.bool false) expected) (← word ['a', 'l', 's', 'e'] r)
    else if c = '-' || c.isDigit then do
      match ← number cs with
      | (.integer n, r') => here (.wrongType (.integer n) expected) r'
      | (.real x, r') => here (.wrongType (.real x) expected) r'
    else if c = '"' then do
      let (s, r') ← textTail limit r
      here (.wrongType (.text s) expected) r'
    else if c = '[' then here (.wrongType .sequence expected) cs
    else if c = '{' then here (.wrongType .map expected) cs
    else past .expectedValue cs

def readText (limit : Nat) : Reader String := fun cs =>
  match skipSpace cs with
  | '"' :: r => textTail limit r
  | r => mismatch limit .text r

def readFlag (limit : Nat) : Reader Bool := fun cs =>
  match skipSpace cs with
  | 't' :: r => do return (true, ← word ['r', 'u', 'e'] r)
  | 'f' :: r => do return (false, ← word ['a', 'l', 's', 'e'] r)
  | r => mismatch limit .flag r

def startsNumber : List Char → Bool
  | c :: _ => c == '-' || c.isDigit
  | [] => false

/-- A whole number that fits a word. -/
def wordOf? (n : Int) : Option (Fin UInt64.size) :=
  if h : n.toNat < UInt64.size ∧ 0 ≤ n then some ⟨n.toNat, h.1⟩ else none

def readCount (limit : Nat) : Reader (Fin UInt64.size) := fun cs => do
  let r := skipSpace cs
  if startsNumber r then
    match ← number r with
    | (.integer n, r') =>
      match wordOf? n with
      | some word => return (word, r')
      | none => here (.negativeCount n) r'
    | (.real x, r') => here (.wrongType (.real x) .count) r'
  else mismatch limit .count r

def Number.toReal : Number → Binary64
  | .real x => x
  | .integer n => (Binary64.nearest? (n < 0) n.natAbs 1).getD Binary64.zero

def readReal (limit : Nat) : Reader Binary64 := fun cs => do
  let r := skipSpace cs
  if startsNumber r then
    let (n, r') ← number r
    return (n.toReal, r')
  else mismatch limit .real r

def findTag (tags : List String) (tag : String) (r : List Char) : Except Fault (Fin tags.length) :=
  match tags.findFinIdx? (· == tag) with
  | some i => .ok i
  | none => here (.unknownTag tag tags) r

/-- Nothing but null may stand behind a tag that is the key of an object. -/
def readUnit (limit : Nat) : Skimmer := fun cs =>
  match skipSpace cs with
  | 'n' :: r => word ['u', 'l', 'l'] r
  | r => mismatch limit .unit r

def readTag (limit : Nat) (tags : List String) : Reader (Fin tags.length) := fun cs =>
  match skipSpace cs with
  | [] => past .endInValue []
  | '"' :: r => do
    let (t, r') ← textTail limit r
    return (← findTag tags t r', r')
  | '{' :: r =>
    match skipSpace r with
    | [] => past .endInObject []
    | '"' :: r' => do
      let (t, r'') ← textTail limit r'
      let i ← findTag tags t r''
      let r''' ← readUnit limit (← colon r'')
      match skipSpace r''' with
      | '}' :: rest => return (i, rest)
      | [] => here .endInObject []
      | rest => here .expectedValue rest
    | '}' :: r' => past .expectedValue ('}' :: r')
    | r' => past .keyNotText r'
  | r => past .expectedValue r

/-- The end of a record written as a list, after its last field. -/
def closeList (cs : List Char) : Except Fault (List Char) :=
  match skipSpace cs with
  | [] => past .endInList []
  | ']' :: r => .ok r
  | ',' :: r =>
    match skipSpace r with
    | ']' :: r' => past .trailingComma (']' :: r')
    | r' => past .trailingText r'
  | r => past .trailingText r

/-- A key that has been read before. The fault lies behind the white space after the key, and behind a
brace that follows there. -/
def repeated {α : Type} (key : String) (cs : List Char) : Except Fault α :=
  match skipSpace cs with
  | '}' :: r => here (.repeatedMember key) r
  | r => here (.repeatedMember key) r

/-- The members gathered so far, one slot for each field. -/
@[reducible] def Fields.Draft : Fields → Type
  | .nil => Unit
  | .cons _ _ shape rest => Option shape.Content × rest.Draft

def Fields.emptyDraft : (fs : Fields) → fs.Draft
  | .nil => ()
  | .cons _ _ _ rest => (none, rest.emptyDraft)

/-- The record that an object with these members stands for, or the first key that is missing. -/
def Fields.complete : (fs : Fields) → fs.Draft → Except String fs.Content
  | .nil, _ => .ok ()
  | .cons key presence shape rest, (slot, more) =>
    match slot, presence, shape.absent? with
    | some x, _, _ => (rest.complete more).map (x, ·)
    | none, .always, _ => .error key
    | none, _, some x => (rest.complete more).map (x, ·)
    | none, _, none => .error key

/-- What the fields hold when a list ends before the first of them. -/
def Fields.allAbsent? : (fs : Fields) → Option fs.Content
  | .nil => some ()
  | .cons _ presence shape rest =>
    match presence, shape.absent?, rest.allAbsent? with
    | .never, some x, some more => some (x, more)
    | _, _, _ => none

mutual

def Shape.read (limit : Nat) : (s : Shape) → Reader s.Content
  | .text => readText limit
  | .flag => readFlag limit
  | .count => readCount limit
  | .real => readReal limit
  | .choice tags => readTag limit tags
  | .optional item => fun cs =>
    match skipSpace cs with
    | 'n' :: r => do return (none, ← word ['u', 'l', 'l'] r)
    | r => do
      let (x, r') ← item.read limit r
      return (some x, r')
  | .list item => fun cs =>
    match skipSpace cs with
    | '[' :: r => items (item.read limit) (limit + 1) [] r
    | r => mismatch limit .sequence r
  | .record name fields => fun cs =>
    match skipSpace cs with
    | '{' :: r => do
      let (draft, r') ← members limit (fields.readMember limit) (limit + 1) true fields.emptyDraft r
      match fields.complete draft with
      | .ok x => return (x, r')
      | .error key => here (.missingMember key) r'
    | '[' :: r => fields.readList limit name fields.size 0 r
    | r => mismatch limit (.record name) r

/-- The value of a member, into the slot of its field. -/
def Fields.readMember (limit : Nat) : (fs : Fields) → (key : String) → fs.Draft → Reader fs.Draft
  | .nil, _, draft => fun cs => do
    return (draft, ← skimValue limit (limit + 1) (← colon cs))
  | .cons key _ shape rest, k, (slot, more) => fun cs =>
    if k = key then
      match slot with
      | some _ => repeated key cs
      | none => do
        let (x, r) ← shape.read limit (← colon cs)
        return ((some x, more), r)
    else do
      let (more', r) ← rest.readMember limit k more cs
      return ((slot, more'), r)

/-- The fields in order, `seen` of them before these. -/
def Fields.readList (limit : Nat) (name : String) (size : Nat) :
    (fs : Fields) → (seen : Nat) → Reader fs.Content
  | .nil, _ => fun cs => do return ((), ← closeList cs)
  | .cons key presence shape rest, seen => fun cs => do
    match ← nextItem (seen == 0) cs with
    | .stop r =>
      match (Fields.cons key presence shape rest).allAbsent? with
      | some x => return (x, r)
      | none => here (.wrongLength seen name size) r
    | .more r =>
      let (x, r') ← shape.read limit r
      let (more, r'') ← rest.readList limit name size (seen + 1) r'
      return ((x, more), r'')

end

def Shape.decode (s : Shape) (text : String) : Except Fault s.Content := do
  let cs := text.toList
  let (x, r) ← s.read cs.length cs
  finished x r

end Retrofit.Json
