import Retrofit.Json.Decoder
import Retrofit.Proofs.Json.Sketch

/-! What a schema makes of a value, without any text. -/
namespace Retrofit.Json

theorem wordOf_natCast {n : Nat} (fits : n < UInt64.size) : wordOf? n = some ⟨n, fits⟩ := by
  rw [wordOf?, dif_pos ⟨fits, Int.natCast_nonneg n⟩]
  rfl

theorem eq_of_wordOf {n : Int} {word : Fin UInt64.size} (ok : wordOf? n = some word) :
    n = word.val := by
  unfold wordOf? at ok
  split at ok
  · rename_i fits
    cases ok
    exact (Int.toNat_of_nonneg fits.2).symm
  · cases ok

namespace Sketch

/-- What a message says the value is; a number or a text that cannot be read is not even that. -/
def found : Sketch → Except Cause Found
  | .null => .ok .null
  | .bool b => .ok (.bool b)
  | .number (.ok (.integer n)) => .ok (.integer n)
  | .number (.ok (.real x)) => .ok (.real x)
  | .number (.error c) => .error c
  | .text s => s.map .text
  | .array _ => .ok .sequence
  | .object _ => .ok .map

def refuse {α : Type} (expected : Expected) (t : Sketch) : Except Cause α := do
  throw (.wrongType (← t.found) expected)

def toText : Sketch → Except Cause String
  | .text s => s
  | t => t.refuse .text

def toFlag : Sketch → Except Cause Bool
  | .bool b => .ok b
  | t => t.refuse .flag

def toCount : Sketch → Except Cause (Fin UInt64.size)
  | .number (.ok (.integer n)) =>
    match wordOf? n with
    | some word => .ok word
    | none => .error (.negativeCount n)
  | t => t.refuse .count

def toReal : Sketch → Except Cause Binary64
  | .number n => n.map Number.toReal
  | t => t.refuse .real

/-- Nothing but null may stand behind a tag. -/
def toUnit : Sketch → Except Cause Unit
  | .null => .ok ()
  | t => t.refuse .unit

end Sketch

def tagIndex (tags : List String) (tag : String) : Except Cause (Fin tags.length) :=
  match tags.findFinIdx? (· == tag) with
  | some i => .ok i
  | none => .error (.unknownTag tag tags)

def Sketch.toTag (tags : List String) : Sketch → Except Cause (Fin tags.length)
  | .text s => do tagIndex tags (← s)
  | .object ((key, t) :: more) => do
    let i ← tagIndex tags (← key)
    t.toUnit
    if more.isEmpty then return i else throw .expectedValue
  | _ => .error .expectedValue

/-- Gathers the members of an object one by one. -/
def gather {σ : Type} (take : String → σ → Sketch → Except Cause σ) :
    σ → List (Except Cause String × Sketch) → Except Cause σ
  | g, [] => .ok g
  | g, (key, t) :: ms => do
    let g' ← take (← key) g t
    gather take g' ms

mutual

/-- The content of a value of the given shape, or the first thing in it that the shape rules out. -/
def Shape.interpret : (s : Shape) → Sketch → Except Cause s.Content
  | .text => Sketch.toText
  | .flag => Sketch.toFlag
  | .count => Sketch.toCount
  | .real => Sketch.toReal
  | .choice tags => Sketch.toTag tags
  | .optional item => fun t =>
    match t with
    | .null => .ok none
    | t => (item.interpret t).map some
  | .list item => fun t =>
    match t with
    | .array ts => ts.mapM item.interpret
    | t => t.refuse .sequence
  | .record name fields => fun t =>
    match t with
    | .object ms => do
      let draft ← gather fields.interpretMember fields.emptyDraft ms
      (fields.complete draft).mapError .missingMember
    | .array ts => fields.interpretItems name fields.size 0 ts
    | t => t.refuse (.record name)

def Fields.interpretMember : (fs : Fields) → String → fs.Draft → Sketch → Except Cause fs.Draft
  | .nil, _, draft => fun _ => .ok draft
  | .cons key _ shape rest, k, (slot, more) => fun t =>
    if k = key then
      match slot with
      | some _ => .error (.repeatedMember key)
      | none => do return (some (← shape.interpret t), more)
    else do return (slot, ← rest.interpretMember k more t)

/-- The fields of a record that is written as a list, `seen` of them before these. -/
def Fields.interpretItems (name : String) (size : Nat) :
    (fs : Fields) → (seen : Nat) → List Sketch → Except Cause fs.Content
  | .nil, _ => fun ts => if ts.isEmpty then .ok () else .error .trailingText
  | .cons key presence shape rest, seen => fun ts =>
    match ts with
    | [] =>
      match (Fields.cons key presence shape rest).allAbsent? with
      | some x => .ok x
      | none => .error (.wrongLength seen name size)
    | t :: ts => do
      let x ← shape.interpret t
      return (x, ← rest.interpretItems name size (seen + 1) ts)

end

end Retrofit.Json
