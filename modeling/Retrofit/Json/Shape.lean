import Retrofit.Json.Value

/-! Schemas as data. A shape says what a document may look like, `Shape.Content` is the type of what it
holds then, and `Shape.toValue` writes a content as a document of that shape. -/
namespace Retrofit.Json

/-- Where a field has to be present. -/
inductive Presence where
  | always
  /-- In a record written as a list, but an object may leave it out. -/
  | inLists
  | never

mutual

inductive Shape where
  | text
  | flag
  | count
  | real
  | choice (tags : List String)
  /-- Null, or a document of the given shape. -/
  | optional (item : Shape)
  | list (item : Shape)
  | record (name : String) (fields : Fields)

/-- The fields of a record, in the order in which they are written. -/
inductive Fields where
  | nil
  | cons (key : String) (presence : Presence) (shape : Shape) (rest : Fields)

end

mutual

@[reducible] def Shape.Content : Shape → Type
  | .text => String
  | .flag => Bool
  | .count => Fin UInt64.size
  | .real => Binary64
  | .choice tags => Fin tags.length
  | .optional item => Option item.Content
  | .list item => List item.Content
  | .record _ fields => fields.Content

@[reducible] def Fields.Content : Fields → Type
  | .nil => Unit
  | .cons _ _ shape rest => shape.Content × rest.Content

end

def Fields.size : Fields → Nat
  | .nil => 0
  | .cons _ _ _ rest => rest.size + 1

mutual

def Shape.toValue : (s : Shape) → s.Content → Value
  | .text, t => .text t
  | .flag, b => .bool b
  | .count, n => .number (.integer n.val)
  | .real, x => .number (.real x)
  | .choice tags, i => .text tags[i]
  | .optional item, x =>
    match x with
    | some y => item.toValue y
    | none => .null
  | .list item, xs => .array (xs.map item.toValue)
  | .record _ fields, x => .object (fields.toMembers x)

def Fields.toMembers : (fs : Fields) → fs.Content → List (String × Value)
  | .nil, _ => []
  | .cons key _ shape rest, (x, more) => (key, shape.toValue x) :: rest.toMembers more

end

/-- What a field holds that has been left out, for the shapes that allow it. -/
def Shape.absent? : (s : Shape) → Option s.Content
  | .optional _ => some none
  | .list _ => some []
  | .text | .flag | .count | .real | .choice _ | .record .. => none

end Retrofit.Json
