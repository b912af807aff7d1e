import Retrofit.Proofs.Json.Acceptance
import Retrofit.Proofs.Json.Members
import Retrofit.Proofs.Json.Number

/-! A content survives being printed and read again, if its shape keeps the contents apart. -/
namespace Retrofit.Json

def Shape.isOptional : Shape → Bool
  | .optional _ => true
  | _ => false

def Fields.keys : Fields → List String
  | .nil => []
  | .cons key _ _ rest => key :: rest.keys

mutual

/-- No tag and no key is used twice, and what may be null is null for one reason only. -/
def Shape.isFaithful : Shape → Bool
  | .text => true
  | .flag => true
  | .count => true
  | .real => true
  | .choice tags => decide tags.Nodup
  | .optional item => !item.isOptional && item.isFaithful
  | .list item => item.isFaithful
  | .record _ fields => fields.isFaithful

def Fields.isFaithful : Fields → Bool
  | .nil => true
  | .cons key _ shape rest => !rest.keys.contains key && shape.isFaithful && rest.isFaithful

end

mutual

/-- No number occurs in a document of the shape. -/
def Shape.isTextual : Shape → Bool
  | .text => true
  | .flag => true
  | .count => false
  | .real => false
  | .choice _ => true
  | .optional item => item.isTextual
  | .list item => item.isTextual
  | .record _ fields => fields.isTextual

def Fields.isTextual : Fields → Bool
  | .nil => true
  | .cons _ _ shape rest => shape.isTextual && rest.isTextual

end

/-! Back from a value to its content -/

theorem toValue_not_null {item : Shape} (solid : item.isOptional = false) (x : item.Content) :
    (item.toValue x).sketch ≠ .null := by
  cases item with
  | optional item => cases solid
  | _ =>
    simp only [Shape.toValue, Value.sketch]
    intro impossible
    cases impossible

theorem tagIndex_getElem {tags : List String} (distinct : tags.Nodup) (i : Fin tags.length) :
    tagIndex tags tags[i] = .ok i := by
  have found : tags.findFinIdx? (· == tags[i]) = some i := by
    rw [List.findFinIdx?_eq_some_iff]
    refine ⟨beq_self_eq_true _, ?_⟩
    intro j before same
    have equal : j.val = i.val := (List.getElem_inj distinct).mp (eq_of_beq same)
    have less : j.val < i.val := before
    omega
  rw [tagIndex, found]

theorem mapM_back {α β ε : Type} {read : β → Except ε α} {write : α → β} (xs : List α)
    (back : ∀ x, read (write x) = .ok x) : (xs.map write).mapM read = .ok xs := by
  induction xs with
  | nil => rfl
  | cons x xs ih =>
    rw [List.map_cons, List.mapM_cons, back, ih]
    rfl

theorem map_back {α β : Type} {read : β → α} {write : α → β} (back : ∀ x, read (write x) = x)
    (xs : List α) : (xs.map write).map read = xs := by
  rw [List.map_map]
  exact List.map_id'' back xs

theorem option_map_back {α β : Type} {read : β → α} {write : α → β} (back : ∀ x, read (write x) = x)
    (x : Option α) : (x.map write).map read = x := by
  cases x with
  | none => rfl
  | some x => exact congrArg some (back x)

theorem unnamed_toMembers (key : String) : (fs : Fields) → (x : fs.Content) → key ∉ fs.keys →
    named key (sketchMembers (fs.toMembers x)) = [] ∧
      without key (sketchMembers (fs.toMembers x)) = sketchMembers (fs.toMembers x)
  | .nil, _, _ => ⟨rfl, rfl⟩
  | .cons k _ shape rest, (x, xs), new => by
    simp only [Fields.keys, List.mem_cons, not_or] at new
    obtain ⟨other, new⟩ := new
    obtain ⟨none, all⟩ := unnamed_toMembers key rest xs new
    simp only [Fields.toMembers, sketchMembers]
    rw [named_cons_other (Ne.symm other), without_cons_other (Ne.symm other), none, all]
    exact ⟨rfl, rfl⟩

mutual

/-- A content is what its own value is interpreted as. -/
theorem Shape.interpret_toValue (s : Shape) (x : s.Content) (faithful : s.isFaithful = true) :
    s.interpret (s.toValue x).sketch = .ok x := by
  match s, x, faithful with
  | .text, _, _ | .flag, _, _ | .real, _, _ =>
    simp only [Shape.interpret, Shape.toValue, Value.sketch]
    rfl
  | .count, n, _ =>
    simp only [Shape.interpret, Shape.toValue, Value.sketch, Sketch.toCount]
    rw [wordOf_natCast n.isLt]
  | .choice tags, i, faithful =>
    simp only [Shape.isFaithful, decide_eq_true_eq] at faithful
    simp only [Shape.interpret, Shape.toValue, Value.sketch]
    exact tagIndex_getElem faithful i
  | .optional item, none, _ =>
    simp only [Shape.interpret, Shape.toValue, Value.sketch]
  | .optional item, some y, faithful =>
    simp only [Shape.isFaithful, Bool.and_eq_true, Bool.not_eq_true'] at faithful
    have solid := toValue_not_null faithful.1 y
    have back := Shape.interpret_toValue item y faithful.2
    simp only [Shape.interpret, Shape.toValue]
    rw [back]
    rfl
  | .list item, xs, faithful =>
    simp only [Shape.isFaithful] at faithful
    simp only [Shape.interpret, Shape.toValue, Value.sketch]
    rw [sketchItems_eq_map, List.map_map]
    exact mapM_back xs fun x => Shape.interpret_toValue item x faithful
  | .record name fields, x, faithful =>
    simp only [Shape.isFaithful] at faithful
    simp only [Shape.toValue, Value.sketch]
    rw [object_interpreted]
    exact Fields.reads_toMembers fields x faithful

theorem Fields.reads_toMembers (fs : Fields) (x : fs.Content) (faithful : fs.isFaithful = true) :
    fs.Reads (sketchMembers (fs.toMembers x)) x := by
  match fs, x, faithful with
  | .nil, _, _ =>
    intro m member
    cases member
  | .cons key presence shape rest, (x, xs), faithful =>
    simp only [Fields.isFaithful, Bool.and_eq_true, Bool.not_eq_true', List.contains_eq_mem,
      decide_eq_false_iff_not] at faithful
    obtain ⟨⟨new, first⟩, others⟩ := faithful
    obtain ⟨none, all⟩ := unnamed_toMembers key rest xs new
    simp only [Fields.Reads, Fields.toMembers, sketchMembers]
    rw [named_cons_same, without_cons_same, none, all]
    exact ⟨.inl ⟨_, rfl, Shape.interpret_toValue shape x first⟩,
      Fields.reads_toMembers rest xs others⟩

end

/-! Contents with numbers that can be read back -/

mutual

/-- All real numbers in the content are read back from what is written for them. -/
def Shape.Legible : (s : Shape) → s.Content → Prop
  | .text, _ => True
  | .flag, _ => True
  | .count, _ => True
  | .real, x => (Number.real x).Legible
  | .choice _, _ => True
  | .optional item, x => ∀ y, x = some y → item.Legible y
  | .list item, xs => ∀ x ∈ xs, item.Legible x
  | .record _ fields, x => fields.Legible x

def Fields.Legible : (fs : Fields) → fs.Content → Prop
  | .nil, _ => True
  | .cons _ _ shape rest, (x, more) => shape.Legible x ∧ rest.Legible more

end

theorem legibleItems_of_forall {vs : List Value} (all : ∀ v ∈ vs, v.Legible) :
    LegibleItems vs := by
  induction vs with
  | nil => trivial
  | cons v vs ih =>
    rw [List.forall_mem_cons] at all
    exact ⟨all.1, ih all.2⟩

mutual

theorem Shape.toValue_legible (s : Shape) (x : s.Content) (legible : s.Legible x) :
    (s.toValue x).Legible := by
  match s, x, legible with
  | .text, _, _ | .flag, _, _ | .choice _, _, _ =>
    simp only [Shape.toValue, Value.Legible]
  | .count, n, _ =>
    simp only [Shape.toValue, Value.Legible]
    exact integer_legible (Nat.le_sub_one_of_lt n.isLt)
  | .real, x, legible =>
    simp only [Shape.toValue, Value.Legible]
    exact legible
  | .optional item, none, _ =>
    simp only [Shape.toValue, Value.Legible]
  | .optional item, some y, legible =>
    simp only [Shape.toValue]
    exact Shape.toValue_legible item y (legible y rfl)
  | .list item, xs, legible =>
    simp only [Shape.toValue, Value.Legible]
    apply legibleItems_of_forall
    intro v member
    obtain ⟨x, listed, rfl⟩ := List.mem_map.mp member
    exact Shape.toValue_legible item x (legible x listed)
  | .record name fields, x, legible =>
    simp only [Shape.toValue, Value.Legible]
    exact Fields.toMembers_legible fields x legible

theorem Fields.toMembers_legible (fs : Fields) (x : fs.Content) (legible : fs.Legible x) :
    LegibleMembers (fs.toMembers x) := by
  match fs, x, legible with
  | .nil, _, _ => trivial
  | .cons _ _ shape rest, (x, xs), legible =>
    exact ⟨Shape.toValue_legible shape x legible.1, Fields.toMembers_legible rest xs legible.2⟩

end

mutual

theorem Shape.legible_of_textual (s : Shape) (x : s.Content) (textual : s.isTextual = true) :
    s.Legible x := by
  match s, x, textual with
  | .text, _, _ | .flag, _, _ | .choice _, _, _ => trivial
  | .optional item, x, textual =>
    exact fun y _ => Shape.legible_of_textual item y textual
  | .list item, xs, textual =>
    exact fun x _ => Shape.legible_of_textual item x textual
  | .record _ fields, x, textual =>
    exact Fields.legible_of_textual fields x textual

theorem Fields.legible_of_textual (fs : Fields) (x : fs.Content) (textual : fs.isTextual = true) :
    fs.Legible x := by
  match fs, x, textual with
  | .nil, _, _ => trivial
  | .cons _ _ shape rest, (x, xs), textual =>
    simp only [Fields.isTextual, Bool.and_eq_true] at textual
    exact ⟨Shape.legible_of_textual shape x textual.1, Fields.legible_of_textual rest xs textual.2⟩

end

/-! Printed and read again -/

section RoundTrip

variable {s : Shape}

theorem decode_of_spells (faithful : s.isFaithful = true) (x : s.Content) {text : String}
    (spelled : Spells text (s.toValue x).sketch) : s.decode text = .ok x :=
  (decode_ok_iff s text x).mpr ⟨_, spelled, s.interpret_toValue x faithful⟩

theorem decode_compact (faithful : s.isFaithful = true) (x : s.Content)
    (legible : (s.toValue x).Legible) : s.decode (compact (s.toValue x)) = .ok x :=
  decode_of_spells faithful x (compact_spells _ legible)

theorem decode_pretty (faithful : s.isFaithful = true) (x : s.Content)
    (legible : (s.toValue x).Legible) : s.decode (pretty (s.toValue x)) = .ok x :=
  decode_of_spells faithful x (pretty_spells _ legible)

end RoundTrip

end Retrofit.Json
