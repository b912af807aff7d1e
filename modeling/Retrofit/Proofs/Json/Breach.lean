import Mathlib.Data.List.Forall2
import Retrofit.Proofs.Json.Flaw

/-! The first thing in a value that a schema rules out, where a value is read from its beginning to its end.
What is refused, and for which cause, is said here by the place and by what stands there, without a reader. -/
namespace Retrofit.Json

/-- What a message says that a value is. -/
def Value.found : Value → Found
  | .null => .null
  | .bool b => .bool b
  | .number (.integer n) => .integer n
  | .number (.real x) => .real x
  | .text s => .text s
  | .array _ => .sequence
  | .object _ => .map

namespace Shape

/-- What a message says that was expected, for the shapes that look at the kind of a value first. -/
def expected? : Shape → Option Expected
  | .text => some .text
  | .flag => some .flag
  | .count => some .count
  | .real => some .real
  | .list _ => some .sequence
  | .record name _ => some (.record name)
  | .choice _ | .optional _ => none

/-- The value is of a kind that the shape can do with. -/
def Suits : Shape → Value → Prop
  | .text, v => ∃ s, v = .text s
  | .flag, v => ∃ b, v = .bool b
  | .count, v => ∃ n, v = .number (.integer n)
  | .real, v => ∃ n, v = .number n
  | .list _, v => ∃ vs, v = .array vs
  | .record .., v => (∃ ms, v = .object ms) ∨ ∃ vs, v = .array vs
  | .choice _, v => (∃ s, v = .text s) ∨ ∃ key u ms, v = .object ((key, u) :: ms)
  | .optional _, _ => True

end Shape

namespace Fields

/-- The key is that of the first field that is left out and may not be. -/
def Lacks : Fields → Entries → String → Prop
  | .nil, _, _ => False
  | .cons key presence shape rest, ms, k =>
    (k = key ∧ named key ms = [] ∧ (presence = .always ∨ shape.absent? = none)) ∨
      ((named key ms = [] → presence ≠ .always ∧ shape.absent?.isSome) ∧ rest.Lacks (without key ms) k)

/-- A list that ends before these fields leaves out one that may not be left out. -/
def Open (fs : Fields) : Prop :=
  fs.allAbsent? = none

def drop : Fields → Nat → Fields
  | fs, 0 => fs
  | .nil, _ + 1 => .nil
  | .cons _ _ _ rest, n + 1 => rest.drop n

theorem drop_zero (fs : Fields) : fs.drop 0 = fs := by
  cases fs <;> rfl

end Fields

/-- The values fit the shapes one by one, and there are as many. -/
abbrev FitAll (shapes : List Shape) (vs : List Value) : Prop :=
  List.Forall₂ (fun s v => Shape.Fits s (Value.sketch v)) shapes vs

/-- A value is refused by a shape for a cause: all that is read before fits, and this is what stands there
instead of what is asked for. An object in the place of a tag is another form of one, so that its first key
counts as an unlisted tag if it is none of those listed. An array in the place of a record that is too short
has the wrong length; it lacks no member. -/
inductive Breach : Shape → Value → Cause → Prop
  | kind (s v expected) (asked : Shape.expected? s = some expected) (other : ¬ Shape.Suits s v) :
      Breach s v (.wrongType v.found expected)
  | negative (n : Int) (outside : ∀ k : Nat, k < UInt64.size → n ≠ k) :
      Breach .count (.number (.integer n)) (.negativeCount n)
  | noTag (tags v) (other : ¬ Shape.Suits (.choice tags) v) : Breach (.choice tags) v .expectedValue
  | unlisted (tags tag) (unknown : tag ∉ tags) :
      Breach (.choice tags) (.text tag) (.unknownTag tag tags)
  | unlistedKey (tags tag v ms) (unknown : tag ∉ tags) :
      Breach (.choice tags) (.object ((tag, v) :: ms)) (.unknownTag tag tags)
  | tagged (tags tag v ms) (known : tag ∈ tags) (solid : v ≠ .null) :
      Breach (.choice tags) (.object ((tag, v) :: ms)) (.wrongType v.found .unit)
  | behindTag (tags tag m ms) (known : tag ∈ tags) :
      Breach (.choice tags) (.object ((tag, .null) :: m :: ms)) .expectedValue
  | present (item v c) (given : v ≠ .null) (inside : Breach item v c) : Breach (.optional item) v c
  | item (item before v after c) (fit : ∀ u ∈ before, Shape.Fits item (Value.sketch u))
      (inside : Breach item v c) : Breach (.list item) (.array (before ++ v :: after)) c
  | member (name fields before key v after shape c)
      (admits : Fields.Admits fields (sketchMembers before)) (new : named key (sketchMembers before) = [])
      (field : Fields.shape? fields key = some shape) (inside : Breach shape v c) :
      Breach (.record name fields) (.object (before ++ (key, v) :: after)) c
  | again (name fields before key v after shape)
      (admits : Fields.Admits fields (sketchMembers before)) (old : named key (sketchMembers before) ≠ [])
      (field : Fields.shape? fields key = some shape) :
      Breach (.record name fields) (.object (before ++ (key, v) :: after)) (.repeatedMember key)
  | missing (name fields ms key) (admits : Fields.Admits fields (sketchMembers ms))
      (lacks : Fields.Lacks fields (sketchMembers ms) key) :
      Breach (.record name fields) (.object ms) (.missingMember key)
  | entry (name fields front shape back before v after c)
      (order : Fields.shapes fields = front ++ shape :: back) (fit : FitAll front before)
      (inside : Breach shape v c) : Breach (.record name fields) (.array (before ++ v :: after)) c
  | short (name fields vs) (fit : FitAll ((Fields.shapes fields).take vs.length) vs)
      (more : (Fields.drop fields vs.length).Open) :
      Breach (.record name fields) (.array vs) (.wrongLength vs.length name fields.size)
  | surplus (name fields before v after) (fit : FitAll (Fields.shapes fields) before) :
      Breach (.record name fields) (.array (before ++ v :: after)) .trailingText

/-! Where the reading of a record stops -/

section Stops

variable {c : Cause}

/-- A member stops the reading by its value, or because its field has been given before. -/
theorem interpretMember_error_iff : (fs : Fields) → (k : String) → (before : Entries) →
    (draft : fs.Draft) → gather fs.interpretMember fs.emptyDraft before = .ok draft → (t : Sketch) →
    (fs.interpretMember k draft t = .error c ↔
      ∃ shape, fs.shape? k = some shape ∧
        (named k before = [] ∧ shape.interpret t = .error c ∨
          named k before ≠ [] ∧ c = .repeatedMember k))
  | .nil, k, before, draft, _, t => by simp [Fields.interpretMember, Fields.shape?]
  | .cons key presence shape rest, k, before, (slot, more), gathered, t => by
    obtain ⟨filled, others⟩ := (gather_cons_ok key presence shape rest before _ _ _ _).mp gathered
    by_cases same : k = key
    · subst same
      rcases filled_empty.mp filled with ⟨none, rfl⟩ | ⟨u, x, one, -, rfl⟩
      · rw [interpretMember_first, map_error_iff]
        simp [Fields.shape?, none]
      · rw [interpretMember_again]
        simp [Fields.shape?, one, eq_comm]
    · rw [interpretMember_behind same, map_error_iff,
        interpretMember_error_iff rest k (without key before) more others, named_without same]
      simp only [Fields.shape?, if_neg same]

/-- A record that is read to its end is refused for the first field that it lacks. -/
theorem complete_error_iff : (fs : Fields) → (ms : Entries) → (draft : fs.Draft) →
    gather fs.interpretMember fs.emptyDraft ms = .ok draft → (key : String) →
    (fs.complete draft = .error key ↔ fs.Lacks ms key)
  | .nil, ms, draft, _, key => by simp [Fields.complete, Fields.Lacks]
  | .cons k presence shape rest, ms, (slot, more), gathered, key => by
    obtain ⟨filled, others⟩ := (gather_cons_ok k presence shape rest ms _ _ _ _).mp gathered
    have later := complete_error_iff rest (without k ms) more others key
    simp only [Fields.Lacks]
    rw [← later]
    rcases filled_empty.mp filled with ⟨none, rfl⟩ | ⟨u, x, one, -, rfl⟩
    · cases presence <;> cases absent : shape.absent? <;>
        cases ends : rest.complete more <;>
        simp [Fields.complete, none, absent, ends, Except.map, eq_comm]
    · cases ends : rest.complete more <;> simp [Fields.complete, one, ends, Except.map]

/-- A record that is written as a list stops at an item that does not read, or at an end that comes too
early or too late. -/
theorem interpretItems_error_iff (name : String) (size : Nat) : (fs : Fields) → (seen : Nat) →
    (ts : List Sketch) →
    (fs.interpretItems name size seen ts = .error c ↔
      (∃ front shape back before t after, fs.shapes = front ++ shape :: back ∧
        ts = before ++ t :: after ∧ List.Forall₂ Shape.Fits front before ∧
        shape.interpret t = .error c) ∨
      (List.Forall₂ Shape.Fits (fs.shapes.take ts.length) ts ∧
        (fs.drop ts.length).Open ∧ c = .wrongLength (seen + ts.length) name size) ∨
      ∃ before t after, ts = before ++ t :: after ∧ List.Forall₂ Shape.Fits fs.shapes before ∧
        c = .trailingText)
  | .nil, seen, [] => by
    simp [Fields.interpretItems, Fields.shapes, Fields.drop, Fields.Open, Fields.allAbsent?]
  | .nil, seen, t :: ts => by
    simp only [Fields.interpretItems, Fields.shapes, List.forall₂_nil_left_iff]
    simp [Fields.drop, Fields.Open, Fields.allAbsent?, eq_comm]
  | .cons key presence shape rest, seen, [] => by
    simp only [Fields.interpretItems, List.length_nil, Fields.drop_zero]
    unfold Fields.Open
    cases (Fields.cons key presence shape rest).allAbsent? <;> simp [eq_comm]
  | .cons key presence shape rest, seen, t :: ts => by
    have step : (Fields.cons key presence shape rest).interpretItems name size seen (t :: ts) = .error c ↔
        shape.interpret t = .error c ∨
          shape.Fits t ∧ rest.interpretItems name size (seen + 1) ts = .error c := by
      simp only [Fields.interpretItems]
      rw [bind_error_iff, Shape.fits_iff, ← exists_and_right]
      simp [bind_error_iff, pure, Except.pure]
    have count : seen + 1 + ts.length = seen + (ts.length + 1) := by omega
    rw [step, interpretItems_error_iff name size rest (seen + 1) ts, count]
    simp only [Fields.shapes, Fields.drop, List.length_cons, List.take_succ_cons]
    refine ⟨?_, ?_⟩
    · intro given
      rcases given with failed | ⟨fits, inside | ⟨fit, more, same⟩ | surplus⟩
      · exact .inl ⟨[], shape, rest.shapes, [], t, ts, rfl, rfl, .nil, failed⟩
      · obtain ⟨front, inner, back, before, u, after, order, rfl, fit, failed⟩ := inside
        refine .inl ⟨shape :: front, inner, back, t :: before, u, after, ?_, rfl, .cons fits fit, failed⟩
        rw [order, List.cons_append]
      · exact .inr (.inl ⟨.cons fits fit, more, same⟩)
      · obtain ⟨before, u, after, rfl, fit, same⟩ := surplus
        exact .inr (.inr ⟨t :: before, u, after, rfl, .cons fits fit, same⟩)
    · intro given
      rcases given with inside | ⟨fit, more, same⟩ | surplus
      · obtain ⟨front, inner, back, before, u, after, order, split, fit, failed⟩ := inside
        cases fit with
        | nil =>
          obtain ⟨rfl, -⟩ := List.cons.inj order
          obtain ⟨rfl, -⟩ := List.cons.inj split
          exact .inl failed
        | @cons _ _ front before fits fit =>
          rw [List.cons_append] at order split
          obtain ⟨rfl, others⟩ := List.cons.inj order
          obtain ⟨rfl, rfl⟩ := List.cons.inj split
          exact .inr ⟨fits, .inl ⟨front, inner, back, before, u, after, others, rfl, fit, failed⟩⟩
      · cases fit with
        | cons fits fit => exact .inr ⟨fits, .inr (.inl ⟨fit, more, same⟩)⟩
      · obtain ⟨before, u, after, split, fit, same⟩ := surplus
        cases fit with
        | @cons _ _ _ before fits fit =>
          rw [List.cons_append] at split
          obtain ⟨rfl, rfl⟩ := List.cons.inj split
          exact .inr ⟨fits, .inr (.inr ⟨before, u, after, rfl, fit, same⟩)⟩

/-- A record that is written as an object stops at a member, or is refused for a field that it lacks. -/
theorem object_error_iff {name : String} {fields : Fields} {ms : Entries}
    (readable : ∀ m ∈ ms, ∃ key, m.1 = .ok key) :
    (Shape.record name fields).interpret (.object ms) = .error c ↔
      (∃ before key u after shape, ms = before ++ (.ok key, u) :: after ∧ fields.Admits before ∧
        fields.shape? key = some shape ∧
        (named key before = [] ∧ shape.interpret u = .error c ∨
          named key before ≠ [] ∧ c = .repeatedMember key)) ∨
      ∃ key, fields.Admits ms ∧ fields.Lacks ms key ∧ c = .missingMember key := by
  simp only [Shape.interpret]
  rw [bind_error_iff, gather_error_iff _ ms readable]
  refine or_congr ⟨?_, ?_⟩ ⟨?_, ?_⟩
  · intro given
    rcases given with ⟨before, key, u, after, draft, split, gathered, failed⟩
    obtain ⟨shape, field, why⟩ := (interpretMember_error_iff fields key before draft gathered u).mp failed
    exact ⟨before, key, u, after, shape, split, (Fields.admits_iff fields before).mpr ⟨draft, gathered⟩,
      field, why⟩
  · intro given
    rcases given with ⟨before, key, u, after, shape, split, admits, field, why⟩
    obtain ⟨draft, gathered⟩ := (Fields.admits_iff fields before).mp admits
    exact ⟨before, key, u, after, draft, split, gathered,
      (interpretMember_error_iff fields key before draft gathered u).mpr ⟨shape, field, why⟩⟩
  · intro given
    rcases given with ⟨draft, gathered, failed⟩
    cases ends : fields.complete draft with
    | ok x =>
      rw [ends] at failed
      cases failed
    | error key =>
      rw [ends] at failed
      exact ⟨key, (Fields.admits_iff fields ms).mpr ⟨draft, gathered⟩,
        (complete_error_iff fields ms draft gathered key).mp ends, (Except.error.inj failed).symm⟩
  · intro given
    rcases given with ⟨key, admits, lacks, rfl⟩
    obtain ⟨draft, gathered⟩ := (Fields.admits_iff fields ms).mp admits
    refine ⟨draft, gathered, ?_⟩
    rw [(complete_error_iff fields ms draft gathered key).mpr lacks]
    rfl

end Stops

/-! Refusal, place by place -/

theorem refuse_sketch {α : Type} (expected : Expected) (v : Value) :
    (v.sketch.refuse expected : Except Cause α) = .error (.wrongType v.found expected) := by
  cases v with
  | number n => cases n <;> rfl
  | _ => rfl

/-- A value of an unsuitable kind is refused as such, whatever it holds. -/
theorem interpret_unsuitable {s : Shape} {v : Value} {expected : Expected}
    (asked : s.expected? = some expected) (other : ¬ s.Suits v) :
    s.interpret v.sketch = .error (.wrongType v.found expected) := by
  cases s with
  | choice tags | optional item => cases asked
  | text =>
    cases asked
    cases v with
    | text s => exact absurd ⟨s, rfl⟩ other
    | _ => exact refuse_sketch .text _
  | flag =>
    cases asked
    cases v with
    | bool b => exact absurd ⟨b, rfl⟩ other
    | _ => exact refuse_sketch .flag _
  | count =>
    cases asked
    cases v with
    | number n =>
      cases n with
      | integer n => exact absurd ⟨n, rfl⟩ other
      | real x => rfl
    | _ => exact refuse_sketch .count _
  | real =>
    cases asked
    cases v with
    | number n => exact absurd ⟨n, rfl⟩ other
    | _ => exact refuse_sketch .real _
  | list item =>
    cases asked
    cases v with
    | array vs => exact absurd ⟨vs, rfl⟩ other
    | _ => exact refuse_sketch .sequence _
  | record name fields =>
    cases asked
    cases v with
    | object ms => exact absurd (.inl ⟨ms, rfl⟩) other
    | array vs => exact absurd (.inr ⟨vs, rfl⟩) other
    | _ => exact refuse_sketch (.record name) _

theorem tagIndex_error_iff {tags : List String} {tag : String} {c : Cause} :
    tagIndex tags tag = .error c ↔ tag ∉ tags ∧ c = .unknownTag tag tags := by
  rw [← tagIndex_ok_iff]
  unfold tagIndex
  cases tags.findFinIdx? (· == tag) <;> simp [eq_comm]

theorem sketch_array (vs : List Value) : (Value.array vs).sketch = .array (vs.map Value.sketch) := by
  rw [Value.sketch, sketchItems_eq_map]

theorem sketchMembers_append (ms ms' : List (String × Value)) :
    sketchMembers (ms ++ ms') = sketchMembers ms ++ sketchMembers ms' := by
  simp only [sketchMembers_eq_map, List.map_append]

theorem fitAll_iff {shapes : List Shape} {vs : List Value} :
    FitAll shapes vs ↔ List.Forall₂ Shape.Fits shapes (vs.map Value.sketch) :=
  List.forall₂_map_right_iff.symm

theorem sketch_eq_null_iff {v : Value} : v.sketch = .null ↔ v = .null := by
  cases v <;> simp [Value.sketch]

theorem sketchMembers_readable (ms : List (String × Value)) :
    ∀ m ∈ sketchMembers ms, ∃ key, m.1 = .ok key := by
  rw [sketchMembers_eq_map, List.forall_mem_map]
  exact fun m _ => ⟨m.1, rfl⟩

theorem toUnit_sketch {v : Value} (solid : v ≠ .null) :
    v.sketch.toUnit = .error (.wrongType v.found .unit) := by
  cases v with
  | null => exact absurd rfl solid
  | _ => exact refuse_sketch .unit _

/-- A tag that is the key of an object: the tag is looked at first, then what stands behind it. -/
theorem interpret_key (tags : List String) (tag : String) (v : Value) (ms : List (String × Value)) :
    (Shape.choice tags).interpret (Value.object ((tag, v) :: ms)).sketch =
      tagIndex tags tag >>= fun i => v.sketch.toUnit >>= fun _ =>
        if (sketchMembers ms).isEmpty then .ok i else .error .expectedValue :=
  rfl

/-- What the relation refuses is refused by the reading, for the same cause. -/
theorem Breach.refused {s : Shape} {v : Value} {c : Cause} (breach : Breach s v c) :
    s.interpret v.sketch = .error c := by
  induction breach with
  | kind s v expected asked other => exact interpret_unsuitable asked other
  | negative n outside =>
    have none : wordOf? n = none := by
      cases word : wordOf? n with
      | none => rfl
      | some w => exact absurd (eq_of_wordOf word) (outside w.val w.isLt)
    simp only [Shape.interpret, Value.sketch, Sketch.toCount, none]
  | noTag tags v other =>
    cases v with
    | text s => exact absurd (.inl ⟨s, rfl⟩) other
    | object ms =>
      cases ms with
      | nil => rfl
      | cons m ms => exact absurd (.inr ⟨m.1, m.2, ms, rfl⟩) other
    | _ => rfl
  | unlisted tags tag unknown => exact tagIndex_error_iff.mpr ⟨unknown, rfl⟩
  | unlistedKey tags tag v ms unknown =>
    rw [interpret_key, tagIndex_error_iff.mpr ⟨unknown, rfl⟩]
    rfl
  | tagged tags tag v ms known solid =>
    obtain ⟨i, index⟩ := (tagIndex_ok_iff tags tag).mpr known
    rw [interpret_key, index, toUnit_sketch solid]
    rfl
  | behindTag tags tag m ms known =>
    obtain ⟨i, index⟩ := (tagIndex_ok_iff tags tag).mpr known
    rw [interpret_key, index]
    rfl
  | present item v c given inside ih =>
    simp only [Shape.interpret]
    split
    · rename_i null
      exact absurd (sketch_eq_null_iff.mp null) given
    · exact map_error_iff.mpr ih
  | item item before v after c fit inside ih =>
    rw [sketch_array, List.map_append, List.map_cons]
    refine (mapM_error_iff _).mpr ⟨_, _, _, rfl, ?_, ih⟩
    rw [List.forall_mem_map]
    exact fun u member => (Shape.fits_iff item _).mp (fit u member)
  | member name fields before key v after shape c admits new field inside ih =>
    refine (object_error_iff (sketchMembers_readable _)).mpr (.inl ?_)
    rw [sketchMembers_append]
    exact ⟨_, key, _, _, shape, rfl, admits, field, .inl ⟨new, ih⟩⟩
  | again name fields before key v after shape admits old field =>
    refine (object_error_iff (sketchMembers_readable _)).mpr (.inl ?_)
    rw [sketchMembers_append]
    exact ⟨_, key, _, _, shape, rfl, admits, field, .inr ⟨old, rfl⟩⟩
  | missing name fields ms key admits lacks =>
    exact (object_error_iff (sketchMembers_readable _)).mpr (.inr ⟨key, admits, lacks, rfl⟩)
  | entry name fields front shape back before v after c order fit inside ih =>
    rw [sketch_array, List.map_append, List.map_cons]
    exact (interpretItems_error_iff name fields.size fields 0 _).mpr
      (.inl ⟨front, shape, back, _, _, _, order, rfl, fitAll_iff.mp fit, ih⟩)
  | short name fields vs fit more =>
    rw [sketch_array]
    refine (interpretItems_error_iff name fields.size fields 0 _).mpr (.inr (.inl ?_))
    rw [List.length_map, Nat.zero_add]
    exact ⟨fitAll_iff.mp fit, more, rfl⟩
  | surplus name fields before v after fit =>
    rw [sketch_array, List.map_append, List.map_cons]
    exact (interpretItems_error_iff name fields.size fields 0 _).mpr
      (.inr (.inr ⟨_, _, _, rfl, fitAll_iff.mp fit, rfl⟩))

theorem of_sketch_append {vs : List Value} {before after : List Sketch} {t : Sketch}
    (split : vs.map Value.sketch = before ++ t :: after) :
    ∃ front v back, vs = front ++ v :: back ∧ before = front.map Value.sketch ∧ t = v.sketch := by
  obtain ⟨front, rest, rfl, rfl, same⟩ := List.map_eq_append_iff.mp split
  obtain ⟨v, back, rfl, rfl, -⟩ := List.map_eq_cons_iff.mp same
  exact ⟨front, v, back, rfl, rfl, rfl⟩

theorem of_sketchMembers_append {ms : List (String × Value)} {before after : Entries} {key : String}
    {t : Sketch} (split : sketchMembers ms = before ++ (.ok key, t) :: after) :
    ∃ front v back, ms = front ++ (key, v) :: back ∧ before = sketchMembers front ∧ t = v.sketch := by
  rw [sketchMembers_eq_map] at split
  obtain ⟨front, rest, rfl, rfl, same⟩ := List.map_eq_append_iff.mp split
  obtain ⟨⟨k, v⟩, back, rfl, first, -⟩ := List.map_eq_cons_iff.mp same
  cases first
  exact ⟨front, v, back, rfl, (sketchMembers_eq_map front).symm, rfl⟩

theorem mem_shapes_of_field : {fs : Fields} → {key : String} → {shape : Shape} →
    fs.shape? key = some shape → shape ∈ fs.shapes
  | .cons k _ first rest, key, shape, field => by
    unfold Fields.shape? at field
    split at field
    · cases field
      exact List.mem_cons_self
    · exact List.mem_cons_of_mem first (mem_shapes_of_field field)

/-- A value of the wrong kind can only be refused for its kind. -/
theorem breach_of_unsuitable {s : Shape} {v : Value} {c : Cause} {expected : Expected}
    (asked : s.expected? = some expected) (other : ¬ s.Suits v) (failed : s.interpret v.sketch = .error c) :
    Breach s v c := by
  rw [interpret_unsuitable asked other] at failed
  cases failed
  exact .kind s v expected asked other

theorem breach_of_choice {tags : List String} {v : Value} {c : Cause}
    (failed : (Shape.choice tags).interpret v.sketch = .error c) : Breach (.choice tags) v c := by
  by_cases suits : (Shape.choice tags).Suits v
  · rcases suits with ⟨tag, rfl⟩ | ⟨tag, u, ms, rfl⟩
    · obtain ⟨unknown, rfl⟩ := tagIndex_error_iff.mp failed
      exact .unlisted tags tag unknown
    · rw [interpret_key, bind_error_iff, tagIndex_error_iff] at failed
      rcases failed with ⟨unknown, rfl⟩ | ⟨i, index, failed⟩
      · exact .unlistedKey tags tag u ms unknown
      · have known := (tagIndex_ok_iff tags tag).mp ⟨i, index⟩
        by_cases null : u = .null
        · subst null
          cases ms with
          | nil => cases failed
          | cons m ms =>
            cases failed
            exact .behindTag tags tag m ms known
        · rw [toUnit_sketch null] at failed
          cases failed
          exact .tagged tags tag u ms known null
  · have same : c = .expectedValue := by
      cases v with
      | text s => exact absurd (.inl ⟨s, rfl⟩) suits
      | object ms =>
        cases ms with
        | nil => exact (Except.error.inj failed).symm
        | cons m ms => exact absurd (.inr ⟨m.1, m.2, ms, rfl⟩) suits
      | _ => exact (Except.error.inj failed).symm
    subst same
    exact .noTag tags v suits

mutual

theorem Shape.breach_of_refused (s : Shape) (v : Value) (c : Cause)
    (failed : s.interpret v.sketch = .error c) : Breach s v c := by
  cases s with
  | choice tags => exact breach_of_choice failed
  | optional item =>
    simp only [Shape.interpret] at failed
    split at failed
    · cases failed
    · rename_i solid
      refine .present item v c ?_ (Shape.breach_of_refused item v c (map_error_iff.mp failed))
      rintro rfl
      exact solid rfl
  | text =>
    by_cases suits : Shape.text.Suits v
    · obtain ⟨s, rfl⟩ := suits
      cases failed
    · exact breach_of_unsuitable rfl suits failed
  | flag =>
    by_cases suits : Shape.flag.Suits v
    · obtain ⟨b, rfl⟩ := suits
      cases failed
    · exact breach_of_unsuitable rfl suits failed
  | count =>
    by_cases suits : Shape.count.Suits v
    · obtain ⟨n, rfl⟩ := suits
      simp only [Shape.interpret, Value.sketch, Sketch.toCount] at failed
      split at failed
      · cases failed
      · rename_i none
        cases failed
        refine .negative n ?_
        rintro k fits rfl
        rw [wordOf_natCast fits] at none
        cases none
    · exact breach_of_unsuitable rfl suits failed
  | real =>
    by_cases suits : Shape.real.Suits v
    · obtain ⟨n, rfl⟩ := suits
      cases failed
    · exact breach_of_unsuitable rfl suits failed
  | list item =>
    by_cases suits : (Shape.list item).Suits v
    · obtain ⟨vs, rfl⟩ := suits
      rw [sketch_array] at failed
      obtain ⟨before, t, after, split, read, failed⟩ := (mapM_error_iff _).mp failed
      obtain ⟨front, u, back, rfl, rfl, rfl⟩ := of_sketch_append split
      rw [List.forall_mem_map] at read
      exact .item item front u back c (fun w member => (Shape.fits_iff item _).mpr (read w member))
        (Shape.breach_of_refused item u c failed)
    · exact breach_of_unsuitable rfl suits failed
  | record name fields =>
    have parts := Fields.breach_of_refused fields
    by_cases suits : (Shape.record name fields).Suits v
    · rcases suits with ⟨ms, rfl⟩ | ⟨vs, rfl⟩
      · rcases (object_error_iff (sketchMembers_readable ms)).mp failed with
          ⟨before, key, t, after, shape, split, admits, field, why⟩ | ⟨key, admits, lacks, rfl⟩
        · obtain ⟨front, u, back, rfl, rfl, rfl⟩ := of_sketchMembers_append split
          rcases why with ⟨new, failed⟩ | ⟨old, rfl⟩
          · exact .member name fields front key u back shape c admits new field
              (parts shape (mem_shapes_of_field field) u c failed)
          · exact .again name fields front key u back shape admits old field
        · exact .missing name fields ms key admits lacks
      · rw [sketch_array] at failed
        rcases (interpretItems_error_iff name fields.size fields 0 _).mp failed with
          ⟨shapes, shape, others, before, t, after, order, split, fit, failed⟩ | ⟨fit, more, rfl⟩ |
            ⟨before, t, after, split, fit, rfl⟩
        · obtain ⟨front, u, back, rfl, rfl, rfl⟩ := of_sketch_append split
          have member : shape ∈ fields.shapes := order ▸ List.mem_append_right _ List.mem_cons_self
          exact .entry name fields shapes shape others front u back c order (fitAll_iff.mpr fit)
            (parts shape member u c failed)
        · rw [List.length_map] at fit more
          rw [List.length_map, Nat.zero_add]
          exact .short name fields vs (fitAll_iff.mpr fit) more
        · obtain ⟨front, u, back, rfl, rfl, rfl⟩ := of_sketch_append split
          exact .surplus name fields front u back (fitAll_iff.mpr fit)
    · exact breach_of_unsuitable rfl suits failed

theorem Fields.breach_of_refused (fs : Fields) : ∀ shape ∈ fs.shapes, ∀ (v : Value) (c : Cause),
    shape.interpret v.sketch = .error c → Breach shape v c := by
  cases fs with
  | nil => exact List.forall_mem_nil _
  | cons key presence first rest =>
    rw [Fields.shapes, List.forall_mem_cons]
    exact ⟨Shape.breach_of_refused first, Fields.breach_of_refused rest⟩

end

/-- A shape refuses a value for a cause exactly when that is what breaches it first. -/
theorem breach_iff {s : Shape} {v : Value} {c : Cause} :
    Breach s v c ↔ s.interpret v.sketch = .error c :=
  ⟨Breach.refused, Shape.breach_of_refused s v c⟩

/-- Nothing but the first breach counts. -/
theorem Breach.unique {s : Shape} {v : Value} {c c' : Cause} (one : Breach s v c) (other : Breach s v c') :
    c = c' := by
  have refused := other.refused
  rw [one.refused] at refused
  exact Except.error.inj refused

end Retrofit.Json
