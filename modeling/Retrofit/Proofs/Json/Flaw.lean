import Retrofit.Proofs.Json.Derailment

/-! One fault in a value that fits its schema. Wherever it is, the value does not fit any more; but its
reader is not led astray, so that the fault is reported as a mismatch with the schema. -/
namespace Retrofit.Json

/-- The value is of another kind than the shape asks for. A tag is still a text, but not one of those
listed, and a record is no list either. -/
def Shape.Refuses : Shape → Value → Prop
  | .text, w => ∀ s, w ≠ .text s
  | .flag, w => ∀ b, w ≠ .bool b
  | .count, w => ∀ n, w ≠ .number n
  | .real, w => ∀ n, w ≠ .number n
  | .choice tags, w => ∃ tag, tag ∉ tags ∧ w = .text tag
  | .optional item, w => w ≠ .null ∧ item.Refuses w
  | .list _, w => ∀ vs, w ≠ .array vs
  | .record .., w => (∀ ms, w ≠ .object ms) ∧ ∀ vs, w ≠ .array vs

/-- One fault makes the second value of the first, at some depth: a value of the wrong kind, a member that
is missing, or one that is given again. A member that comes before the one it repeats is read first, so
that its own value must not be one that leads astray. -/
inductive Flawed : Shape → Value → Value → Prop
  | wrong (s v w) (refused : Shape.Refuses s w) : Flawed s v w
  | missing (name fields before key x after) (required : Fields.Requires fields key) :
      Flawed (.record name fields) (.object (before ++ (key, x) :: after))
        (.object (before ++ after))
  | repeatedBehind (name fields before key x between y after shape)
      (field : Fields.shape? fields key = some shape) :
      Flawed (.record name fields) (.object (before ++ (key, x) :: between ++ after))
        (.object (before ++ (key, x) :: between ++ (key, y) :: after))
  | repeatedBefore (name fields before key y between x after shape)
      (field : Fields.shape? fields key = some shape)
      (course : ¬ Shape.Derails shape (Value.sketch y)) :
      Flawed (.record name fields) (.object (before ++ between ++ (key, x) :: after))
        (.object (before ++ (key, y) :: between ++ (key, x) :: after))
  | item (item before x y after) (inside : Flawed item x y) :
      Flawed (.list item) (.array (before ++ x :: after)) (.array (before ++ y :: after))
  | member (name fields before key x y after shape)
      (field : Fields.shape? fields key = some shape) (inside : Flawed shape x y) :
      Flawed (.record name fields) (.object (before ++ (key, x) :: after))
        (.object (before ++ (key, y) :: after))

/-- The value does not fit, and does not lead its reader astray. -/
structure Shape.Contradicts (s : Shape) (t : Sketch) : Prop where
  misfit : ¬ s.Fits t
  course : ¬ s.Derails t

theorem Value.held (v : Value) : v.sketch.Held := ⟨v, rfl⟩

theorem Shape.Fits.course {s : Shape} {t : Sketch} (held : t.Held) (fits : s.Fits t) :
    ¬ s.Derails t := by
  obtain ⟨x, ok⟩ := (Shape.fits_iff s t).mp fits
  rw [Shape.derails_iff s held, ok]
  exact astray_ok x

/-- What contradicts a shape is refused as a mismatch. -/
theorem Shape.Contradicts.mismatch {s : Shape} {t : Sketch} (held : t.Held)
    (contradicts : s.Contradicts t) : ∃ c, s.interpret t = .error c ∧ c.isMismatch = true := by
  have misfit := mt (Shape.fits_iff s t).mpr contradicts.misfit
  have course := mt (Shape.derails_iff s held).mpr contradicts.course
  cases read : s.interpret t with
  | ok x => exact absurd ⟨x, read⟩ misfit
  | error c =>
    rw [read, astray_error] at course
    exact ⟨c, rfl, by simpa using course⟩

/-! What is known of the members of a record -/

section Members

variable {fs : Fields} {ms : Entries} {key : String} {shape : Shape} {u : Sketch}

theorem shape_of_derailMember : (fs : Fields) → fs.DerailMember key u →
    ∃ shape, fs.shape? key = some shape ∧ shape.Derails u
  | .nil, derails => derails.elim
  | .cons k _ first rest, derails => by
    simp only [Fields.DerailMember] at derails
    unfold Fields.shape?
    rcases derails with ⟨same, derails⟩ | ⟨other, derails⟩
    · rw [if_pos same]
      exact ⟨first, rfl, derails⟩
    · rw [if_neg other]
      exact shape_of_derailMember rest derails

theorem named_of_admits : (fs : Fields) → (ms : Entries) → fs.Admits ms →
    fs.shape? key = some shape → named key ms = [] ∨ ∃ t, named key ms = [t]
  | .nil, _, _, field => by cases field
  | .cons k _ first rest, ms, admits, field => by
    simp only [Fields.Admits] at admits
    unfold Fields.shape? at field
    split at field
    · rename_i same
      subst same
      rcases admits.1 with none | ⟨t, one, -⟩
      · exact .inl none
      · exact .inr ⟨t, one⟩
    · rename_i other
      rw [← named_without other]
      exact named_of_admits rest (without k ms) admits.2 field

theorem named_of_requires : (fs : Fields) → (ms : Entries) → fs.Complete ms → fs.Requires key →
    named key ms ≠ []
  | .nil, _, _, required => required.elim
  | .cons k presence first rest, ms, complete, required => by
    simp only [Fields.Complete] at complete
    unfold Fields.Requires at required
    split at required
    · rename_i same
      subst same
      intro none
      obtain ⟨allowed, absent⟩ := complete.1 none
      rcases required with always | solid
      · exact allowed always
      · rw [solid] at absent
        cases absent
    · rename_i other
      rw [← named_without other]
      exact named_of_requires rest (without k ms) complete.2 required

end Members

theorem fits_object {name : String} {fields : Fields} {ms : Entries} :
    (Shape.record name fields).Fits (.object ms) ↔ fields.Admits ms ∧ fields.Complete ms := by
  simp only [Shape.Fits]
  refine ⟨?_, fun fits => .inl ⟨ms, rfl, fits⟩⟩
  rintro (⟨ms, same, fits⟩ | ⟨ts, same, -⟩)
  · cases same
    exact fits
  · cases same

theorem fits_array {item : Shape} {ts : List Sketch} :
    (Shape.list item).Fits (.array ts) ↔ ∀ u ∈ ts, item.Fits u := by
  simp only [Shape.Fits]
  refine ⟨?_, fun all => ⟨ts, rfl, all⟩⟩
  rintro ⟨ts, same, all⟩
  cases same
  exact all

theorem derails_object {name : String} {fields : Fields} {ms : Entries}
    (derails : (Shape.record name fields).Derails (.object ms)) :
    ∃ before key u after shape, ms = before ++ (.ok key, u) :: after ∧ named key before = [] ∧
      fields.shape? key = some shape ∧ shape.Derails u := by
  simp only [Shape.Derails] at derails
  rcases derails with ⟨before, key, u, after, same, -, first, derails⟩ | ⟨ts, impossible, -⟩
  · cases same
    obtain ⟨shape, field, derails⟩ := shape_of_derailMember fields derails
    exact ⟨before, key, u, after, shape, rfl, first, field, derails⟩
  · cases impossible

theorem derails_array {item : Shape} {ts : List Sketch}
    (derails : (Shape.list item).Derails (.array ts)) : ∃ u ∈ ts, item.Derails u := by
  simp only [Shape.Derails] at derails
  obtain ⟨before, u, after, same, -, derails⟩ := derails
  cases same
  exact ⟨u, by simp, derails⟩

theorem object_course {name : String} {fields : Fields} {ms : Entries}
    (each : ∀ key u shape, (.ok key, u) ∈ ms → fields.shape? key = some shape → ¬ shape.Derails u) :
    ¬ (Shape.record name fields).Derails (.object ms) := by
  intro derails
  obtain ⟨before, key, u, after, shape, rfl, -, field, derails⟩ := derails_object derails
  exact each key u shape (by simp) field derails

theorem named_append (key : String) (ms ms' : Entries) :
    named key (ms ++ ms') = named key ms ++ named key ms' := by
  rw [named, List.filter_append, List.map_append]
  rfl

theorem mem_front {key : String} {u : Sketch} {front back before after : Entries}
    (split : front ++ back = before ++ (.ok key, u) :: after) (first : named key before = [])
    (given : named key front ≠ []) : (.ok key, u) ∈ front := by
  rcases List.append_eq_append_iff.mp split with ⟨more, rfl, rest⟩ | ⟨more, rfl, rest⟩
  · rw [named_append, List.append_eq_nil_iff] at first
    exact absurd first.1 given
  · cases more with
    | nil =>
      rw [List.append_nil] at given
      exact absurd first given
    | cons m more =>
      cases rest
      simp

section Objects

variable {name : String} {fields : Fields} {key : String} {before between after : Entries}
  {t u : Sketch}

theorem members_course {ms : Entries} (held : ∀ m ∈ ms, m.2.Held)
    (fits : (Shape.record name fields).Fits (.object ms)) :
    ∀ key u shape, (.ok key, u) ∈ ms → fields.shape? key = some shape → ¬ shape.Derails u := by
  intro key u shape member field
  have part := admitted_fits fields ms key u shape (fits_object.mp fits).1 field member
  exact part.course (held _ member)

theorem twice_misfit {ms : Entries} {shape : Shape} (field : fields.shape? key = some shape)
    (twice : 1 < (named key ms).length) : ¬ (Shape.record name fields).Fits (.object ms) := by
  intro fits
  rcases named_of_admits fields ms (fits_object.mp fits).1 field with none | ⟨t, one⟩
  · rw [none] at twice
    exact absurd twice (Nat.not_lt_zero 1)
  · rw [one] at twice
    exact absurd twice (Nat.lt_irrefl 1)

theorem shape_of_requires : (fs : Fields) → fs.Requires key → ∃ shape, fs.shape? key = some shape
  | .nil, required => required.elim
  | .cons k _ first rest, required => by
    unfold Fields.Requires at required
    unfold Fields.shape?
    split at required
    · rename_i same
      exact ⟨first, if_pos same⟩
    · rename_i other
      rw [if_neg other]
      exact shape_of_requires rest required

theorem missing_contradicts (held : ∀ m ∈ before ++ (.ok key, t) :: after, m.2.Held)
    (required : fields.Requires key)
    (fits : (Shape.record name fields).Fits (.object (before ++ (.ok key, t) :: after))) :
    (Shape.record name fields).Contradicts (.object (before ++ after)) := by
  refine ⟨?_, ?_⟩
  · intro fits'
    obtain ⟨shape, field⟩ := shape_of_requires fields required
    have given := named_of_requires fields _ (fits_object.mp fits').2 required
    -- the key had one member only, and that is the one taken out
    rcases named_of_admits fields _ (fits_object.mp fits).1 field with none | ⟨u, one⟩
    · rw [named_append, named_cons_same] at none
      simp at none
    · rw [named_append] at given one
      rw [named_cons_same, List.append_eq_singleton_iff] at one
      rcases one with ⟨front, behind⟩ | ⟨-, impossible⟩
      · rw [front, (List.cons.inj behind).2] at given
        exact given rfl
      · cases impossible
  · apply object_course
    intro k u shape member
    apply members_course held fits k u shape
    rw [List.mem_append, List.mem_cons]
    exact (List.mem_append.mp member).imp_right .inr

theorem repeatedBehind_contradicts {shape : Shape}
    (held : ∀ m ∈ before ++ (.ok key, t) :: between ++ after, m.2.Held)
    (field : fields.shape? key = some shape)
    (fits : (Shape.record name fields).Fits (.object (before ++ (.ok key, t) :: between ++ after))) :
    (Shape.record name fields).Contradicts
      (.object (before ++ (.ok key, t) :: between ++ (.ok key, u) :: after)) := by
  refine ⟨?_, ?_⟩
  · apply twice_misfit field
    simp only [named_append, named_cons_same, List.length_append, List.length_cons]
    omega
  · intro derails
    obtain ⟨front, k, w, back, shape', split, first, field', derails⟩ := derails_object derails
    have member : (.ok k, w) ∈ before ++ (.ok key, t) :: between ++ (.ok key, u) :: after := by
      rw [split]
      simp
    rw [List.mem_append, List.mem_cons] at member
    refine members_course held fits k w shape' ?_ field' derails
    rw [List.mem_append]
    rcases member with inside | same | behind
    · exact .inl inside
    · -- the member that is added is not the first of its key, which comes before it
      cases same
      refine .inl (mem_front split first ?_)
      rw [named_append, named_cons_same]
      simp
    · exact .inr behind

theorem repeatedBefore_contradicts {shape : Shape}
    (held : ∀ m ∈ before ++ between ++ (.ok key, t) :: after, m.2.Held)
    (field : fields.shape? key = some shape) (course : ¬ shape.Derails u)
    (fits : (Shape.record name fields).Fits (.object (before ++ between ++ (.ok key, t) :: after))) :
    (Shape.record name fields).Contradicts
      (.object (before ++ (.ok key, u) :: between ++ (.ok key, t) :: after)) := by
  refine ⟨?_, ?_⟩
  · apply twice_misfit field
    simp only [named_append, named_cons_same, List.length_append, List.length_cons]
    omega
  · apply object_course
    intro k w shape' member field'
    by_cases added : (Except.ok k, w) = ((.ok key, u) : Except Cause String × Sketch)
    · cases added
      cases field.symm.trans field'
      exact course
    · apply members_course held fits k w shape' _ field'
      simp only [List.mem_append, List.mem_cons] at member ⊢
      tauto

theorem member_contradicts {shape : Shape}
    (held : ∀ m ∈ before ++ (.ok key, t) :: after, m.2.Held)
    (field : fields.shape? key = some shape)
    (fits : (Shape.record name fields).Fits (.object (before ++ (.ok key, t) :: after)))
    (inside : shape.Contradicts u) :
    (Shape.record name fields).Contradicts (.object (before ++ (.ok key, u) :: after)) := by
  refine ⟨?_, ?_⟩
  · intro fits'
    apply inside.misfit
    exact admitted_fits fields _ key u shape (fits_object.mp fits').1 field (by simp)
  · apply object_course
    intro k w shape' member field'
    by_cases changed : (Except.ok k, w) = ((.ok key, u) : Except Cause String × Sketch)
    · cases changed
      cases field.symm.trans field'
      exact inside.course
    · apply members_course held fits k w shape' _ field'
      simp only [List.mem_append, List.mem_cons] at member ⊢
      tauto

end Objects

theorem item_contradicts {item : Shape} {before after : List Sketch} {t u : Sketch}
    (held : ∀ b ∈ before ++ t :: after, b.Held)
    (fits : (Shape.list item).Fits (.array (before ++ t :: after))) (inside : item.Contradicts u) :
    (Shape.list item).Contradicts (.array (before ++ u :: after)) := by
  refine ⟨?_, ?_⟩
  · intro fits'
    exact inside.misfit (fits_array.mp fits' u (by simp))
  · intro derails
    obtain ⟨w, member, astray⟩ := derails_array derails
    by_cases changed : w = u
    · exact inside.course (changed ▸ astray)
    · have old : w ∈ before ++ t :: after := by
        simp only [List.mem_append, List.mem_cons] at member ⊢
        tauto
      exact (fits_array.mp fits w old).course (held w old) astray

/-! Values of the wrong kind -/

section Kinds

variable {w : Value}

theorem text_of_sketch {s : Except Cause String} (same : w.sketch = .text s) : ∃ s, w = .text s := by
  cases w with
  | text s => exact ⟨s, rfl⟩
  | _ => cases same

theorem bool_of_sketch {b : Bool} (same : w.sketch = .bool b) : ∃ b, w = .bool b := by
  cases w with
  | bool b => exact ⟨b, rfl⟩
  | _ => cases same

theorem number_of_sketch {n : Except Cause Number} (same : w.sketch = .number n) :
    ∃ n, w = .number n := by
  cases w with
  | number n => exact ⟨n, rfl⟩
  | _ => cases same

theorem null_of_sketch (same : w.sketch = .null) : w = .null := by
  cases w with
  | null => rfl
  | _ => cases same

theorem array_of_sketch {ts : List Sketch} (same : w.sketch = .array ts) : ∃ vs, w = .array vs := by
  cases w with
  | array vs => exact ⟨vs, rfl⟩
  | _ => cases same

theorem object_of_sketch {ms : Entries} (same : w.sketch = .object ms) : ∃ vs, w = .object vs := by
  cases w with
  | object vs => exact ⟨vs, rfl⟩
  | _ => cases same

end Kinds

theorem Shape.Refuses.misfit : {s : Shape} → {w : Value} → s.Refuses w → ¬ s.Fits w.sketch
  | .text, w, refused => by
    simp only [Shape.Fits]
    rintro ⟨s, same⟩
    obtain ⟨s, rfl⟩ := text_of_sketch same
    exact refused s rfl
  | .flag, w, refused => by
    simp only [Shape.Fits]
    rintro ⟨b, same⟩
    obtain ⟨b, rfl⟩ := bool_of_sketch same
    exact refused b rfl
  | .count, w, refused => by
    simp only [Shape.Fits]
    rintro ⟨n, -, same⟩
    obtain ⟨n, rfl⟩ := number_of_sketch same
    exact refused n rfl
  | .real, w, refused => by
    simp only [Shape.Fits]
    rintro ⟨n, same⟩
    obtain ⟨n, rfl⟩ := number_of_sketch same
    exact refused n rfl
  | .choice tags, w, refused => by
    obtain ⟨tag, unlisted, rfl⟩ := refused
    simp only [Shape.Fits]
    rintro ⟨other, listed, same | same⟩
    · cases same
      exact unlisted listed
    · cases same
  | .optional item, w, refused => by
    obtain ⟨solid, refused⟩ := refused
    simp only [Shape.Fits]
    rintro (null | fits)
    · exact solid (null_of_sketch null)
    · exact refused.misfit fits
  | .list item, w, refused => by
    simp only [Shape.Fits]
    rintro ⟨ts, same, -⟩
    obtain ⟨vs, rfl⟩ := array_of_sketch same
    exact refused vs rfl
  | .record name fields, w, refused => by
    simp only [Shape.Fits]
    rintro (⟨ms, same, -⟩ | ⟨ts, same, -⟩)
    · obtain ⟨vs, rfl⟩ := object_of_sketch same
      exact refused.1 vs rfl
    · obtain ⟨vs, rfl⟩ := array_of_sketch same
      exact refused.2 vs rfl

theorem Shape.Refuses.course : {s : Shape} → {w : Value} → s.Refuses w → ¬ s.Derails w.sketch
  | .text, _, _ | .flag, _, _ | .count, _, _ | .real, _, _ => by
    simp only [Shape.Derails, not_false_iff]
  | .choice tags, w, refused => by
    obtain ⟨tag, unlisted, rfl⟩ := refused
    exact id
  | .optional item, w, refused => by
    simp only [Shape.Derails]
    rintro ⟨-, derails⟩
    exact refused.2.course derails
  | .list item, w, refused => by
    simp only [Shape.Derails]
    rintro ⟨before, u, after, same, -⟩
    obtain ⟨vs, rfl⟩ := array_of_sketch same
    exact refused vs rfl
  | .record name fields, w, refused => by
    simp only [Shape.Derails]
    rintro (⟨before, key, u, after, same, -⟩ | ⟨ts, same, -⟩)
    · obtain ⟨vs, rfl⟩ := object_of_sketch same
      exact refused.1 vs rfl
    · obtain ⟨vs, rfl⟩ := array_of_sketch same
      exact refused.2 vs rfl

theorem fits_member {name : String} {fields : Fields} {ms : List (String × Value)} {key : String}
    {x : Value} {shape : Shape} (fits : (Shape.record name fields).Fits (Value.object ms).sketch)
    (field : fields.shape? key = some shape) (member : (key, x) ∈ ms) : shape.Fits x.sketch := by
  simp only [Value.sketch, sketchMembers_eq_map] at fits
  exact admitted_fits fields _ key x.sketch shape (fits_object.mp fits).1 field
    (List.mem_map.mpr ⟨(key, x), member, rfl⟩)

/-- One fault in a value that fits contradicts the shape, however deep it is. -/
theorem Flawed.contradicts {s : Shape} {v w : Value} (flawed : Flawed s v w) (fits : s.Fits v.sketch) :
    s.Contradicts w.sketch := by
  have members (ms : List (String × Value)) : ∀ m ∈ sketchMembers ms, m.2.Held :=
    fun m member => (held_object (Value.object ms).held m member).2
  induction flawed with
  | wrong s v w refused => exact ⟨refused.misfit, refused.course⟩
  | missing name fields before key x after required =>
    have held := members (before ++ (key, x) :: after)
    simp only [Value.sketch, sketchMembers_eq_map, List.map_append, List.map_cons] at held fits ⊢
    exact missing_contradicts held required fits
  | repeatedBehind name fields before key x between y after shape field =>
    have held := members (before ++ (key, x) :: between ++ after)
    simp only [Value.sketch, sketchMembers_eq_map, List.map_append, List.map_cons] at held fits ⊢
    exact repeatedBehind_contradicts held field fits
  | repeatedBefore name fields before key y between x after shape field course =>
    have held := members (before ++ between ++ (key, x) :: after)
    simp only [Value.sketch, sketchMembers_eq_map, List.map_append, List.map_cons] at held fits ⊢
    exact repeatedBefore_contradicts held field course fits
  | item item before x y after inside ih =>
    have held : ∀ t ∈ sketchItems (before ++ x :: after), t.Held :=
      held_array (Value.array (before ++ x :: after)).held
    simp only [Value.sketch, sketchItems_eq_map, List.map_append, List.map_cons] at held fits ⊢
    exact item_contradicts held fits (ih (fits_array.mp fits _ (by simp)))
  | member name fields before key x y after shape field inside ih =>
    have part : shape.Fits x.sketch := fits_member fits field (by simp)
    have held := members (before ++ (key, x) :: after)
    simp only [Value.sketch, sketchMembers_eq_map, List.map_append, List.map_cons] at held fits ⊢
    exact member_contradicts held field fits (ih part)

/-- A member of a record, at some depth, is given again with the value that it has, behind the first one or
in front of it. -/
inductive Repeats : Shape → Value → Value → Prop
  | behind (name fields before key x between after shape) (field : Fields.shape? fields key = some shape) :
      Repeats (.record name fields) (.object (before ++ (key, x) :: between ++ after))
        (.object (before ++ (key, x) :: between ++ (key, x) :: after))
  | before (name fields before key x between after shape) (field : Fields.shape? fields key = some shape) :
      Repeats (.record name fields) (.object (before ++ between ++ (key, x) :: after))
        (.object (before ++ (key, x) :: between ++ (key, x) :: after))
  | item (item before x y after) (inside : Repeats item x y) :
      Repeats (.list item) (.array (before ++ x :: after)) (.array (before ++ y :: after))
  | member (name fields before key x y after shape)
      (field : Fields.shape? fields key = some shape) (inside : Repeats shape x y) :
      Repeats (.record name fields) (.object (before ++ (key, x) :: after))
        (.object (before ++ (key, y) :: after))

/-- In a value that fits, that is a fault: a value that fits leads no reader astray. -/
theorem Repeats.flawed {s : Shape} {v w : Value} (repeats : Repeats s v w) (fits : s.Fits v.sketch) :
    Flawed s v w := by
  induction repeats with
  | behind name fields before key x between after shape field =>
    exact .repeatedBehind name fields before key x between x after shape field
  | before name fields before key x between after shape field =>
    have part : shape.Fits x.sketch := fits_member fits field (by simp)
    exact .repeatedBefore name fields before key x between x after shape field (part.course x.held)
  | item item before x y after inside ih =>
    simp only [Value.sketch, sketchItems_eq_map, List.map_append, List.map_cons] at fits
    exact .item item before x y after (ih (fits_array.mp fits _ (by simp)))
  | member name fields before key x y after shape field inside ih =>
    exact .member name fields before key x y after shape field (ih (fits_member fits field (by simp)))

end Retrofit.Json
