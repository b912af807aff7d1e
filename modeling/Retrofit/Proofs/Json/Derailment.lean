import Retrofit.Proofs.Json.Form

/-! Values that the reader of a schema takes for broken text. A tag is looked for by its first character
and a record that is written as a list is closed by hand, and neither place asks which value stands there
instead; everywhere else a value of the wrong form is recognized as a value. -/
namespace Retrofit.Json

/-- The reading stops, and not for a mismatch. -/
def Astray {α : Type} (result : Except Cause α) : Prop :=
  ∃ c, result = .error c ∧ c.isMismatch = false

/-- Every part of the value can be held by a reader without a schema. -/
def Sketch.Held (t : Sketch) : Prop :=
  ∃ v : Value, v.sketch = t

/-- Neither a text nor an object with a key, where a tag should be; or an object that goes on behind its
tag. -/
def Sketch.DerailsTag (tags : List String) : Sketch → Prop
  | .text _ => False
  | .object ((key, t) :: more) => (∃ tag ∈ tags, key = .ok tag) ∧ t = .null ∧ more ≠ []
  | _ => True

mutual

/-- All that is read before some place fits, and at that place stands no tag where a tag should be, or an
item behind the last field of a record. -/
def Shape.Derails : Shape → Sketch → Prop
  | .text => fun _ => False
  | .flag => fun _ => False
  | .count => fun _ => False
  | .real => fun _ => False
  | .choice tags => fun t => t.DerailsTag tags
  | .optional item => fun t => t ≠ .null ∧ item.Derails t
  | .list item => fun t =>
    ∃ before u after, t = .array (before ++ u :: after) ∧ (∀ b ∈ before, item.Fits b) ∧
      item.Derails u
  | .record _ fields => fun t =>
    (∃ before key u after, t = .object (before ++ (.ok key, u) :: after) ∧ fields.Admits before ∧
        named key before = [] ∧ fields.DerailMember key u) ∨
      ∃ ts, t = .array ts ∧ fields.DerailItems ts

def Fields.DerailMember : Fields → String → Sketch → Prop
  | .nil, _ => fun _ => False
  | .cons key _ shape rest, k => fun t => (k = key ∧ shape.Derails t) ∨ (k ≠ key ∧ rest.DerailMember k t)

def Fields.DerailItems : Fields → List Sketch → Prop
  | .nil, ts => ts ≠ []
  | .cons _ _ shape rest, ts =>
    match ts with
    | [] => False
    | t :: ts => shape.Derails t ∨ (shape.Fits t ∧ rest.DerailItems ts)

end

/-! Going astray -/

section Astray

variable {α β : Type}

theorem astray_ok (x : α) : ¬ Astray (.ok x) := by
  intro given
  rcases given with ⟨c, impossible, -⟩
  cases impossible

theorem astray_error (c : Cause) : Astray (.error c : Except Cause α) ↔ c.isMismatch = false := by
  simp [Astray]

theorem astray_bind {first : Except Cause α} {next : α → Except Cause β} :
    Astray (first >>= next) ↔ Astray first ∨ ∃ x, first = .ok x ∧ Astray (next x) := by
  cases first with
  | error c => simp [Astray, bind, Except.bind]
  | ok x => simp [Astray, bind, Except.bind]

theorem astray_map {first : Except Cause α} {f : α → β} : Astray (first.map f) ↔ Astray first := by
  cases first <;> simp [Astray, Except.map]

/-- A list goes astray at its first item that does not read. -/
theorem astray_mapM {f : Sketch → Except Cause α} (ts : List Sketch) :
    Astray (ts.mapM f) ↔
      ∃ before u after, ts = before ++ u :: after ∧ (∀ b ∈ before, ∃ x, f b = .ok x) ∧
        Astray (f u) := by
  unfold Astray
  simp only [mapM_error_iff]
  refine ⟨?_, ?_⟩
  · intro given
    rcases given with ⟨c, ⟨before, u, after, split, all, failed⟩, course⟩
    exact ⟨before, u, after, split, all, c, failed, course⟩
  · intro given
    rcases given with ⟨before, u, after, split, all, c, failed, course⟩
    exact ⟨c, ⟨before, u, after, split, all, failed⟩, course⟩

/-- An object goes astray at its first member that is not taken. -/
theorem astray_gather {σ : Type} {take : String → σ → Sketch → Except Cause σ} (g : σ)
    (ms : Entries) (readable : ∀ m ∈ ms, ∃ key, m.1 = .ok key) :
    Astray (gather take g ms) ↔
      ∃ before key u after g', ms = before ++ (.ok key, u) :: after ∧
        gather take g before = .ok g' ∧ Astray (take key g' u) := by
  unfold Astray
  simp only [gather_error_iff g ms readable]
  refine ⟨?_, ?_⟩
  · intro given
    rcases given with ⟨c, ⟨before, key, u, after, g', split, gathered, failed⟩, course⟩
    exact ⟨before, key, u, after, g', split, gathered, c, failed, course⟩
  · intro given
    rcases given with ⟨before, key, u, after, g', split, gathered, c, failed, course⟩
    exact ⟨c, ⟨before, key, u, after, g', split, gathered, failed⟩, course⟩

end Astray

/-! Values that can be held -/

section Held

theorem held_text {s : Except Cause String} (held : (Sketch.text s).Held) : ∃ x, s = .ok x := by
  obtain ⟨v, same⟩ := held
  cases v with
  | text x =>
    cases same
    exact ⟨x, rfl⟩
  | _ => cases same

theorem held_number {n : Except Cause Number} (held : (Sketch.number n).Held) :
    ∃ x, n = .ok x := by
  obtain ⟨v, same⟩ := held
  cases v with
  | number x =>
    cases same
    exact ⟨x, rfl⟩
  | _ => cases same

theorem held_array {ts : List Sketch} (held : (Sketch.array ts).Held) : ∀ t ∈ ts, t.Held := by
  obtain ⟨v, same⟩ := held
  cases v with
  | array vs =>
    cases same
    rw [sketchItems_eq_map]
    intro t member
    obtain ⟨v, -, same⟩ := List.mem_map.mp member
    exact ⟨v, same⟩
  | _ => cases same

theorem held_object {ms : Entries} (held : (Sketch.object ms).Held) :
    ∀ m ∈ ms, (∃ key, m.1 = .ok key) ∧ m.2.Held := by
  obtain ⟨v, same⟩ := held
  cases v with
  | object vs =>
    cases same
    rw [sketchMembers_eq_map]
    intro m member
    obtain ⟨⟨key, v⟩, -, rfl⟩ := List.mem_map.mp member
    exact ⟨⟨key, rfl⟩, v, rfl⟩
  | _ => cases same

/-- Whatever can be held can be named, so that refusing it is a mismatch. -/
theorem refuse_on_course {α : Type} (expected : Expected) {t : Sketch} (held : t.Held) :
    ¬ Astray (t.refuse expected : Except Cause α) := by
  obtain ⟨found, named⟩ : ∃ found, t.found = .ok found := by
    cases t with
    | null | bool b | array ts | object ms => exact ⟨_, rfl⟩
    | number n =>
      obtain ⟨n, rfl⟩ := held_number held
      cases n <;> exact ⟨_, rfl⟩
    | text s =>
      obtain ⟨s, rfl⟩ := held_text held
      exact ⟨_, rfl⟩
  rw [Sketch.refuse, named]
  intro given
  rcases given with ⟨c, same, course⟩
  cases same
  cases course

end Held

/-! The schema loses its way exactly in values that derail it -/

theorem derailsTag_iff (tags : List String) {t : Sketch} (held : t.Held) :
    t.DerailsTag tags ↔ Astray (t.toTag tags) := by
  unfold Sketch.DerailsTag Sketch.toTag
  split
  · obtain ⟨tag, rfl⟩ := held_text held
    rw [astray_bind]
    refine ⟨?_, ?_⟩
    · intro impossible
      exact impossible.elim
    · intro given
      rcases given with astray | ⟨s, -, astray⟩
      · exact absurd astray (astray_ok _)
      · unfold tagIndex at astray
        split at astray
        · exact absurd astray (astray_ok _)
        · simp [astray_error, Cause.isMismatch] at astray
  · rename_i name u more
    have parts := held_object held
    rw [List.forall_mem_cons] at parts
    obtain ⟨⟨⟨key, readable⟩, held⟩, -⟩ := parts
    have readable : name = .ok key := readable
    subst readable
    have unit : ¬ Astray u.toUnit := by
      unfold Sketch.toUnit
      split
      · exact astray_ok _
      · exact refuse_on_course .unit held
    change _ ↔ Astray (tagIndex tags key >>= fun i => u.toUnit >>= fun _ =>
      if more.isEmpty then .ok i else .error .expectedValue)
    rw [astray_bind]
    refine ⟨?_, ?_⟩
    · intro given
      rcases given with ⟨⟨tag, listed, same⟩, rfl, longer⟩
      cases same
      obtain ⟨i, index⟩ := (tagIndex_ok_iff tags key).mpr listed
      refine .inr ⟨i, index, astray_bind.mpr (.inr ⟨(), rfl, ?_⟩)⟩
      rw [if_neg (by simpa using longer), astray_error]
      rfl
    · intro given
      rcases given with astray | ⟨i, index, astray⟩
      · unfold tagIndex at astray
        split at astray
        · exact absurd astray (astray_ok _)
        · simp [astray_error, Cause.isMismatch] at astray
      · rcases astray_bind.mp astray with astray | ⟨x, read, astray⟩
        · exact absurd astray unit
        · refine ⟨⟨key, (tagIndex_ok_iff tags key).mp ⟨i, index⟩, rfl⟩, toUnit_ok u read, ?_⟩
          intro same
          subst same
          exact absurd astray (astray_ok _)
  · simp [astray_error, Cause.isMismatch]

theorem Fields.admits_iff : (fs : Fields) → (ms : Entries) →
    (fs.Admits ms ↔ ∃ draft, gather fs.interpretMember fs.emptyDraft ms = .ok draft)
  | .nil, ms => by
    simp only [Fields.Admits]
    rw [← gather_nil_ok ms () ()]
    exact ⟨fun gathered => ⟨(), gathered⟩, fun ⟨_, gathered⟩ => gathered⟩
  | .cons key presence shape rest, ms => by
    simp only [Fields.Admits]
    rw [Fields.admits_iff rest (without key ms)]
    refine ⟨?_, ?_⟩
    · intro given
      rcases given with ⟨given, more, others⟩
      rcases given with none | ⟨t, one, fits⟩
      · exact ⟨(Option.none, more), (gather_cons_ok key presence shape rest ms _ _ _ _).mpr
          ⟨filled_empty.mpr (.inl ⟨none, rfl⟩), others⟩⟩
      · obtain ⟨x, read⟩ := (Shape.fits_iff shape t).mp fits
        exact ⟨(some x, more), (gather_cons_ok key presence shape rest ms _ _ _ _).mpr
          ⟨filled_empty.mpr (.inr ⟨t, x, one, read, rfl⟩), others⟩⟩
    · intro given
      rcases given with ⟨⟨slot, more⟩, gathered⟩
      obtain ⟨filled, others⟩ := (gather_cons_ok key presence shape rest ms _ _ _ _).mp gathered
      refine ⟨?_, more, others⟩
      rcases filled_empty.mp filled with ⟨none, -⟩ | ⟨t, x, one, read, -⟩
      · exact .inl none
      · exact .inr ⟨t, one, (Shape.fits_iff shape t).mpr ⟨x, read⟩⟩

mutual

theorem Shape.derails_iff (s : Shape) {t : Sketch} (held : t.Held) :
    s.Derails t ↔ Astray (s.interpret t) := by
  cases s with
  | text =>
    simp only [Shape.Derails, Shape.interpret, false_iff]
    unfold Sketch.toText
    split
    · obtain ⟨x, rfl⟩ := held_text held
      exact astray_ok x
    · exact refuse_on_course .text held
  | flag =>
    simp only [Shape.Derails, Shape.interpret, false_iff]
    unfold Sketch.toFlag
    split
    · exact astray_ok _
    · exact refuse_on_course .flag held
  | count =>
    simp only [Shape.Derails, Shape.interpret, false_iff]
    unfold Sketch.toCount
    split
    · split
      · exact astray_ok _
      · simp [astray_error, Cause.isMismatch]
    · exact refuse_on_course .count held
  | real =>
    simp only [Shape.Derails, Shape.interpret, false_iff]
    unfold Sketch.toReal
    split
    · obtain ⟨x, rfl⟩ := held_number held
      exact astray_ok _
    · exact refuse_on_course .real held
  | choice tags =>
    simp only [Shape.Derails, Shape.interpret]
    exact derailsTag_iff tags held
  | optional item =>
    simp only [Shape.Derails, Shape.interpret]
    rw [Shape.derails_iff item held]
    split
    · simp [astray_ok]
    · rename_i other
      rw [astray_map]
      exact and_iff_right fun same => other same
  | list item =>
    simp only [Shape.Derails, Shape.interpret]
    split
    · rename_i ts
      rw [astray_mapM]
      refine ⟨?_, ?_⟩
      · intro given
        rcases given with ⟨before, u, after, same, all, derails⟩
        cases same
        have part := held_array held u (by simp)
        exact ⟨before, u, after, rfl, fun b member => (Shape.fits_iff item b).mp (all b member),
          (Shape.derails_iff item part).mp derails⟩
      · intro given
        rcases given with ⟨before, u, after, rfl, all, astray⟩
        have part := held_array held u (by simp)
        exact ⟨before, u, after, rfl, fun b member => (Shape.fits_iff item b).mpr (all b member),
          (Shape.derails_iff item part).mpr astray⟩
    · rename_i other
      have course := refuse_on_course (α := List item.Content) .sequence held
      refine iff_of_false ?_ course
      intro given
      rcases given with ⟨before, u, after, same, -⟩
      exact other _ same
  | record name fields =>
    simp only [Shape.Derails, Shape.interpret]
    split
    · rename_i ms
      have parts := held_object held
      rw [astray_bind, astray_gather _ ms fun m member => (parts m member).1]
      refine ⟨?_, ?_⟩
      · intro given
        rcases given with ⟨before, key, u, after, same, admits, none, derails⟩ | ⟨ts, impossible, -⟩
        · cases same
          obtain ⟨draft, gathered⟩ := (Fields.admits_iff fields before).mp admits
          have part := (parts (.ok key, u) (by simp)).2
          exact .inl ⟨before, key, u, after, draft, rfl, gathered,
            (Fields.derailMember_iff fields key before draft gathered part).mp ⟨none, derails⟩⟩
        · cases impossible
      · intro given
        rcases given with ⟨before, key, u, after, draft, rfl, gathered, astray⟩ | ⟨draft, -, impossible⟩
        · have part := (parts (.ok key, u) (by simp)).2
          obtain ⟨none, derails⟩ :=
            (Fields.derailMember_iff fields key before draft gathered part).mpr astray
          exact .inl ⟨before, key, u, after, rfl, (Fields.admits_iff fields before).mpr
            ⟨draft, gathered⟩, none, derails⟩
        · cases completed : fields.complete draft with
          | ok x =>
            rw [completed] at impossible
            exact absurd impossible (astray_ok x)
          | error key =>
            rw [completed] at impossible
            obtain ⟨c, same, course⟩ := impossible
            cases same
            cases course
    · rename_i ts
      have parts := held_array held
      rw [← Fields.derailItems_iff fields name fields.size 0 parts]
      refine ⟨?_, ?_⟩
      · intro given
        rcases given with ⟨before, key, u, after, impossible, -⟩ | ⟨ts', same, derails⟩
        · cases impossible
        · cases same
          exact derails
      · intro derails
        exact .inr ⟨ts, rfl, derails⟩
    · rename_i object array
      have course := refuse_on_course (α := fields.Content) (.record name) held
      refine iff_of_false ?_ course
      intro given
      rcases given with ⟨before, key, u, after, same, -⟩ | ⟨ts, same, -⟩
      · exact object _ same
      · exact array _ same

/-- A field that has been given before is a mismatch, whatever stands there now. -/
theorem Fields.derailMember_iff (fs : Fields) (k : String) (before : Entries) (draft : fs.Draft)
    (gathered : gather fs.interpretMember fs.emptyDraft before = .ok draft) {t : Sketch}
    (held : t.Held) :
    named k before = [] ∧ fs.DerailMember k t ↔ Astray (fs.interpretMember k draft t) := by
  cases fs with
  | nil =>
    simp only [Fields.DerailMember, Fields.interpretMember, and_false, false_iff]
    exact astray_ok _
  | cons key presence shape rest =>
    obtain ⟨slot, more⟩ := draft
    obtain ⟨filled, others⟩ := (gather_cons_ok key presence shape rest before _ _ _ _).mp gathered
    simp only [Fields.DerailMember]
    by_cases same : k = key
    · subst same
      rcases filled_empty.mp filled with ⟨none, rfl⟩ | ⟨u, x, one, -, rfl⟩
      · rw [interpretMember_first, astray_map, ← Shape.derails_iff shape held]
        simp [none]
      · rw [interpretMember_again, astray_error, one]
        simp [Cause.isMismatch]
    · rw [interpretMember_behind same, astray_map,
        ← Fields.derailMember_iff rest k (without key before) more others held,
        named_without same]
      simp [same]

theorem Fields.derailItems_iff (fs : Fields) (name : String) (size seen : Nat)
    {ts : List Sketch} (held : ∀ t ∈ ts, t.Held) :
    fs.DerailItems ts ↔ Astray (fs.interpretItems name size seen ts) := by
  cases fs with
  | nil =>
    simp only [Fields.DerailItems, Fields.interpretItems]
    cases ts with
    | nil => simp [astray_ok]
    | cons t ts => simp [astray_error, Cause.isMismatch]
  | cons key presence shape rest =>
    cases ts with
    | nil =>
      simp only [Fields.DerailItems, Fields.interpretItems, false_iff]
      split
      · exact astray_ok _
      · simp [astray_error, Cause.isMismatch]
    | cons t ts =>
      rw [List.forall_mem_cons] at held
      simp only [Fields.DerailItems, Fields.interpretItems]
      rw [astray_bind, Shape.derails_iff shape held.1, Shape.fits_iff shape t,
        Fields.derailItems_iff rest name size (seen + 1) held.2]
      apply or_congr_right
      rw [exists_and_right.symm]
      apply exists_congr
      intro x
      apply and_congr_right
      intro _
      rw [astray_bind]
      refine ⟨?_, ?_⟩
      · exact .inl
      · intro given
        rcases given with astray | ⟨xs, -, impossible⟩
        · exact astray
        · exact absurd impossible (astray_ok _)

end

end Retrofit.Json
