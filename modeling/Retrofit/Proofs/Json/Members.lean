import Retrofit.Proofs.Json.Interpretation
import Retrofit.Proofs.Json.Reading

/-! The content of a record that is written as an object. Its members may come in any order, so what each
field holds is said by the members of its own name alone. -/
namespace Retrofit.Json

/-- The members of an object as they are spelled. -/
abbrev Entries := List (Except Cause String × Sketch)

def isNamed (key : String) : Except Cause String → Bool
  | .ok k => k == key
  | .error _ => false

/-- The values of all members with the given key. -/
def named (key : String) (ms : Entries) : List Sketch :=
  (ms.filter (isNamed key ·.1)).map (·.2)

def without (key : String) (ms : Entries) : Entries :=
  ms.filter (!isNamed key ·.1)

/-! Members by name -/

section Names

variable {key k : String} {t : Sketch} {ms : Entries}

theorem named_cons_same (key : String) (t : Sketch) (ms : Entries) :
    named key ((.ok key, t) :: ms) = t :: named key ms := by
  simp [named, isNamed]

theorem named_cons_other (other : k ≠ key) : named key ((.ok k, t) :: ms) = named key ms := by
  simp [named, isNamed, other]

theorem without_cons_same (key : String) (t : Sketch) (ms : Entries) :
    without key ((.ok key, t) :: ms) = without key ms := by
  simp [without, isNamed]

theorem without_cons_other (other : k ≠ key) :
    without key ((.ok k, t) :: ms) = (.ok k, t) :: without key ms := by
  simp [without, isNamed, other]

theorem without_cons_unread (c : Cause) :
    without key ((.error c, t) :: ms) = (.error c, t) :: without key ms := by
  simp [without, isNamed]

/-- The members of one name are not among those that another name takes away. -/
theorem named_without (other : k ≠ key) (ms : Entries) :
    named k (without key ms) = named k ms := by
  induction ms with
  | nil => rfl
  | cons m ms ih =>
    obtain ⟨name, t⟩ := m
    cases name with
    | error c =>
      rw [without_cons_unread]
      simpa [named, isNamed] using ih
    | ok name =>
      by_cases same : name = key
      · subst same
        rw [without_cons_same, named_cons_other (Ne.symm other), ih]
      · rw [without_cons_other same]
        by_cases mine : name = k
        · subst mine
          rw [named_cons_same, named_cons_same, ih]
        · rw [named_cons_other mine, named_cons_other mine, ih]

end Names

/-! Gathering, field by field -/

/-- What the slot of one field holds after the values that are given to the field. -/
inductive Filled (shape : Shape) : Option shape.Content → List Sketch → Option shape.Content → Prop
  | kept (slot) : Filled shape slot [] slot
  | taken (t x) (read : shape.interpret t = .ok x) : Filled shape none [t] (some x)

theorem bind_ok_iff {ε α β : Type} {first : Except ε α} {next : α → Except ε β} {out : β} :
    (first >>= next) = .ok out ↔ ∃ x, first = .ok x ∧ next x = .ok out := by
  refine ⟨?_, ?_⟩
  · exact bind_ok
  · intro given
    rcases given with ⟨x, rfl, ok⟩
    exact ok

theorem gather_unread {σ : Type} (take : String → σ → Sketch → Except Cause σ) (g : σ) (c : Cause)
    (t : Sketch) (ms : Entries) : gather take g ((.error c, t) :: ms) = .error c :=
  rfl

theorem gather_read {σ : Type} (take : String → σ → Sketch → Except Cause σ) (g : σ) (key : String)
    (t : Sketch) (ms : Entries) :
    gather take g ((.ok key, t) :: ms) = take key g t >>= fun g' => gather take g' ms :=
  rfl

/-! Where a reading of parts stops -/

section Stops

variable {α β : Type} {c : Cause}

theorem bind_error_iff {ε : Type} {e : ε} {first : Except ε α} {next : α → Except ε β} :
    (first >>= next) = .error e ↔ first = .error e ∨ ∃ x, first = .ok x ∧ next x = .error e := by
  cases first <;> simp [bind, Except.bind]

theorem map_error_iff {ε : Type} {e : ε} {first : Except ε α} {f : α → β} :
    first.map f = .error e ↔ first = .error e := by
  cases first <;> simp [Except.map]

/-- A list stops at its first item that does not read. -/
theorem mapM_error_iff {f : Sketch → Except Cause α} (ts : List Sketch) :
    ts.mapM f = .error c ↔
      ∃ before u after, ts = before ++ u :: after ∧ (∀ b ∈ before, ∃ x, f b = .ok x) ∧
        f u = .error c := by
  induction ts with
  | nil => simp [pure, Except.pure]
  | cons t ts ih =>
    rw [List.mapM_cons, bind_error_iff]
    refine ⟨?_, ?_⟩
    · intro given
      rcases given with failed | ⟨x, read, failed⟩
      · exact ⟨[], t, ts, rfl, List.forall_mem_nil _, failed⟩
      · rw [bind_error_iff, ih] at failed
        rcases failed with ⟨before, u, after, rfl, all, failed⟩ | ⟨xs, -, impossible⟩
        · refine ⟨t :: before, u, after, rfl, ?_, failed⟩
          rw [List.forall_mem_cons]
          exact ⟨⟨x, read⟩, all⟩
        · cases impossible
    · intro given
      rcases given with ⟨before, u, after, split, all, failed⟩
      cases before with
      | nil =>
        obtain ⟨rfl, rfl⟩ := List.cons.inj split
        exact .inl failed
      | cons b before =>
        obtain ⟨rfl, rfl⟩ := List.cons.inj split
        rw [List.forall_mem_cons] at all
        obtain ⟨⟨x, read⟩, all⟩ := all
        exact .inr ⟨x, read, bind_error_iff.mpr (.inl (ih.mpr ⟨before, u, after, rfl, all, failed⟩))⟩

/-- An object stops at its first member that is not taken. -/
theorem gather_error_iff {σ : Type} {take : String → σ → Sketch → Except Cause σ} (g : σ)
    (ms : Entries) (readable : ∀ m ∈ ms, ∃ key, m.1 = .ok key) :
    gather take g ms = .error c ↔
      ∃ before key u after g', ms = before ++ (.ok key, u) :: after ∧
        gather take g before = .ok g' ∧ take key g' u = .error c := by
  induction ms generalizing g with
  | nil => simp [gather]
  | cons m ms ih =>
    obtain ⟨name, t⟩ := m
    rw [List.forall_mem_cons] at readable
    obtain ⟨⟨key, rfl⟩, readable⟩ := readable
    rw [gather_read, bind_error_iff]
    refine ⟨?_, ?_⟩
    · intro given
      rcases given with failed | ⟨g₁, taken, failed⟩
      · exact ⟨[], key, t, ms, g, rfl, rfl, failed⟩
      · obtain ⟨before, k, u, after, g', rfl, gathered, failed⟩ := (ih g₁ readable).mp failed
        refine ⟨(.ok key, t) :: before, k, u, after, g', rfl, ?_, failed⟩
        rw [gather_read, taken]
        exact gathered
    · intro given
      rcases given with ⟨before, k, u, after, g', split, gathered, failed⟩
      cases before with
      | nil =>
        obtain ⟨same, rfl⟩ := List.cons.inj split
        cases same
        cases gathered
        exact .inl failed
      | cons b before =>
        obtain ⟨rfl, rfl⟩ := List.cons.inj split
        rw [gather_read] at gathered
        obtain ⟨g₁, taken, gathered⟩ := bind_ok gathered
        exact .inr ⟨g₁, taken, (ih g₁ readable).mpr ⟨before, k, u, after, g', rfl, gathered, failed⟩⟩

end Stops

section Steps

variable {key : String} {presence : Presence} {shape : Shape} {rest : Fields} {t : Sketch}

theorem interpretMember_again (x : shape.Content) (more : rest.Draft) :
    (Fields.cons key presence shape rest).interpretMember key (some x, more) t =
      .error (.repeatedMember key) := by
  simp only [Fields.interpretMember, if_true]

theorem interpretMember_first (more : rest.Draft) :
    (Fields.cons key presence shape rest).interpretMember key (none, more) t =
      (shape.interpret t).map fun x => (some x, more) := by
  simp only [Fields.interpretMember, if_true]
  cases shape.interpret t <;> rfl

theorem interpretMember_behind {k : String} (other : k ≠ key) (slot : Option shape.Content)
    (more : rest.Draft) :
    (Fields.cons key presence shape rest).interpretMember k (slot, more) t =
      (rest.interpretMember k more t).map fun more' => (slot, more') := by
  simp only [Fields.interpretMember, if_neg other]
  cases rest.interpretMember k more t <;> rfl

end Steps

theorem gather_nil_ok (ms : Entries) (draft draft' : Fields.nil.Draft) :
    gather Fields.nil.interpretMember draft ms = .ok draft' ↔
      ∀ m ∈ ms, ∃ key, m.1 = .ok key := by
  induction ms with
  | nil =>
    refine ⟨?_, ?_⟩
    · intro _ m found
      cases found
    · intro _
      rfl
  | cons m ms ih =>
    obtain ⟨name, t⟩ := m
    rw [List.forall_mem_cons]
    cases name with
    | error c =>
      rw [gather_unread]
      simp
    | ok key =>
      rw [gather_read]
      change gather Fields.nil.interpretMember draft ms = .ok draft' ↔ _
      rw [ih]
      simp

theorem filled_cons {shape : Shape} {slot slot' : Option shape.Content} {t : Sketch}
    {ts : List Sketch} :
    Filled shape slot (t :: ts) slot' ↔
      slot = none ∧ ∃ x, shape.interpret t = .ok x ∧ Filled shape (some x) ts slot' := by
  refine ⟨?_, ?_⟩
  · intro filled
    cases filled with
    | taken _ x read => exact ⟨rfl, x, read, .kept _⟩
  · intro given
    rcases given with ⟨rfl, x, read, filled⟩
    cases filled
    exact .taken t x read

/-- The first field takes the members of its name, and those behind it take the others. -/
theorem gather_cons_ok (key : String) (presence : Presence) (shape : Shape) (rest : Fields)
    (ms : Entries) (slot slot' : Option shape.Content) (more more' : rest.Draft) :
    gather (Fields.cons key presence shape rest).interpretMember (slot, more) ms =
        .ok (slot', more') ↔
      Filled shape slot (named key ms) slot' ∧
        gather rest.interpretMember more (without key ms) = .ok more' := by
  induction ms generalizing slot more with
  | nil =>
    change Except.ok (slot, more) = Except.ok (slot', more') ↔
      Filled shape slot [] slot' ∧ Except.ok more = Except.ok more'
    simp only [Except.ok.injEq, Prod.mk.injEq]
    refine and_congr_left fun _ => ⟨?_, ?_⟩
    · intro same
      subst same
      exact .kept slot
    · intro filled
      cases filled
      rfl
  | cons m ms ih =>
    obtain ⟨name, t⟩ := m
    cases name with
    | error c =>
      rw [without_cons_unread, gather_unread, gather_unread]
      simp
    | ok name =>
      rw [gather_read]
      by_cases same : name = key
      · subst same
        rw [named_cons_same, without_cons_same, filled_cons]
        cases slot with
        | some x =>
          rw [interpretMember_again]
          simp [bind, Except.bind]
        | none =>
          rw [interpretMember_first]
          cases read : shape.interpret t with
          | error c => simp [bind, Except.bind, Except.map]
          | ok x =>
            have later := ih (some x) more
            simpa [bind, Except.bind, Except.map] using later
      · rw [named_cons_other same, without_cons_other same, interpretMember_behind same,
          gather_read]
        cases taken : rest.interpretMember name more t with
        | error c => simp [bind, Except.bind, Except.map]
        | ok more₁ =>
          have later := ih slot more₁
          simpa [bind, Except.bind, Except.map] using later

/-! The content of an object -/

/-- Each field holds the one value that is given to it, or what it holds when it is left out. -/
def Fields.Reads : (fs : Fields) → Entries → fs.Content → Prop
  | .nil, ms, _ => ∀ m ∈ ms, ∃ key, m.1 = .ok key
  | .cons key presence shape rest, ms, (x, more) =>
    ((∃ t, named key ms = [t] ∧ shape.interpret t = .ok x) ∨
        (named key ms = [] ∧ presence ≠ .always ∧ shape.absent? = some x)) ∧
      rest.Reads (without key ms) more

theorem map_ok_iff {ε α β : Type} {f : α → β} {first : Except ε α} {y : β} :
    first.map f = .ok y ↔ ∃ x, first = .ok x ∧ f x = y := by
  cases first <;> simp [Except.map]

theorem complete_cons_ok (key : String) (presence : Presence) (shape : Shape) (rest : Fields)
    (slot : Option shape.Content) (more : rest.Draft) (x : shape.Content) (xs : rest.Content) :
    (Fields.cons key presence shape rest).complete (slot, more) = .ok (x, xs) ↔
      (slot = some x ∨ (slot = none ∧ presence ≠ .always ∧ shape.absent? = some x)) ∧
        rest.complete more = .ok xs := by
  cases slot with
  | some y => simp [Fields.complete, map_ok_iff, and_comm]
  | none =>
    cases presence <;> cases absent : shape.absent? <;>
      simp [Fields.complete, map_ok_iff, absent, and_comm]

theorem filled_empty {shape : Shape} {ts : List Sketch} {slot : Option shape.Content} :
    Filled shape none ts slot ↔
      (ts = [] ∧ slot = none) ∨ ∃ t x, ts = [t] ∧ shape.interpret t = .ok x ∧ slot = some x := by
  refine ⟨?_, ?_⟩
  · intro filled
    cases filled with
    | kept => exact .inl ⟨rfl, rfl⟩
    | taken t x read => exact .inr ⟨t, x, rfl, read, rfl⟩
  · intro given
    rcases given with ⟨rfl, rfl⟩ | ⟨t, x, rfl, read, rfl⟩
    · exact .kept none
    · exact .taken t x read

/-- A record that is gathered completely holds what its members say, in whatever order they come. -/
theorem gathered_iff_reads : (fs : Fields) → (ms : Entries) → (x : fs.Content) →
    ((∃ draft, gather fs.interpretMember fs.emptyDraft ms = .ok draft ∧ fs.complete draft = .ok x) ↔
      fs.Reads ms x)
  | .nil, ms, x => by
    refine ⟨?_, ?_⟩
    · intro given
      rcases given with ⟨draft, gathered, -⟩
      exact (gather_nil_ok ms _ draft).mp gathered
    · intro readable
      exact ⟨(), (gather_nil_ok ms _ ()).mpr readable, rfl⟩
  | .cons key presence shape rest, ms, (x, xs) => by
    have later := gathered_iff_reads rest (without key ms) xs
    simp only [Fields.Reads]
    rw [← later]
    refine ⟨?_, ?_⟩
    · intro given
      rcases given with ⟨⟨slot, more⟩, gathered, completed⟩
      obtain ⟨filled, others⟩ := (gather_cons_ok key presence shape rest ms _ _ _ _).mp gathered
      obtain ⟨holds, ends⟩ := (complete_cons_ok key presence shape rest _ _ _ _).mp completed
      refine ⟨?_, more, others, ends⟩
      rcases filled_empty.mp filled with ⟨none, rfl⟩ | ⟨t, y, one, read, rfl⟩
      · rcases holds with impossible | ⟨-, absent⟩
        · cases impossible
        · exact .inr ⟨none, absent⟩
      · rcases holds with same | ⟨impossible, -⟩
        · cases same
          exact .inl ⟨t, one, read⟩
        · cases impossible
    · intro given
      rcases given with ⟨⟨t, one, read⟩ | ⟨none, absent⟩, more, others, ends⟩
      · refine ⟨(some x, more), ?_, ?_⟩
        · exact (gather_cons_ok key presence shape rest ms _ _ _ _).mpr
            ⟨filled_empty.mpr (.inr ⟨t, x, one, read, rfl⟩), others⟩
        · exact (complete_cons_ok key presence shape rest _ _ _ _).mpr ⟨.inl rfl, ends⟩
      · refine ⟨(Option.none, more), ?_, ?_⟩
        · exact (gather_cons_ok key presence shape rest ms _ _ _ _).mpr
            ⟨filled_empty.mpr (.inl ⟨none, rfl⟩), others⟩
        · exact (complete_cons_ok key presence shape rest _ _ _ _).mpr
            ⟨.inr ⟨rfl, absent⟩, ends⟩

theorem object_interpreted (name : String) (fields : Fields) (ms : Entries)
    (x : fields.Content) :
    (Shape.record name fields).interpret (.object ms) = .ok x ↔ fields.Reads ms x := by
  rw [← gathered_iff_reads fields ms x]
  simp only [Shape.interpret]
  rw [bind_ok_iff]
  apply exists_congr
  intro draft
  apply and_congr_right
  intro _
  cases fields.complete draft <;> simp [Except.mapError]

end Retrofit.Json
