import Retrofit.Proofs.Json.Members

/-! Which values a schema gives a content to, said without the order in which their parts are looked
at. -/
namespace Retrofit.Json

mutual

/-- The value has the form of the shape, or one of the two forms that are as good: a record may be the
list of its fields, and a tag the only key of an object, with null behind it. -/
def Shape.Fits : Shape → Sketch → Prop
  | .text => fun t => ∃ s, t = .text (.ok s)
  | .flag => fun t => ∃ b, t = .bool b
  | .count => fun t => ∃ n : Nat, n < UInt64.size ∧ t = .number (.ok (.integer n))
  | .real => fun t => ∃ n, t = .number (.ok n)
  | .choice tags => fun t =>
    ∃ tag ∈ tags, t = .text (.ok tag) ∨ t = .object [(.ok tag, .null)]
  | .optional item => fun t => t = .null ∨ item.Fits t
  | .list item => fun t => ∃ ts, t = .array ts ∧ ∀ u ∈ ts, item.Fits u
  | .record _ fields => fun t =>
    (∃ ms, t = .object ms ∧ fields.Admits ms ∧ fields.Complete ms) ∨
      ∃ ts, t = .array ts ∧ fields.FitItems ts

/-- Every member can be read, and no field is given twice or in another form than its own. -/
def Fields.Admits : Fields → Entries → Prop
  | .nil, ms => ∀ m ∈ ms, ∃ key, m.1 = .ok key
  | .cons key _ shape rest, ms =>
    (named key ms = [] ∨ ∃ t, named key ms = [t] ∧ shape.Fits t) ∧ rest.Admits (without key ms)

/-- Only fields that may be left out are left out. -/
def Fields.Complete : Fields → Entries → Prop
  | .nil, _ => True
  | .cons key presence shape rest, ms =>
    (named key ms = [] → presence ≠ .always ∧ shape.absent?.isSome) ∧
      rest.Complete (without key ms)

/-- The fields in order. The list may end early if all the fields behind may be left out. -/
def Fields.FitItems : Fields → List Sketch → Prop
  | .nil, ts => ts = []
  | .cons key presence shape rest, ts =>
    match ts with
    | [] => (Fields.cons key presence shape rest).allAbsent?.isSome
    | t :: ts => shape.Fits t ∧ rest.FitItems ts

end

/-! What fits has a content, and what has a content fits -/

theorem mapM_ok_iff {ε α β : Type} {f : α → Except ε β} (ts : List α) :
    (∃ xs, ts.mapM f = .ok xs) ↔ ∀ t ∈ ts, ∃ x, f t = .ok x := by
  induction ts with
  | nil => simp [pure, Except.pure]
  | cons t ts ih =>
    rw [List.forall_mem_cons, ← ih, List.mapM_cons]
    cases f t <;> cases ts.mapM f <;> simp [bind, Except.bind, pure, Except.pure]

theorem refuse_fails {α : Type} (expected : Expected) (t : Sketch) (x : α) :
    t.refuse expected ≠ .ok x := by
  intro ok
  obtain ⟨found, -, ok⟩ := bind_ok ok
  cases ok

section Leaves

variable (t : Sketch)

theorem toText_ok_iff : (∃ x, t.toText = .ok x) ↔ ∃ s, t = .text (.ok s) := by
  refine ⟨?_, ?_⟩
  · intro given
    rcases given with ⟨x, ok⟩
    unfold Sketch.toText at ok
    split at ok
    · exact ⟨x, by rw [ok]⟩
    · exact absurd ok (refuse_fails _ _ _)
  · intro given
    rcases given with ⟨s, rfl⟩
    exact ⟨s, rfl⟩

theorem toFlag_ok_iff : (∃ x, t.toFlag = .ok x) ↔ ∃ b, t = .bool b := by
  refine ⟨?_, ?_⟩
  · intro given
    rcases given with ⟨x, ok⟩
    unfold Sketch.toFlag at ok
    split at ok
    · exact ⟨_, rfl⟩
    · exact absurd ok (refuse_fails _ _ _)
  · intro given
    rcases given with ⟨b, rfl⟩
    exact ⟨b, rfl⟩

theorem toCount_ok_iff :
    (∃ x, t.toCount = .ok x) ↔ ∃ n : Nat, n < UInt64.size ∧ t = .number (.ok (.integer n)) := by
  refine ⟨?_, ?_⟩
  · intro given
    rcases given with ⟨x, ok⟩
    unfold Sketch.toCount at ok
    split at ok
    · rename_i n
      cases fits : wordOf? n with
      | none =>
        rw [fits] at ok
        cases ok
      | some word => exact ⟨word.val, word.isLt, by rw [eq_of_wordOf fits]⟩
    · exact absurd ok (refuse_fails _ _ _)
  · intro given
    rcases given with ⟨n, fits, rfl⟩
    refine ⟨⟨n, fits⟩, ?_⟩
    simp only [Sketch.toCount]
    rw [wordOf_natCast fits]

theorem toReal_ok_iff : (∃ x, t.toReal = .ok x) ↔ ∃ n, t = .number (.ok n) := by
  refine ⟨?_, ?_⟩
  · intro given
    rcases given with ⟨x, ok⟩
    unfold Sketch.toReal at ok
    split at ok
    · obtain ⟨n, rfl, -⟩ := map_ok_iff.mp ok
      exact ⟨n, rfl⟩
    · exact absurd ok (refuse_fails _ _ _)
  · intro given
    rcases given with ⟨n, rfl⟩
    exact ⟨n.toReal, rfl⟩

theorem toUnit_ok {u : Unit} (ok : t.toUnit = .ok u) : t = .null := by
  unfold Sketch.toUnit at ok
  split at ok
  · rfl
  · exact absurd ok (refuse_fails _ _ _)

theorem tagIndex_ok_iff (tags : List String) (tag : String) :
    (∃ i, tagIndex tags tag = .ok i) ↔ tag ∈ tags := by
  unfold tagIndex
  cases found : tags.findFinIdx? (· == tag) with
  | none =>
    rw [List.findFinIdx?_eq_none_iff] at found
    refine ⟨?_, ?_⟩
    · intro given
      rcases given with ⟨i, ok⟩
      cases ok
    · intro listed
      exact absurd (beq_self_eq_true tag) (found tag listed)
  | some i =>
    rw [List.findFinIdx?_eq_some_iff] at found
    have same : tags[i] = tag := eq_of_beq found.1
    refine ⟨?_, ?_⟩
    · intro _
      rw [← same]
      exact List.getElem_mem i.isLt
    · intro _
      exact ⟨i, rfl⟩

theorem toTag_ok_iff (tags : List String) :
    (∃ i, t.toTag tags = .ok i) ↔
      ∃ tag ∈ tags, t = .text (.ok tag) ∨ t = .object [(.ok tag, .null)] := by
  refine ⟨?_, ?_⟩
  · intro given
    rcases given with ⟨i, ok⟩
    unfold Sketch.toTag at ok
    split at ok
    · obtain ⟨tag, rfl, ok⟩ := bind_ok ok
      exact ⟨tag, (tagIndex_ok_iff tags tag).mp ⟨i, ok⟩, .inl rfl⟩
    · rename_i u more
      obtain ⟨tag, readable, ok⟩ := bind_ok ok
      obtain ⟨j, indexed, ok⟩ := bind_ok ok
      obtain ⟨u', unit, ok⟩ := bind_ok ok
      split at ok
      · rename_i single
        refine ⟨tag, (tagIndex_ok_iff tags tag).mp ⟨j, indexed⟩, .inr ?_⟩
        rw [readable, toUnit_ok u unit, List.isEmpty_iff.mp single]
      · cases ok
    · cases ok
  · intro given
    rcases given with ⟨tag, listed, rfl | rfl⟩
    · exact (tagIndex_ok_iff tags tag).mpr listed
    · obtain ⟨i, indexed⟩ := (tagIndex_ok_iff tags tag).mpr listed
      refine ⟨i, ?_⟩
      simp only [Sketch.toTag, bind, Except.bind, indexed]
      rfl

end Leaves

theorem array_of_interpret {item : Shape} {t : Sketch} {x : List item.Content}
    (ok : (Shape.list item).interpret t = .ok x) : ∃ ts, t = .array ts := by
  simp only [Shape.interpret] at ok
  split at ok
  · exact ⟨_, rfl⟩
  · exact absurd ok (refuse_fails _ _ _)

theorem object_or_array_of_interpret {name : String} {fields : Fields} {t : Sketch}
    {x : fields.Content} (ok : (Shape.record name fields).interpret t = .ok x) :
    (∃ ms, t = .object ms) ∨ ∃ ts, t = .array ts := by
  simp only [Shape.interpret] at ok
  split at ok
  · exact .inl ⟨_, rfl⟩
  · exact .inr ⟨_, rfl⟩
  · exact absurd ok (refuse_fails _ _ _)

mutual

theorem Shape.fits_iff (s : Shape) (t : Sketch) : s.Fits t ↔ ∃ x, s.interpret t = .ok x := by
  cases s with
  | text =>
    simp only [Shape.Fits, Shape.interpret]
    exact (toText_ok_iff t).symm
  | flag =>
    simp only [Shape.Fits, Shape.interpret]
    exact (toFlag_ok_iff t).symm
  | count =>
    simp only [Shape.Fits, Shape.interpret]
    exact (toCount_ok_iff t).symm
  | real =>
    simp only [Shape.Fits, Shape.interpret]
    exact (toReal_ok_iff t).symm
  | choice tags =>
    simp only [Shape.Fits, Shape.interpret]
    exact (toTag_ok_iff t tags).symm
  | optional item =>
    simp only [Shape.Fits, Shape.interpret]
    rw [Shape.fits_iff item t]
    refine ⟨?_, ?_⟩
    · intro given
      rcases given with rfl | ⟨x, ok⟩
      · exact ⟨none, rfl⟩
      · split
        · exact ⟨none, rfl⟩
        · exact ⟨some x, by rw [ok]; rfl⟩
    · intro given
      rcases given with ⟨x, ok⟩
      split at ok
      · exact .inl rfl
      · obtain ⟨y, read, -⟩ := map_ok_iff.mp ok
        exact .inr ⟨y, read⟩
  | list item =>
    simp only [Shape.Fits]
    refine ⟨?_, ?_⟩
    · intro given
      rcases given with ⟨ts, rfl, all⟩
      simp only [Shape.interpret]
      exact (mapM_ok_iff ts).mpr fun u member => (Shape.fits_iff item u).mp (all u member)
    · intro given
      rcases given with ⟨x, ok⟩
      obtain ⟨ts, rfl⟩ := array_of_interpret ok
      simp only [Shape.interpret] at ok
      have all := (mapM_ok_iff ts).mp ⟨x, ok⟩
      exact ⟨ts, rfl, fun u member => (Shape.fits_iff item u).mpr (all u member)⟩
  | record name fields =>
    simp only [Shape.Fits]
    refine ⟨?_, ?_⟩
    · intro given
      rcases given with ⟨ms, rfl, admitted, complete⟩ | ⟨ts, rfl, fits⟩
      · obtain ⟨x, read⟩ := (Fields.reads_iff fields ms).mp ⟨admitted, complete⟩
        exact ⟨x, (object_interpreted name fields ms x).mpr read⟩
      · exact (Fields.fitItems_iff fields name fields.size 0 ts).mp fits
    · intro given
      rcases given with ⟨x, ok⟩
      rcases object_or_array_of_interpret ok with ⟨ms, rfl⟩ | ⟨ts, rfl⟩
      · have read := (object_interpreted name fields ms x).mp ok
        exact .inl ⟨ms, rfl, (Fields.reads_iff fields ms).mpr ⟨x, read⟩⟩
      · exact .inr ⟨ts, rfl, (Fields.fitItems_iff fields name fields.size 0 ts).mpr ⟨x, ok⟩⟩

theorem Fields.reads_iff (fs : Fields) (ms : Entries) :
    fs.Admits ms ∧ fs.Complete ms ↔ ∃ x, fs.Reads ms x := by
  cases fs with
  | nil =>
    simp only [Fields.Admits, Fields.Complete, Fields.Reads, and_true]
    exact ⟨fun readable => ⟨(), readable⟩, fun ⟨_, readable⟩ => readable⟩
  | cons key presence shape rest =>
    simp only [Fields.Admits, Fields.Complete, Fields.Reads]
    refine ⟨?_, ?_⟩
    · intro given
      rcases given with ⟨⟨given, others⟩, may, ends⟩
      obtain ⟨xs, read⟩ := (Fields.reads_iff rest (without key ms)).mp ⟨others, ends⟩
      rcases given with none | ⟨t, one, fits⟩
      · obtain ⟨presence, absent⟩ := may none
        obtain ⟨x, absent⟩ := Option.isSome_iff_exists.mp absent
        exact ⟨(x, xs), .inr ⟨none, presence, absent⟩, read⟩
      · obtain ⟨x, ok⟩ := (Shape.fits_iff shape t).mp fits
        exact ⟨(x, xs), .inl ⟨t, one, ok⟩, read⟩
    · intro given
      rcases given with ⟨⟨x, xs⟩, holds, read⟩
      obtain ⟨others, ends⟩ := (Fields.reads_iff rest (without key ms)).mpr ⟨xs, read⟩
      rcases holds with ⟨t, one, ok⟩ | ⟨none, presence, absent⟩
      · have fits := (Shape.fits_iff shape t).mpr ⟨x, ok⟩
        refine ⟨⟨.inr ⟨t, one, fits⟩, others⟩, ?_, ends⟩
        rw [one]
        intro impossible
        cases impossible
      · refine ⟨⟨.inl none, others⟩, fun _ => ⟨presence, ?_⟩, ends⟩
        rw [absent]
        rfl

theorem Fields.fitItems_iff (fs : Fields) (name : String) (size seen : Nat) (ts : List Sketch) :
    fs.FitItems ts ↔ ∃ x, fs.interpretItems name size seen ts = .ok x := by
  cases fs with
  | nil =>
    simp only [Fields.FitItems, Fields.interpretItems]
    cases ts with
    | nil => exact ⟨fun _ => ⟨(), rfl⟩, fun _ => rfl⟩
    | cons t ts => simp
  | cons key presence shape rest =>
    cases ts with
    | nil =>
      simp only [Fields.FitItems, Fields.interpretItems]
      cases (Fields.cons key presence shape rest).allAbsent? <;> simp
    | cons t ts =>
      simp only [Fields.FitItems, Fields.interpretItems]
      rw [Shape.fits_iff shape t, Fields.fitItems_iff rest name size (seen + 1) ts]
      refine ⟨?_, ?_⟩
      · intro given
        rcases given with ⟨⟨x, ok⟩, xs, others⟩
        exact ⟨(x, xs), by rw [ok, others]; rfl⟩
      · intro given
        rcases given with ⟨x, ok⟩
        obtain ⟨y, read, ok⟩ := bind_ok ok
        obtain ⟨ys, others, ok⟩ := bind_ok ok
        exact ⟨⟨y, read⟩, ys, others⟩

end

/-! Where the parts of a schema stand in a value -/

/-- The shape of the first field with the given key. -/
def Fields.shape? : Fields → String → Option Shape
  | .nil, _ => none
  | .cons key _ shape rest, k => if k = key then some shape else rest.shape? k

/-- The key is that of a field that may not be left out. -/
def Fields.Requires : Fields → String → Prop
  | .nil, _ => False
  | .cons key presence shape rest, k =>
    if k = key then presence = .always ∨ shape.absent? = none else rest.Requires k

def Fields.shapes : Fields → List Shape
  | .nil => []
  | .cons _ _ shape rest => shape :: rest.shapes

/-- The places of a value, each with the shape that is asked for there. A list that stands for a record
gives its items to the fields in order. -/
inductive Position : Shape → Sketch → Shape → Sketch → Prop
  | top (s t) : Position s t s t
  | present (item t s u) (given : t ≠ .null) (inside : Position item t s u) :
      Position (.optional item) t s u
  | item (item ts t s u) (listed : t ∈ ts) (inside : Position item t s u) :
      Position (.list item) (.array ts) s u
  | member (name fields ms key t shape s u) (field : Fields.shape? fields key = some shape)
      (given : (.ok key, t) ∈ ms) (inside : Position shape t s u) :
      Position (.record name fields) (.object ms) s u
  | field (name fields ts t shape s u) (given : (shape, t) ∈ (Fields.shapes fields).zip ts)
      (inside : Position shape t s u) : Position (.record name fields) (.array ts) s u

/-- The value at a place is written as the schema has it: a record is an object, and a tag is one of the
listed texts. -/
def Shape.Proper : Shape → Sketch → Prop
  | .record .., t => ∃ ms, t = .object ms
  | .choice tags, t => ∃ tag ∈ tags, t = .text (.ok tag)
  | _, _ => True

/-- The value at a place is a list where a record is asked for, or an object where a tag is. -/
def Shape.Improper : Shape → Sketch → Prop
  | .record .., t => ∃ ts, t = .array ts
  | .choice _, t => ∃ ms, t = .object ms
  | _, _ => False

theorem mem_named {key : String} {t : Sketch} {ms : Entries} :
    t ∈ named key ms ↔ (.ok key, t) ∈ ms := by
  unfold named
  rw [List.mem_map]
  refine ⟨?_, ?_⟩
  · intro given
    rcases given with ⟨⟨name, t⟩, member, rfl⟩
    rw [List.mem_filter] at member
    cases name with
    | error c => simp [isNamed] at member
    | ok k =>
      simp only [isNamed, beq_iff_eq] at member
      rw [← member.2]
      exact member.1
  · intro member
    exact ⟨(.ok key, t), List.mem_filter.mpr ⟨member, by simp [isNamed]⟩, rfl⟩

theorem admitted_fits : (fs : Fields) → (ms : Entries) → (key : String) → (t : Sketch) →
    (shape : Shape) → fs.Admits ms → fs.shape? key = some shape → (.ok key, t) ∈ ms → shape.Fits t
  | .nil, _, _, _, _, _, field, _ => by cases field
  | .cons k _ first rest, ms, key, t, shape, admits, field, given => by
    simp only [Fields.Admits] at admits
    obtain ⟨mine, others⟩ := admits
    unfold Fields.shape? at field
    split at field
    · rename_i same
      subst same
      cases field
      have found := mem_named.mpr given
      rcases mine with none | ⟨u, one, fits⟩
      · rw [none] at found
        cases found
      · rw [one, List.mem_singleton] at found
        rw [found]
        exact fits
    · rename_i other
      apply admitted_fits rest (without k ms) key t shape others field
      rw [← mem_named, named_without other, mem_named]
      exact given

theorem listed_fits : (fs : Fields) → (ts : List Sketch) → (shape : Shape) → (t : Sketch) →
    fs.FitItems ts → (shape, t) ∈ fs.shapes.zip ts → shape.Fits t
  | .nil, _, _, _, _, given => by simp [Fields.shapes] at given
  | .cons _ _ _ _, [], _, _, _, given => by simp at given
  | .cons _ _ first rest, u :: ts, shape, t, fits, given => by
    simp only [Fields.FitItems] at fits
    simp only [Fields.shapes, List.zip_cons_cons, List.mem_cons, Prod.mk.injEq] at given
    rcases given with ⟨rfl, rfl⟩ | behind
    · exact fits.1
    · exact listed_fits rest ts shape t fits.2 behind

/-- What fits as a whole fits at every place. -/
theorem Position.fits {s s' : Shape} {t u : Sketch} (place : Position s t s' u) (fits : s.Fits t) :
    s'.Fits u := by
  induction place with
  | top s t => exact fits
  | present item t s u given inside ih =>
    simp only [Shape.Fits] at fits
    rcases fits with null | fits
    · exact absurd null given
    · exact ih fits
  | item item ts t s u listed inside ih =>
    simp only [Shape.Fits] at fits
    obtain ⟨ts', same, all⟩ := fits
    cases same
    exact ih (all t listed)
  | member name fields ms key t shape s u field given inside ih =>
    simp only [Shape.Fits] at fits
    rcases fits with ⟨ms', same, admits, -⟩ | ⟨ts, same, -⟩
    · cases same
      exact ih (admitted_fits fields ms key t shape admits field given)
    · cases same
  | field name fields ts t shape s u given inside ih =>
    simp only [Shape.Fits] at fits
    rcases fits with ⟨ms, same, -⟩ | ⟨ts', same, fits⟩
    · cases same
    · cases same
      exact ih (listed_fits fields ts shape t fits given)

theorem Shape.proper_or_improper {s : Shape} {t : Sketch} (fits : s.Fits t) :
    s.Proper t ↔ ¬ s.Improper t := by
  cases s with
  | record name fields =>
    simp only [Shape.Fits] at fits
    rcases fits with ⟨ms, rfl, -⟩ | ⟨ts, rfl, -⟩ <;> simp [Shape.Proper, Shape.Improper]
  | choice tags =>
    simp only [Shape.Fits] at fits
    obtain ⟨tag, listed, rfl | rfl⟩ := fits <;> simp [Shape.Proper, Shape.Improper, listed]
  | _ => simp [Shape.Proper, Shape.Improper]

end Retrofit.Json
