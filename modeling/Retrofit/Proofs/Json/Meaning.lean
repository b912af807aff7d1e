import Mathlib.Data.List.Forall2
import Retrofit.Proofs.Json.Form

/-! What a value means by a schema: the content it has, told without reading it from left to right. The
items of a list are taken in their order, and the members of a record by their names. -/
namespace Retrofit.Json

mutual

/-- The value means the content. -/
def Shape.Means : (s : Shape) → Sketch → s.Content → Prop
  | .text, t, x => t = .text (.ok x)
  | .flag, t, b => t = .bool b
  | .count, t, n => t = .number (.ok (.integer n.val))
  | .real, t, x => ∃ n, t = .number (.ok n) ∧ n.toReal = x
  | .choice tags, t, i =>
    ∃ tag, tagIndex tags tag = .ok i ∧ (t = .text (.ok tag) ∨ t = .object [(.ok tag, .null)])
  | .optional item, t, x =>
    match x with
    | none => t = .null
    | some y => t ≠ .null ∧ item.Means t y
  | .list item, t, xs => ∃ ts, t = .array ts ∧ List.Forall₂ item.Means ts xs
  | .record _ fields, t, x =>
    (∃ ms, t = .object ms ∧ fields.MeanMembers ms x) ∨ ∃ ts, t = .array ts ∧ fields.MeanItems ts x

/-- Each field holds what the one member of its name means, or what it holds when it is left out. -/
def Fields.MeanMembers : (fs : Fields) → Entries → fs.Content → Prop
  | .nil, ms, _ => ∀ m ∈ ms, ∃ key, m.1 = .ok key
  | .cons key presence shape rest, ms, (x, more) =>
    ((∃ t, named key ms = [t] ∧ shape.Means t x) ∨
        (named key ms = [] ∧ presence ≠ .always ∧ shape.absent? = some x)) ∧
      rest.MeanMembers (without key ms) more

/-- The fields in order. The list may end early if all the fields behind may be left out. -/
def Fields.MeanItems : (fs : Fields) → List Sketch → fs.Content → Prop
  | .nil, ts, _ => ts = []
  | .cons key presence shape rest, ts, x =>
    match ts with
    | [] => (Fields.cons key presence shape rest).allAbsent? = some x
    | t :: ts => shape.Means t x.1 ∧ rest.MeanItems ts x.2

end

/-! Meaning and reading -/

section Leaves

variable (t : Sketch)

theorem toText_eq_ok_iff {s : String} : t.toText = .ok s ↔ t = .text (.ok s) := by
  refine ⟨?_, ?_⟩
  · intro ok
    obtain ⟨s', rfl⟩ := (toText_ok_iff t).mp ⟨s, ok⟩
    cases ok
    rfl
  · rintro rfl
    rfl

theorem toFlag_eq_ok_iff {b : Bool} : t.toFlag = .ok b ↔ t = .bool b := by
  refine ⟨?_, ?_⟩
  · intro ok
    obtain ⟨b', rfl⟩ := (toFlag_ok_iff t).mp ⟨b, ok⟩
    cases ok
    rfl
  · rintro rfl
    rfl

theorem toCount_eq_ok_iff {n : Fin UInt64.size} :
    t.toCount = .ok n ↔ t = .number (.ok (.integer n.val)) := by
  refine ⟨?_, ?_⟩
  · intro ok
    obtain ⟨k, fits, rfl⟩ := (toCount_ok_iff t).mp ⟨n, ok⟩
    simp only [Sketch.toCount, wordOf_natCast fits] at ok
    cases ok
    rfl
  · rintro rfl
    simp only [Sketch.toCount]
    rw [wordOf_natCast n.isLt]

theorem toReal_eq_ok_iff {x : Binary64} :
    t.toReal = .ok x ↔ ∃ n, t = .number (.ok n) ∧ n.toReal = x := by
  refine ⟨?_, ?_⟩
  · intro ok
    obtain ⟨n, rfl⟩ := (toReal_ok_iff t).mp ⟨x, ok⟩
    cases ok
    exact ⟨n, rfl, rfl⟩
  · rintro ⟨n, rfl, rfl⟩
    rfl

theorem toTag_eq_ok_iff (tags : List String) {i : Fin tags.length} :
    t.toTag tags = .ok i ↔
      ∃ tag, tagIndex tags tag = .ok i ∧
        (t = .text (.ok tag) ∨ t = .object [(.ok tag, .null)]) := by
  have text (tag : String) : (Sketch.text (.ok tag)).toTag tags = tagIndex tags tag := by
    cases indexed : tagIndex tags tag <;> simp only [Sketch.toTag, bind, Except.bind, indexed]
  have object (tag : String) : (Sketch.object [(.ok tag, .null)]).toTag tags = tagIndex tags tag := by
    cases indexed : tagIndex tags tag <;> simp only [Sketch.toTag, bind, Except.bind, indexed]
    rfl
  refine ⟨?_, ?_⟩
  · intro ok
    obtain ⟨tag, -, rfl | rfl⟩ := (toTag_ok_iff t tags).mp ⟨i, ok⟩
    · rw [text] at ok
      exact ⟨tag, ok, .inl rfl⟩
    · rw [object] at ok
      exact ⟨tag, ok, .inr rfl⟩
  · rintro ⟨tag, indexed, rfl | rfl⟩
    · rw [text, indexed]
    · rw [object, indexed]

end Leaves

theorem mapM_eq_ok_iff {α β ε : Type} {f : α → Except ε β} {ts : List α} {xs : List β} :
    ts.mapM f = .ok xs ↔ List.Forall₂ (fun t x => f t = .ok x) ts xs := by
  induction ts generalizing xs with
  | nil =>
    rw [List.forall₂_nil_left_iff]
    exact ⟨fun ok => (Except.ok.inj ok).symm, fun empty => congrArg Except.ok empty.symm⟩
  | cons t ts ih =>
    rw [List.mapM_cons, bind_ok_iff, List.forall₂_cons_left_iff]
    refine exists_congr fun x => ?_
    rw [bind_ok_iff]
    refine ⟨?_, ?_⟩
    · rintro ⟨read, xs', others, same⟩
      exact ⟨xs', read, ih.mp others, (Except.ok.inj same).symm⟩
    · rintro ⟨xs', read, others, rfl⟩
      exact ⟨read, xs', ih.mpr others, rfl⟩

mutual

/-- A value is read as the content that it means. -/
theorem Shape.means_iff (s : Shape) (t : Sketch) (x : s.Content) :
    s.Means t x ↔ s.interpret t = .ok x := by
  cases s with
  | text =>
    simp only [Shape.Means, Shape.interpret]
    exact (toText_eq_ok_iff t).symm
  | flag =>
    simp only [Shape.Means, Shape.interpret]
    exact (toFlag_eq_ok_iff t).symm
  | count =>
    simp only [Shape.Means, Shape.interpret]
    exact (toCount_eq_ok_iff t).symm
  | real =>
    simp only [Shape.Means, Shape.interpret]
    exact (toReal_eq_ok_iff t).symm
  | choice tags =>
    simp only [Shape.Means, Shape.interpret]
    exact (toTag_eq_ok_iff t tags).symm
  | optional item =>
    simp only [Shape.Means, Shape.interpret]
    split
    · split
      · simp
      · rename_i other
        refine iff_of_false other ?_
        intro ok
        obtain ⟨y, -, impossible⟩ := map_ok_iff.mp ok
        cases impossible
    · rename_i y
      split
      · simp
      · rename_i other
        rw [and_iff_right other, Shape.means_iff item t y, map_ok_iff]
        simp
  | list item =>
    have same : item.Means = fun t x => item.interpret t = .ok x := by
      funext t x
      exact propext (Shape.means_iff item t x)
    simp only [Shape.Means]
    refine ⟨?_, ?_⟩
    · rintro ⟨ts, rfl, all⟩
      simp only [Shape.interpret]
      rw [same] at all
      exact mapM_eq_ok_iff.mpr all
    · intro ok
      obtain ⟨ts, rfl⟩ := array_of_interpret ok
      simp only [Shape.interpret] at ok
      rw [same]
      exact ⟨ts, rfl, mapM_eq_ok_iff.mp ok⟩
  | record name fields =>
    simp only [Shape.Means]
    refine ⟨?_, ?_⟩
    · rintro (⟨ms, rfl, meant⟩ | ⟨ts, rfl, meant⟩)
      · exact (object_interpreted name fields ms x).mpr ((Fields.meanMembers_iff fields ms x).mp meant)
      · exact (Fields.meanItems_iff fields name fields.size 0 ts x).mp meant
    · intro ok
      rcases object_or_array_of_interpret ok with ⟨ms, rfl⟩ | ⟨ts, rfl⟩
      · have read := (object_interpreted name fields ms x).mp ok
        exact .inl ⟨ms, rfl, (Fields.meanMembers_iff fields ms x).mpr read⟩
      · exact .inr ⟨ts, rfl, (Fields.meanItems_iff fields name fields.size 0 ts x).mpr ok⟩

theorem Fields.meanMembers_iff (fs : Fields) (ms : Entries) (x : fs.Content) :
    fs.MeanMembers ms x ↔ fs.Reads ms x := by
  match fs, x with
  | .nil, x => exact Iff.rfl
  | .cons key presence shape rest, (x, more) =>
    simp only [Fields.MeanMembers, Fields.Reads]
    rw [Fields.meanMembers_iff rest (without key ms) more]
    apply and_congr_left'
    apply or_congr_left
    apply exists_congr
    intro t
    rw [Shape.means_iff shape t x]

theorem Fields.meanItems_iff (fs : Fields) (name : String) (size seen : Nat) (ts : List Sketch)
    (x : fs.Content) : fs.MeanItems ts x ↔ fs.interpretItems name size seen ts = .ok x := by
  match fs, ts, x with
  | .nil, [], () =>
    simp only [Fields.MeanItems, Fields.interpretItems]
    simp
  | .nil, t :: ts, x =>
    simp only [Fields.MeanItems, Fields.interpretItems]
    simp
  | .cons key presence shape rest, [], x =>
    simp only [Fields.MeanItems, Fields.interpretItems]
    cases (Fields.cons key presence shape rest).allAbsent? <;> simp
  | .cons key presence shape rest, t :: ts, (x, more) =>
    simp only [Fields.MeanItems, Fields.interpretItems]
    rw [Shape.means_iff shape t x, Fields.meanItems_iff rest name size (seen + 1) ts more, bind_ok_iff]
    simp only [bind_ok_iff, pure, Except.pure, Except.ok.injEq, Prod.mk.injEq]
    refine ⟨?_, ?_⟩
    · rintro ⟨first, others⟩
      exact ⟨x, first, more, others, rfl, rfl⟩
    · rintro ⟨_, first, _, others, rfl, rfl⟩
      exact ⟨first, others⟩

end

theorem Shape.Means.unique {s : Shape} {t : Sketch} {x y : s.Content} (meant : s.Means t x)
    (meant' : s.Means t y) : x = y := by
  rw [Shape.means_iff] at meant meant'
  exact Except.ok.inj (meant.symm.trans meant')

end Retrofit.Json
