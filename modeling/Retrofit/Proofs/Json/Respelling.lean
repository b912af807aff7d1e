import Mathlib.Data.List.Perm.Basic
import Retrofit.Proofs.Json.Meaning

/-! Other ways to write the same document. What a value means by a schema does not depend on the order of
members, on members that the schema does not name, or on whether an empty field is written or left out. -/
namespace Retrofit.Json

/-- The shape of a value that is not null. -/
def Shape.core : Shape → Shape
  | .optional item => item.core
  | s => s

/-- What is asked for at some place of a document, if anything is. -/
abbrev Place := Option Shape

/-- The fields of the record that an object at the place stands for. -/
def Place.fields? (place : Place) : Option Fields :=
  match place.map Shape.core with
  | some (.record _ fields) => some fields
  | _ => none

/-- The place of the member with the given key. -/
def Place.member (place : Place) (key : String) : Place :=
  place.fields?.bind (·.shape? key)

/-- The place of item `i` of an array, which may be the list of the fields of a record. -/
def Place.item (place : Place) (i : Nat) : Place :=
  match place.map Shape.core with
  | some (.list item) => some item
  | some (.record _ fields) => fields.shapes[i]?
  | _ => none

/-- The value that is as good as nothing. -/
def Shape.blank? : Shape → Option Value
  | .optional _ => some .null
  | .list _ => some (.array [])
  | _ => none

/-- The second value is the first in another spelling: members have been reordered, or put in that are
not known or that are blank and may be left out, in it or anywhere inside it. -/
inductive Respelled : Place → Value → Value → Prop
  | refl (place v) : Respelled place v v
  | symm (place v w) (back : Respelled place w v) : Respelled place v w
  | trans (place u v w) (first : Respelled place u v) (second : Respelled place v w) :
      Respelled place u w
  | reordered (place ms ms') (order : List.Perm ms ms') :
      Respelled place (.object ms) (.object ms')
  | extended (place fields key x ms) (record : Place.fields? place = some fields)
      (unknown : Fields.shape? fields key = none) :
      Respelled place (.object ms) (.object ((key, x) :: ms))
  | completed (place fields key shape x ms) (record : Place.fields? place = some fields)
      (field : Fields.shape? fields key = some shape) (free : ¬ Fields.Requires fields key)
      (blank : Shape.blank? shape = some x) (absent : key ∉ ms.map (·.1)) :
      Respelled place (.object ms) (.object ((key, x) :: ms))
  | member (place key x y ms) (inside : Respelled (Place.member place key) x y) :
      Respelled place (.object ((key, x) :: ms)) (.object ((key, y) :: ms))
  | item (place before x y after) (inside : Respelled (Place.item place before.length) x y) :
      Respelled place (.array (before ++ x :: after)) (.array (before ++ y :: after))

/-- Neither value is null alone, and they mean the same by what is asked for. -/
structure Alike (place : Place) (t u : Sketch) : Prop where
  null : t = .null ↔ u = .null
  meaning : ∀ s ∈ place, ∀ x, s.Means t x ↔ s.Means u x

namespace Alike

variable {place : Place} {t u w : Sketch}

theorem refl (place : Place) (t : Sketch) : Alike place t t :=
  ⟨Iff.rfl, fun _ _ _ => Iff.rfl⟩

theorem symm (alike : Alike place t u) : Alike place u t :=
  ⟨alike.null.symm, fun s asked x => (alike.meaning s asked x).symm⟩

theorem trans (alike : Alike place t u) (alike' : Alike place u w) : Alike place t w :=
  ⟨alike.null.trans alike'.null,
    fun s asked x => (alike.meaning s asked x).trans (alike'.meaning s asked x)⟩

end Alike

/-! The members of a record -/

section Members

variable {key : String} {t u : Sketch} {ms ms' : Entries}

theorem named_perm (order : ms.Perm ms') (key : String) : (named key ms).Perm (named key ms') :=
  (order.filter _).map _

theorem meanMembers_perm : (fs : Fields) → {ms ms' : Entries} → ms.Perm ms' → (x : fs.Content) →
    (fs.MeanMembers ms x ↔ fs.MeanMembers ms' x)
  | .nil, _, _, order, _ => by
    simp only [Fields.MeanMembers]
    exact ⟨fun all m member => all m (order.mem_iff.mpr member),
      fun all m member => all m (order.mem_iff.mp member)⟩
  | .cons key presence shape rest, ms, ms', order, (x, more) => by
    have names := named_perm order key
    have one (t : Sketch) : named key ms = [t] ↔ named key ms' = [t] :=
      ⟨fun same => List.perm_singleton.mp ((same ▸ names).symm),
        fun same => List.perm_singleton.mp (same ▸ names)⟩
    have none : named key ms = [] ↔ named key ms' = [] :=
      ⟨fun same => List.nil_perm.mp (same ▸ names), fun same => List.perm_nil.mp (same ▸ names)⟩
    have others := meanMembers_perm rest (order.filter (!isNamed key ·.1)) more
    simp only [Fields.MeanMembers]
    rw [none]
    simp only [one]
    exact and_congr_right' others

theorem meanMembers_unknown : (fs : Fields) → (ms : Entries) → fs.shape? key = none → (x : fs.Content) →
    (fs.MeanMembers ((.ok key, t) :: ms) x ↔ fs.MeanMembers ms x)
  | .nil, ms, _, _ => by
    simp only [Fields.MeanMembers, List.forall_mem_cons]
    exact and_iff_right ⟨key, rfl⟩
  | .cons k presence shape rest, ms, unknown, (x, more) => by
    unfold Fields.shape? at unknown
    split at unknown
    · cases unknown
    · rename_i other
      simp only [Fields.MeanMembers]
      rw [named_cons_other other, without_cons_other other,
        meanMembers_unknown rest (without k ms) unknown more]

theorem meanMembers_member : (fs : Fields) → (ms : Entries) → Alike (fs.shape? key) t u →
    (x : fs.Content) →
    (fs.MeanMembers ((.ok key, t) :: ms) x ↔ fs.MeanMembers ((.ok key, u) :: ms) x)
  | .nil, ms, _, _ => by
    simp only [Fields.MeanMembers, List.forall_mem_cons]
  | .cons k presence shape rest, ms, alike, (x, more) => by
    unfold Fields.shape? at alike
    simp only [Fields.MeanMembers]
    by_cases same : key = k
    · subst same
      rw [if_pos rfl] at alike
      rw [named_cons_same, named_cons_same, without_cons_same, without_cons_same]
      simp only [List.cons.injEq, reduceCtorEq, false_and, or_false]
      apply and_congr_left'
      refine ⟨?_, ?_⟩
      · rintro ⟨_, ⟨rfl, none⟩, meant⟩
        exact ⟨u, ⟨rfl, none⟩, (alike.meaning shape rfl x).mp meant⟩
      · rintro ⟨_, ⟨rfl, none⟩, meant⟩
        exact ⟨t, ⟨rfl, none⟩, (alike.meaning shape rfl x).mpr meant⟩
    · rw [if_neg same] at alike
      rw [named_cons_other same, named_cons_other same, without_cons_other same,
        without_cons_other same, meanMembers_member rest (without k ms) alike more]

theorem means_blank {shape : Shape} {v : Value} (blank : shape.blank? = some v) (x : shape.Content) :
    shape.Means v.sketch x ↔ shape.absent? = some x := by
  cases shape with
  | optional item =>
    cases blank
    cases x with
    | none => simp [Shape.Means, Value.sketch, Shape.absent?]
    | some y => simp [Shape.Means, Value.sketch, Shape.absent?]
  | list item =>
    cases blank
    simp [Shape.Means, Value.sketch, sketchItems, Shape.absent?, List.forall₂_nil_left_iff, eq_comm]
  | _ => cases blank

theorem meanMembers_blank {v : Value} : (fs : Fields) → (ms : Entries) → (shape : Shape) →
    fs.shape? key = some shape → ¬ fs.Requires key → shape.blank? = some v → named key ms = [] →
    (x : fs.Content) → (fs.MeanMembers ms x ↔ fs.MeanMembers ((.ok key, v.sketch) :: ms) x)
  | .nil, _, _, field, _, _, _, _ => by cases field
  | .cons k presence first rest, ms, shape, field, free, blank, absent, (x, more) => by
    unfold Fields.shape? at field
    unfold Fields.Requires at free
    simp only [Fields.MeanMembers]
    by_cases same : key = k
    · subst same
      rw [if_pos rfl] at field free
      cases field
      rw [not_or] at free
      rw [named_cons_same, without_cons_same, absent]
      simp only [reduceCtorEq, false_and, exists_false, false_or, true_and, or_false, List.cons.injEq,
        and_true, ← means_blank blank]
      apply and_congr_left'
      rw [and_iff_right free.1]
      simp
    · rw [if_neg same] at field free
      rw [named_cons_other same, without_cons_other same]
      apply and_congr_right'
      apply meanMembers_blank rest (without k ms) shape field free blank
      rw [named_without same, absent]

theorem named_of_absent {vs : List (String × Value)} (absent : key ∉ vs.map (·.1)) :
    named key (sketchMembers vs) = [] := by
  rw [List.eq_nil_iff_forall_not_mem]
  intro t member
  rw [mem_named, sketchMembers_eq_map] at member
  obtain ⟨m, inside, same⟩ := List.mem_map.mp member
  cases same
  exact absent (List.mem_map.mpr ⟨m, inside, rfl⟩)

end Members

/-! The items of an array -/

section Items

variable {t u : Sketch} {after : List Sketch}

theorem forall₂_item {α : Type} {R : Sketch → α → Prop} (alike : ∀ x, R t x ↔ R u x)
    (before : List Sketch) (xs : List α) :
    List.Forall₂ R (before ++ t :: after) xs ↔ List.Forall₂ R (before ++ u :: after) xs := by
  induction before generalizing xs with
  | nil =>
    rw [List.nil_append, List.nil_append, List.forall₂_cons_left_iff, List.forall₂_cons_left_iff]
    simp only [alike]
  | cons b before ih =>
    rw [List.cons_append, List.cons_append, List.forall₂_cons_left_iff, List.forall₂_cons_left_iff]
    simp only [ih]

theorem meanItems_item : (fs : Fields) → (before : List Sketch) →
    Alike fs.shapes[before.length]? t u → (x : fs.Content) →
    (fs.MeanItems (before ++ t :: after) x ↔ fs.MeanItems (before ++ u :: after) x)
  | .nil, before, _, _ => by
    simp [Fields.MeanItems]
  | .cons key presence shape rest, [], alike, x => by
    simp only [List.nil_append, Fields.MeanItems]
    rw [alike.meaning shape rfl]
  | .cons key presence shape rest, b :: before, alike, x => by
    simp only [List.cons_append, Fields.MeanItems]
    rw [meanItems_item rest before alike]

end Items

/-! What is asked for at a place -/

theorem core_not_optional (item : Shape) : (s : Shape) → s.core ≠ .optional item
  | .optional inner => core_not_optional item inner
  | .text | .flag | .count | .real | .choice _ | .list _ | .record .. => nofun

theorem means_of_core {t u : Sketch} (solid : t ≠ .null) (solid' : u ≠ .null) : (s : Shape) →
    (∀ x, s.core.Means t x ↔ s.core.Means u x) → ∀ x, s.Means t x ↔ s.Means u x
  | .optional item, same, none => iff_of_false solid solid'
  | .optional item, same, some y => by
    simp only [Shape.Means]
    rw [and_iff_right solid, and_iff_right solid']
    exact means_of_core solid solid' item same y
  | .text, same, x | .flag, same, x | .count, same, x | .real, same, x | .choice _, same, x
  | .list _, same, x | .record .., same, x => same x

section Places

variable {place : Place} {name : String} {fields : Fields}

theorem fields_of_core {s : Shape} (core : s.core = .record name fields) :
    Place.fields? (some s) = some fields := by
  simp [Place.fields?, core]

theorem means_object {ms : Entries} {x : fields.Content} :
    (Shape.record name fields).Means (.object ms) x ↔ fields.MeanMembers ms x := by
  simp only [Shape.Means]
  refine ⟨?_, fun meant => .inl ⟨ms, rfl, meant⟩⟩
  rintro (⟨ms, same, meant⟩ | ⟨ts, same, -⟩)
  · cases same
    exact meant
  · cases same

theorem means_array {ts : List Sketch} {x : fields.Content} :
    (Shape.record name fields).Means (.array ts) x ↔ fields.MeanItems ts x := by
  simp only [Shape.Means]
  refine ⟨?_, fun meant => .inr ⟨ts, rfl, meant⟩⟩
  rintro (⟨ms, same, -⟩ | ⟨ts, same, meant⟩)
  · cases same
  · cases same
    exact meant

theorem alike_objects {ms ms' : Entries}
    (record : ∀ fields ∈ place.fields?, ∀ x, fields.MeanMembers ms x ↔ fields.MeanMembers ms' x)
    (tag : place.fields? = none → ∀ tag, ms = [(.ok tag, .null)] ↔ ms' = [(.ok tag, .null)]) :
    Alike place (.object ms) (.object ms') := by
  have solid (ms : Entries) : Sketch.object ms ≠ .null := nofun
  refine ⟨iff_of_false (solid ms) (solid ms'), ?_⟩
  rintro s rfl
  apply means_of_core (solid ms) (solid ms') s
  cases core : s.core with
  | record name fields =>
    intro x
    rw [means_object, means_object]
    exact record fields (fields_of_core core) x
  | choice tags =>
    intro i
    have unasked : Place.fields? (some s) = none := by simp [Place.fields?, core]
    simp only [Shape.Means, reduceCtorEq, false_or, Sketch.object.injEq]
    simp only [tag unasked]
  | optional item => exact absurd core (core_not_optional item s)
  | _ => simp [Shape.Means]

theorem alike_arrays {before after : List Sketch} {t u : Sketch}
    (inside : Alike (place.item before.length) t u) :
    Alike place (.array (before ++ t :: after)) (.array (before ++ u :: after)) := by
  have solid (ts : List Sketch) : Sketch.array ts ≠ .null := nofun
  refine ⟨iff_of_false (solid _) (solid _), ?_⟩
  rintro s rfl
  apply means_of_core (solid _) (solid _) s
  cases core : s.core with
  | record name fields =>
    intro x
    rw [means_array, means_array]
    have asked : Place.item (some s) before.length = fields.shapes[before.length]? := by
      simp [Place.item, core]
    rw [asked] at inside
    exact meanItems_item fields before inside x
  | list item =>
    intro xs
    have asked : Place.item (some s) before.length = some item := by
      simp [Place.item, core]
    rw [asked] at inside
    simp only [Shape.Means, Sketch.array.injEq, exists_eq_left']
    exact forall₂_item (inside.meaning item rfl) before xs
  | optional item => exact absurd core (core_not_optional item s)
  | _ => simp [Shape.Means]

end Places

/-- What is only spelled otherwise means the same. -/
theorem Respelled.alike {place : Place} {v w : Value} (respelled : Respelled place v w) :
    Alike place v.sketch w.sketch := by
  induction respelled with
  | refl place v => exact .refl place v.sketch
  | symm place v w back ih => exact ih.symm
  | trans place u v w first second ih ih' => exact ih.trans ih'
  | reordered place ms ms' order =>
    have order : List.Perm (sketchMembers ms) (sketchMembers ms') := by
      rw [sketchMembers_eq_map, sketchMembers_eq_map]
      exact order.map _
    simp only [Value.sketch]
    apply alike_objects
    · exact fun fields _ x => meanMembers_perm fields order x
    · intro _ tag
      exact ⟨fun same => List.perm_singleton.mp (same ▸ order.symm),
        fun same => List.perm_singleton.mp (same ▸ order)⟩
  | extended place fields key x ms record unknown =>
    simp only [Value.sketch, sketchMembers]
    apply alike_objects
    · intro fields' record' x'
      cases record.symm.trans record'
      exact (meanMembers_unknown fields _ unknown x').symm
    · intro unasked
      cases record.symm.trans unasked
  | completed place fields key shape x ms record field free blank absent =>
    have absent := named_of_absent absent
    simp only [Value.sketch, sketchMembers]
    apply alike_objects
    · intro fields' record' x'
      cases record.symm.trans record'
      exact meanMembers_blank fields _ shape field free blank absent x'
    · intro unasked
      cases record.symm.trans unasked
  | member place key x y ms inside ih =>
    simp only [Value.sketch, sketchMembers]
    apply alike_objects
    · intro fields record
      rw [Place.member, record] at ih
      exact meanMembers_member fields _ ih
    · intro _ tag
      rw [List.cons_eq_cons, List.cons_eq_cons, Prod.mk.injEq, Prod.mk.injEq, ih.null]
  | item place before x y after inside ih =>
    simp only [Value.sketch, sketchItems_eq_map, List.map_append, List.map_cons]
    apply alike_arrays
    rw [List.length_map]
    exact ih

end Retrofit.Json
