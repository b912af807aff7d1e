import Mathlib.Data.List.TakeWhile
import Retrofit.Response.Analysis

/-! What a project has to satisfy besides its schema, and which defect is named when it does not. -/
namespace Retrofit

theorem Response.payload_ok_iff {raw text : String} :
    Response.payload raw = .ok text ↔ Response.unfenced raw = text ∧ ∃ v, Json.parse text = .ok v := by
  unfold Response.payload
  dsimp only
  refine ⟨?_, ?_⟩
  · intro ok
    split at ok
    · rename_i v parsed
      cases ok
      exact ⟨rfl, v, parsed⟩
    · cases ok
  · rintro ⟨rfl, v, parsed⟩
    rw [parsed]

theorem Chars.trim_eq_nil_iff (cs : List Char) :
    Chars.trim cs = [] ↔ ∀ c ∈ cs, Chars.isBlank c = true := by
  unfold Chars.trim Chars.trimRight
  rw [List.reverse_eq_nil_iff, List.dropWhile_eq_nil_iff]
  refine ⟨?_, ?_⟩
  · intro rest c member
    by_contra solid
    have split := List.takeWhile_append_dropWhile (p := Chars.isBlank) (l := cs)
    rw [← split, List.mem_append] at member
    rcases member with front | behind
    · exact solid (List.mem_takeWhile_imp front)
    · exact solid (rest c (List.mem_reverse.mpr behind))
  · intro all c member
    exact all c ((List.dropWhile_sublist _).subset (List.mem_reverse.mp member))

theorem Text.isBlank_iff_trim (s : String) : Text.isBlank s = true ↔ Text.trim s = "" := by
  unfold Text.isBlank Text.trim
  rw [List.all_eq_true, ← Chars.trim_eq_nil_iff]
  refine ⟨?_, ?_⟩
  · intro empty
    rw [empty]
  · intro empty
    have same := congrArg String.toList empty
    rw [String.toList_ofList] at same
    exact same

/-- Nothing but white space describes the function. -/
def Function.Undescribed (f : Function) : Prop :=
  Text.trim f.description = ""

instance (f : Function) : Decidable f.Undescribed :=
  inferInstanceAs (Decidable (Text.trim f.description = ""))

namespace Project

/-- The project has a module, and every function is described. -/
structure Usable (p : Project) : Prop where
  inhabited : p.modules ≠ []
  described : ∀ m ∈ p.modules, ∀ f ∈ m.functions, ¬ f.Undescribed

def function? (p : Project) (i j : Nat) : Option Function :=
  p.modules[i]?.bind fun m => m.functions[j]?

/-- Function `j` of module `i` is the first that is not described, module by module. -/
structure FirstUndescribed (p : Project) (i j : Nat) (f : Function) : Prop where
  place : p.function? i j = some f
  blank : f.Undescribed
  first : ∀ i' j' g, p.function? i' j' = some g → g.Undescribed → i < i' ∨ (i = i' ∧ j ≤ j')

theorem firstBlank_none {n : Nat} {fs : List Function} (none : firstBlank? n fs = none) :
    ∀ f ∈ fs, ¬ f.Undescribed := by
  induction fs generalizing n with
  | nil =>
    intro f member
    cases member
  | cons f fs ih =>
    unfold firstBlank? at none
    split at none
    · cases none
    · rename_i described
      rw [List.forall_mem_cons]
      refine ⟨?_, ih none⟩
      intro blank
      exact described ((Text.isBlank_iff_trim _).mpr blank)

theorem firstBlank_some {n i : Nat} {fs : List Function} {name : String}
    (found : firstBlank? n fs = some (i, name)) :
    ∃ k f, i = n + k ∧ fs[k]? = some f ∧ f.name = name ∧ f.Undescribed ∧
      ∀ j g, fs[j]? = some g → g.Undescribed → k ≤ j := by
  induction fs generalizing n with
  | nil => cases found
  | cons f fs ih =>
    unfold firstBlank? at found
    split at found
    · rename_i blank
      cases found
      exact ⟨0, f, rfl, rfl, rfl, (Text.isBlank_iff_trim _).mp blank, fun j g _ _ => Nat.zero_le j⟩
    · rename_i described
      obtain ⟨k, g, rfl, place, named, blank, first⟩ := ih found
      refine ⟨k + 1, g, by omega, place, named, blank, ?_⟩
      intro j h place' blank'
      cases j with
      | zero =>
        cases place'
        exact absurd ((Text.isBlank_iff_trim _).mpr blank') described
      | succ j =>
        have bound := first j h place' blank'
        omega

theorem firstBlankIn_none {n : Nat} {ms : List Module} (none : firstBlankIn? n ms = none) :
    ∀ m ∈ ms, ∀ f ∈ m.functions, ¬ f.Undescribed := by
  induction ms generalizing n with
  | nil =>
    intro m member
    cases member
  | cons m ms ih =>
    unfold firstBlankIn? at none
    split at none
    · cases none
    · rename_i described
      rw [List.forall_mem_cons]
      exact ⟨firstBlank_none described, ih none⟩

theorem firstBlankIn_some {n : Nat} {ms : List Module} {d : Defect}
    (found : firstBlankIn? n ms = some d) :
    ∃ k m j f, ms[k]? = some m ∧ m.functions[j]? = some f ∧ f.Undescribed ∧
      d = .blankDescription (n + k) j f.name ∧
      ∀ k' m' j' g, ms[k']? = some m' → m'.functions[j']? = some g → g.Undescribed →
        k < k' ∨ (k = k' ∧ j ≤ j') := by
  induction ms generalizing n with
  | nil => cases found
  | cons m ms ih =>
    unfold firstBlankIn? at found
    split at found
    · rename_i i name here
      cases found
      obtain ⟨j, f, rfl, place, rfl, blank, first⟩ := firstBlank_some here
      refine ⟨0, m, j, f, rfl, place, blank, by rw [Nat.zero_add, Nat.add_zero], ?_⟩
      intro k' m' j' g module' place' blank'
      cases k' with
      | zero =>
        cases module'
        exact .inr ⟨rfl, first j' g place' blank'⟩
      | succ k' => exact .inl (Nat.succ_pos k')
    · rename_i described
      obtain ⟨k, m₁, j, f, module₁, place, blank, rfl, first⟩ := ih found
      refine ⟨k + 1, m₁, j, f, module₁, place, blank, by rw [Nat.add_assoc, Nat.add_comm 1 k], ?_⟩
      intro k' m' j' g module' place' blank'
      cases k' with
      | zero =>
        cases module'
        exact absurd blank' (firstBlank_none described g (List.mem_of_getElem? place'))
      | succ k' =>
        have later := first k' m' j' g module' place' blank'
        omega

theorem defect_none_iff (p : Project) : p.defect? = none ↔ p.Usable := by
  unfold defect?
  refine ⟨?_, ?_⟩
  · intro none
    split at none
    · cases none
    · rename_i inhabited
      exact ⟨by simpa using inhabited, firstBlankIn_none none⟩
  · intro given
    rcases given with ⟨inhabited, described⟩
    rw [if_neg (by simpa using inhabited)]
    cases found : firstBlankIn? 0 p.modules with
    | none => rfl
    | some d =>
      obtain ⟨k, m, j, f, module, place, blank, -⟩ := firstBlankIn_some found
      exact absurd blank
        (described m (List.mem_of_getElem? module) f (List.mem_of_getElem? place))

/-- A project that is not usable has no modules, or its first undescribed function is named. -/
theorem defect_some {p : Project} {d : Defect} (found : p.defect? = some d) :
    (p.modules = [] ∧ d = .noModules) ∨
      ∃ i j f, p.FirstUndescribed i j f ∧ p.modules ≠ [] ∧ d = .blankDescription i j f.name := by
  unfold defect? at found
  split at found
  · rename_i empty
    cases found
    exact .inl ⟨List.isEmpty_iff.mp empty, rfl⟩
  · rename_i inhabited
    obtain ⟨k, m, j, f, module, place, blank, rfl, first⟩ := firstBlankIn_some found
    rw [Nat.zero_add]
    refine .inr ⟨k, j, f, ⟨?_, blank, ?_⟩, by simpa using inhabited, rfl⟩
    · rw [function?, module]
      exact place
    · intro i' j' g place' blank'
      obtain ⟨m', module', place'⟩ := Option.bind_eq_some_iff.mp place'
      exact first i' m' j' g module' place' blank'

/-! Outcomes -/

theorem validateFrom_of_decode {payload : String} {p : Project} (raw : String)
    (decoded : Project.decode payload = .ok p) :
    validateFrom raw payload =
      match p.defect? with
      | some d => .error (.schemaFrom d.message raw)
      | none => .ok p := by
  cases found : p.defect? <;> simp only [validateFrom, decoded, found]

theorem validateFrom_ok {raw payload : String} {p : Project}
    (ok : validateFrom raw payload = .ok p) : Project.decode payload = .ok p ∧ p.Usable := by
  unfold validateFrom at ok
  split at ok
  · cases ok
  · rename_i decoded
    split at ok
    · cases ok
    · rename_i sound
      cases ok
      exact ⟨decoded, (defect_none_iff p).mp sound⟩

theorem ofResponse_ok {raw : String} {p : Project} (ok : Project.ofResponse raw = .ok p) :
    ∃ payload, Response.payload raw = .ok payload ∧ Project.decode payload = .ok p ∧ p.Usable := by
  unfold Project.ofResponse at ok
  cases read : Response.payload raw with
  | error f =>
    rw [read] at ok
    cases ok
  | ok payload =>
    rw [read] at ok
    exact ⟨payload, rfl, validateFrom_ok ok⟩

end Project

end Retrofit
