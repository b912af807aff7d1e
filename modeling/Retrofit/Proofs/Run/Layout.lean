import Retrofit.Run.Layout

/-! What is found at a place after all artifacts have been put there, and in which order the places
come. -/
namespace Retrofit.Layout

theorem lookup_put_same (path content : String) (placed : List (String × String)) :
    (put path content placed).lookup path = some content := by
  induction placed with
  | nil => simp [put]
  | cons entry rest ih =>
    obtain ⟨p, c⟩ := entry
    unfold put
    split
    · simp
    · rename_i other
      split
      · simp
      · rw [List.lookup_cons, beq_eq_false_iff_ne.mpr other]
        exact ih

theorem lookup_put_other {path place : String} (other : place ≠ path) (content : String)
    (placed : List (String × String)) :
    (put path content placed).lookup place = placed.lookup place := by
  have away : (place == path) = false := beq_eq_false_iff_ne.mpr other
  induction placed with
  | nil => simp [put, List.lookup_cons, away]
  | cons entry rest ih =>
    obtain ⟨p, c⟩ := entry
    unfold put
    split
    · rename_i same
      subst same
      simp [List.lookup_cons, away]
    · split
      · rw [List.lookup_cons, away]
      · rw [List.lookup_cons, List.lookup_cons, ih]

theorem append_ne_append (base : String) {s t : String} (other : s ≠ t) : base ++ s ≠ base ++ t := by
  intro same
  have lists := congrArg String.toList same
  rw [String.toList_append, String.toList_append] at lists
  exact other (String.toList_inj.mp (List.append_cancel_left lists))

/-- The document of the project stands at its place, whatever names the model has chosen. -/
theorem project_stored (base : String) (s : Source) (a : Artifacts) :
    (files base s a).lookup s!"{base}/analysis/ir.json" = some a.project.pretty := by
  have apart : s!"{base}/analysis/ir.json" ≠ s!"{base}/analysis/ANALYSIS.md" :=
    append_ne_append base (by decide)
  unfold files entries
  rw [List.foldl_append]
  simp only [List.foldl_cons, List.foldl_nil]
  rw [lookup_put_other apart, lookup_put_same]

/-! The order of the places -/

theorem mem_of_mem_put {path content : String} {placed : List (String × String)}
    {entry : String × String} (member : entry ∈ put path content placed) :
    entry = (path, content) ∨ entry ∈ placed := by
  induction placed with
  | nil => exact .inl (List.mem_singleton.mp member)
  | cons other rest ih =>
    obtain ⟨p, c⟩ := other
    unfold put at member
    split at member
    · rw [List.mem_cons] at member
      exact member.imp_right (List.mem_cons_of_mem _)
    · split at member
      · exact List.mem_cons.mp member
      · rw [List.mem_cons] at member
        rcases member with rfl | later
        · exact .inr List.mem_cons_self
        · exact (ih later).imp_right (List.mem_cons_of_mem _)

/-- No place comes twice, and they come in the order of the paths. -/
def Sorted (placed : List (String × String)) : Prop :=
  placed.Pairwise fun x y => x.1 < y.1

theorem put_sorted (path content : String) {placed : List (String × String)}
    (sorted : Sorted placed) : Sorted (put path content placed) := by
  induction placed with
  | nil => exact List.pairwise_singleton _ _
  | cons other rest ih =>
    obtain ⟨p, c⟩ := other
    obtain ⟨first, later⟩ := List.pairwise_cons.mp sorted
    unfold put
    split
    · rename_i same
      subst same
      exact List.pairwise_cons.mpr ⟨first, later⟩
    · rename_i other
      split
      · rename_i before
        refine List.pairwise_cons.mpr ⟨?_, List.pairwise_cons.mpr ⟨first, later⟩⟩
        rw [List.forall_mem_cons]
        exact ⟨before, fun entry member => String.lt_trans before (first entry member)⟩
      · rename_i behind
        have after : p < path :=
          Std.lt_of_le_of_ne (String.not_lt.mp behind) (Ne.symm other)
        refine List.pairwise_cons.mpr ⟨?_, ih later⟩
        intro entry member
        rcases mem_of_mem_put member with rfl | old
        · exact after
        · exact first entry old

theorem put_perm {path : String} (content : String) {placed : List (String × String)}
    (new : path ∉ placed.map (·.1)) : (put path content placed).Perm ((path, content) :: placed) := by
  induction placed with
  | nil => exact .refl _
  | cons other rest ih =>
    obtain ⟨p, c⟩ := other
    rw [List.map_cons, List.mem_cons, not_or] at new
    unfold put
    rw [if_neg new.1]
    split
    · exact .refl _
    · have moved := (ih new.2).cons (p, c)
      exact moved.trans (.swap _ _ _)

theorem files_sorted (base : String) (s : Source) (a : Artifacts) : Sorted (files base s a) := by
  have all (es placed : List (String × String)) (sorted : Sorted placed) :
      Sorted (es.foldl (fun placed entry => put entry.1 entry.2 placed) placed) := by
    induction es generalizing placed with
    | nil => exact sorted
    | cons entry es ih => exact ih _ (put_sorted entry.1 entry.2 sorted)
  exact all (entries base s a) [] List.Pairwise.nil

theorem foldl_put_perm {es placed : List (String × String)}
    (distinct : ((es ++ placed).map (·.1)).Nodup) :
    (es.foldl (fun placed entry => put entry.1 entry.2 placed) placed).Perm (es ++ placed) := by
  induction es generalizing placed with
  | nil => exact .refl _
  | cons entry es ih =>
    obtain ⟨path, content⟩ := entry
    rw [List.cons_append, List.map_cons, List.nodup_cons] at distinct
    have new : path ∉ placed.map (·.1) := by
      intro old
      rw [List.map_append] at distinct
      exact distinct.1 (List.mem_append_right _ old)
    -- the entry moves from those to come to those that are there, and all places remain apart
    have moved : (es ++ put path content placed).Perm ((path, content) :: (es ++ placed)) :=
      ((put_perm content new).append_left es).trans List.perm_middle
    have apart : ((es ++ put path content placed).map (·.1)).Nodup := by
      rw [(moved.map _).nodup_iff, List.map_cons, List.nodup_cons]
      exact distinct
    exact (ih apart).trans moved

/-- Artifacts with places of their own are all there. -/
theorem files_perm {base : String} {s : Source} {a : Artifacts}
    (distinct : ((entries base s a).map (·.1)).Nodup) :
    (files base s a).Perm (entries base s a) := by
  have all := @foldl_put_perm (entries base s a) [] (by rwa [List.append_nil])
  rwa [List.append_nil] at all

end Retrofit.Layout
