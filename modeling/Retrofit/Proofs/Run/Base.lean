import Mathlib.Data.List.Nodup
import Mathlib.Data.Nat.Find
import Mathlib.Data.List.Perm.Subperm
import Retrofit.Run.Layout

/-! Which base a file gets: the best of its names that no other file has. There are more names than files,
so that one is always free, and no two files of a batch get the same. -/
namespace Retrofit.Layout

/-- What stands behind the plain base in the names of a file: nothing, then the extension if there is one,
and then the numbers from 2 on. -/
def suffix : (extension : Option String) → Nat → String
  | _, 0 => ""
  | some extension, 1 => "_" ++ extension
  | some _, n + 2 => "_" ++ toString (n + 2)
  | none, n + 1 => "_" ++ toString (n + 2)

/-- The names for the base of a file, the best first. -/
def candidate (s : Source) (n : Nat) : String :=
  firstBase s ++ suffix (stemAndExtension (safeName s.filename)).2 n

/-- Name `n` of a file is free, and none of the better ones is. -/
structure FirstFree (s : Source) (taken : List String) (n : Nat) : Prop where
  free : candidate s n ∉ taken
  better : ∀ k < n, candidate s k ∈ taken

variable {s : Source} {taken : List String}

theorem candidate_zero (s : Source) : candidate s 0 = firstBase s := by
  unfold candidate
  cases (stemAndExtension (safeName s.filename)).2 <;> exact String.append_empty

theorem candidate_extension {e : String}
    (named : (stemAndExtension (safeName s.filename)).2 = some e) :
    candidate s 1 = secondBase s := by
  unfold candidate secondBase
  rw [named, suffix, ← String.append_assoc]
  rfl

theorem secondBase_of_none (plain : (stemAndExtension (safeName s.filename)).2 = none) :
    secondBase s = firstBase s := by
  unfold secondBase
  rw [plain]

theorem secondBase_of_some {e : String} (named : (stemAndExtension (safeName s.filename)).2 = some e) :
    secondBase s = firstBase s ++ "_" ++ e := by
  unfold secondBase
  rw [named]
  rfl

/-- The place of the first numbered name. -/
def firstNumbered (s : Source) : Nat :=
  if (stemAndExtension (safeName s.filename)).2.isSome then 2 else 1

theorem candidate_numbered (s : Source) (k : Nat) :
    candidate s (firstNumbered s + k) = numberedBase s (k + 2) := by
  have joined : firstBase s ++ ("_" ++ toString (k + 2)) = numberedBase s (k + 2) := by
    rw [← String.append_assoc]
    rfl
  unfold candidate firstNumbered
  cases (stemAndExtension (safeName s.filename)).2 with
  | some e =>
    rw [Option.isSome_some, if_pos rfl, Nat.add_comm, suffix, joined]
  | none =>
    rw [Option.isSome_none, if_neg Bool.false_ne_true, Nat.add_comm, suffix, joined]

theorem numberedBase_injective {m n : Nat} (same : numberedBase s m = numberedBase s n) : m = n := by
  have lists := congrArg String.toList same
  simp only [numberedBase, String.toList_append] at lists
  have digits : Nat.toDigits 10 m = Nat.toDigits 10 n :=
    String.ofList_inj.mp (String.toList_inj.mp (List.append_cancel_left lists))
  have value := congrArg (Nat.ofDigitChars 10 · 0) digits
  simpa [Nat.ofDigitChars_toDigits] using value

/-- Not all of the numbered names can be taken, since there are more of them than bases taken. -/
theorem exists_free_number (s : Source) (taken : List String) :
    ∃ k ≤ taken.length, numberedBase s (k + 2) ∉ taken := by
  -- otherwise one more number than there are bases would give bases that are taken
  by_contra none
  push Not at none
  let names := (List.range (taken.length + 1)).map fun k => numberedBase s (k + 2)
  have distinct : names.Nodup := by
    apply List.nodup_range.map
    intro k l same
    have numbers := numberedBase_injective same
    omega
  have inside : names ⊆ taken := by
    intro name member
    obtain ⟨k, bound, rfl⟩ := List.mem_map.mp member
    rw [List.mem_range] at bound
    exact none k (by omega)
  have size := distinct.length_le_of_subset inside
  simp only [names, List.length_map, List.length_range] at size
  omega

theorem exists_firstFree (s : Source) (taken : List String) :
    ∃ n ≤ taken.length + 2, FirstFree s taken n := by
  obtain ⟨k, bound, free⟩ := exists_free_number s taken
  rw [← candidate_numbered] at free
  have some_free : ∃ n, candidate s n ∉ taken := ⟨_, free⟩
  have start : firstNumbered s ≤ 2 := by
    unfold firstNumbered
    split <;> omega
  have least := Nat.find_min' some_free free
  refine ⟨Nat.find some_free, by omega, Nat.find_spec some_free, ?_⟩
  intro j before
  exact not_not.mp (Nat.find_min some_free before)

/-! The search -/

theorem numberedFrom_eq_some {names n : Nat} {base : String}
    (found : numberedFrom s taken names n = some base) :
    ∃ k < names, base = numberedBase s (n + k) ∧ base ∉ taken ∧
      ∀ j < k, numberedBase s (n + j) ∈ taken := by
  induction names generalizing n with
  | zero => cases found
  | succ names ih =>
    unfold numberedFrom at found
    split at found
    · rename_i used
      obtain ⟨k, bound, same, free, lower⟩ := ih found
      refine ⟨k + 1, by omega, by rw [same, Nat.add_right_comm, Nat.add_assoc], free, ?_⟩
      intro j before
      cases j with
      | zero => exact used
      | succ j =>
        have later := lower j (by omega)
        rwa [Nat.add_right_comm, Nat.add_assoc] at later
    · rename_i free
      cases found
      exact ⟨0, by omega, rfl, free, fun j before => absurd before (Nat.not_lt_zero j)⟩

theorem numberedFrom_eq_none_iff {names n : Nat} :
    numberedFrom s taken names n = none ↔ ∀ k < names, numberedBase s (n + k) ∈ taken := by
  induction names generalizing n with
  | zero => exact iff_of_true rfl fun k before => absurd before (Nat.not_lt_zero k)
  | succ names ih =>
    unfold numberedFrom
    split
    · rename_i used
      rw [ih, Nat.forall_lt_succ_left]
      simp only [Nat.add_zero, used, true_and, Nat.add_right_comm, ← Nat.add_assoc]
    · rename_i free
      refine iff_of_false (Option.some_ne_none _) ?_
      intro all
      exact free (all 0 (Nat.succ_pos names))

/-- The names before the numbered ones are the plain base and the one with the extension. -/
theorem unnumbered_taken (plain : firstBase s ∈ taken) (extended : secondBase s ∈ taken) {k : Nat}
    (bound : k < firstNumbered s) : candidate s k ∈ taken := by
  unfold firstNumbered at bound
  cases named : (stemAndExtension (safeName s.filename)).2 with
  | none =>
    rw [named, Option.isSome_none, if_neg Bool.false_ne_true] at bound
    obtain rfl : k = 0 := by omega
    rw [candidate_zero]
    exact plain
  | some e =>
    rw [named, Option.isSome_some, if_pos rfl] at bound
    obtain rfl | rfl : k = 0 ∨ k = 1 := by omega
    · rw [candidate_zero]
      exact plain
    · rw [candidate_extension named]
      exact extended

theorem firstFree_numbered (plain : firstBase s ∈ taken) (extended : secondBase s ∈ taken) {k : Nat}
    (free : numberedBase s (k + 2) ∉ taken) (used : ∀ j < k, numberedBase s (j + 2) ∈ taken) :
    FirstFree s taken (firstNumbered s + k) := by
  refine ⟨?_, ?_⟩
  · rwa [candidate_numbered]
  · intro j before
    by_cases early : j < firstNumbered s
    · exact unnumbered_taken plain extended early
    · obtain ⟨i, rfl⟩ := Nat.exists_eq_add_of_le (Nat.le_of_not_lt early)
      rw [candidate_numbered]
      exact used i (by omega)

theorem FirstFree.unique {other : List String} {m n : Nat} (first : FirstFree s taken m)
    (first' : FirstFree s other n) (same : ∀ b, b ∈ other ↔ b ∈ taken) : m = n := by
  obtain before | rfl | behind := Nat.lt_trichotomy m n
  · exact absurd ((same _).mp (first'.better m before)) first.free
  · rfl
  · exact absurd ((same _).mpr (first.better n behind)) first'.free

theorem freeBase_eq_some {names : Nat} {base : String} (found : freeBase names s taken = some base) :
    ∃ n, FirstFree s taken n ∧ base = candidate s n := by
  unfold freeBase at found
  split at found
  · rename_i plain
    cases found
    rw [← candidate_zero] at plain ⊢
    exact ⟨0, ⟨plain, fun k bound => absurd bound (Nat.not_lt_zero k)⟩, rfl⟩
  · rename_i plain
    rw [not_not] at plain
    split at found
    · rename_i extended
      cases found
      cases named : (stemAndExtension (safeName s.filename)).2 with
      | none =>
        -- without an extension the second base is the plain one again
        rw [secondBase_of_none named] at extended
        exact absurd plain extended
      | some e =>
        rw [← candidate_extension named] at extended ⊢
        refine ⟨1, ⟨extended, ?_⟩, rfl⟩
        intro k bound
        obtain rfl : k = 0 := by omega
        rw [candidate_zero]
        exact plain
    · rename_i extended
      rw [not_not] at extended
      obtain ⟨k, -, same, free, lower⟩ := numberedFrom_eq_some found
      rw [Nat.add_comm] at same
      rw [same] at free
      have used (j : Nat) (before : j < k) : numberedBase s (j + 2) ∈ taken := by
        rw [Nat.add_comm]
        exact lower j before
      exact ⟨firstNumbered s + k, firstFree_numbered plain extended free used,
        same.trans (candidate_numbered s k).symm⟩

theorem freeBase_eq_none_iff {names : Nat} :
    freeBase names s taken = none ↔
      firstBase s ∈ taken ∧ secondBase s ∈ taken ∧ ∀ k < names, numberedBase s (2 + k) ∈ taken := by
  unfold freeBase
  split
  · rename_i plain
    exact iff_of_false (Option.some_ne_none _) fun all => plain all.1
  · rename_i plain
    rw [not_not] at plain
    split
    · rename_i extended
      exact iff_of_false (Option.some_ne_none _) fun all => extended all.2.1
    · rename_i extended
      rw [not_not] at extended
      simp only [numberedFrom_eq_none_iff, plain, extended, true_and]

theorem exists_freeBase (s : Source) (taken : List String) :
    ∃ base, freeBase (taken.length + 1) s taken = some base := by
  rw [← Option.ne_none_iff_exists']
  intro none
  obtain ⟨k, bound, free⟩ := exists_free_number s taken
  rw [Nat.add_comm] at free
  exact free ((freeBase_eq_none_iff.mp none).2.2 k (by omega))

/-- The search for a free base succeeds, and finds the best one. -/
theorem uniqueBase_candidate (s : Source) (taken : List String) :
    ∃ n ≤ taken.length + 2, FirstFree s taken n ∧ uniqueBase s taken = candidate s n := by
  obtain ⟨n, bound, first⟩ := exists_firstFree s taken
  refine ⟨n, bound, first, ?_⟩
  have best {names : Nat} {base : String} (found : freeBase names s taken = some base) :
      base = candidate s n := by
    obtain ⟨m, first', same⟩ := freeBase_eq_some found
    rw [same, first'.unique first fun b => Iff.rfl]
  unfold uniqueBase uniqueBase?
  cases found : freeBase numbersTried s taken with
  | some base => exact best found
  | none =>
    obtain ⟨base, found'⟩ := exists_freeBase s taken
    rw [found']
    exact best found'

theorem uniqueBase_congr {other : List String} (same : ∀ b, b ∈ other ↔ b ∈ taken) (s : Source) :
    uniqueBase s other = uniqueBase s taken := by
  obtain ⟨m, -, first, chosen⟩ := uniqueBase_candidate s taken
  obtain ⟨n, -, first', chosen'⟩ := uniqueBase_candidate s other
  rw [chosen, chosen', first.unique first' same]

theorem uniqueBase_free (s : Source) (taken : List String) : uniqueBase s taken ∉ taken := by
  obtain ⟨n, -, first, chosen⟩ := uniqueBase_candidate s taken
  rw [chosen]
  exact first.free

theorem uniqueBase_of_free (free : firstBase s ∉ taken) : uniqueBase s taken = firstBase s := by
  unfold uniqueBase uniqueBase? freeBase
  rw [if_pos free]

theorem uniqueBase_eq_firstBase_iff : uniqueBase s taken = firstBase s ↔ firstBase s ∉ taken := by
  refine ⟨?_, uniqueBase_of_free⟩
  intro same
  rw [← same]
  exact uniqueBase_free s taken

/-- The bases of files that get theirs one after the other. -/
def allot (taken : List String) : List Source → List String
  | [] => []
  | s :: rest =>
    let (base, held) := takeBase s taken
    base :: allot held rest

theorem allot_cons (taken : List String) (s : Source) (rest : List Source) :
    allot taken (s :: rest) = uniqueBase s taken :: allot (uniqueBase s taken :: taken) rest :=
  rfl

theorem allot_length (taken : List String) (xs : List Source) :
    (allot taken xs).length = xs.length := by
  induction xs generalizing taken with
  | nil => rfl
  | cons s xs ih =>
    simp only [allot_cons, List.length_cons]
    rw [ih]

/-- What the first of several files got is taken for the others, and where it stands among the bases taken
does not matter. -/
theorem uniqueBase_first (s x : Source) (taken bases : List String) :
    uniqueBase s (uniqueBase x taken :: bases ++ taken) =
      uniqueBase s (bases ++ uniqueBase x taken :: taken) := by
  apply uniqueBase_congr
  intro b
  simp only [List.cons_append, List.mem_append, List.mem_cons]
  tauto

theorem allot_free (taken : List String) (xs : List Source) : ∀ b ∈ allot taken xs, b ∉ taken := by
  induction xs generalizing taken with
  | nil =>
    intro b member
    cases member
  | cons s xs ih =>
    rw [allot_cons, List.forall_mem_cons]
    refine ⟨uniqueBase_free s taken, ?_⟩
    intro b member old
    exact ih _ b member (List.mem_cons_of_mem _ old)

theorem allot_nodup (taken : List String) (xs : List Source) : (allot taken xs).Nodup := by
  induction xs generalizing taken with
  | nil => exact List.nodup_nil
  | cons s xs ih =>
    rw [allot_cons, List.nodup_cons]
    refine ⟨?_, ih _⟩
    intro again
    exact allot_free _ xs _ again List.mem_cons_self

end Retrofit.Layout
