import Retrofit.Proofs.Run.Stem

/-! How a file comes by its base, told from its folder and its name. What it is called decides on a plain
base and on what follows that, and it gets the first that no file has. The numbers run out only when more
bases are taken than a counter of 32 bits can tell apart. -/
namespace Retrofit

namespace Layout

/-- The parts of a name, on systems of either kind of separator. -/
def parts (filename : String) : List (List Char) :=
  filename.toList.splitOnP fun c => c == '/' || c == '\\'

/-- The first of `plain`, `plain` with the extension, and `plain` with the numbers from 2 on, that is not
taken. -/
inductive Chosen (plain : String) (extension : Option String) (taken : List String) : String → Prop
  | plain (free : plain ∉ taken) : Chosen plain extension taken plain
  | extended (e) (named : extension = some e) (used : plain ∈ taken) (free : plain ++ "_" ++ e ∉ taken) :
      Chosen plain extension taken (plain ++ "_" ++ e)
  | numbered (n : Nat) (least : 2 ≤ n) (used : plain ∈ taken)
      (extended : ∀ e, extension = some e → plain ++ "_" ++ e ∈ taken)
      (lower : ∀ k, 2 ≤ k → k < n → plain ++ "_" ++ toString k ∈ taken)
      (free : plain ++ "_" ++ toString n ∉ taken) :
      Chosen plain extension taken (plain ++ "_" ++ toString n)

variable {s : Source} {taken : List String}

theorem FirstFree.chosen {n : Nat} (first : FirstFree s taken n) :
    Chosen (firstBase s) (stemAndExtension (safeName s.filename)).2 taken (candidate s n) := by
  obtain ⟨free, better⟩ := first
  by_cases start : n = 0
  · subst start
    rw [candidate_zero] at free ⊢
    exact .plain free
  have used : firstBase s ∈ taken := by
    have first := better 0 (by omega)
    rwa [candidate_zero] at first
  have extended (e : String) (named : (stemAndExtension (safeName s.filename)).2 = some e) (behind : 1 < n) :
      firstBase s ++ "_" ++ e ∈ taken := by
    have second := better 1 behind
    rwa [candidate_extension named, secondBase_of_some named] at second
  by_cases early : n < firstNumbered s
  · unfold firstNumbered at early
    cases named : (stemAndExtension (safeName s.filename)).2 with
    | none =>
      rw [named, Option.isSome_none, if_neg Bool.false_ne_true] at early
      omega
    | some e =>
      rw [named, Option.isSome_some, if_pos rfl] at early
      obtain rfl : n = 1 := by omega
      rw [candidate_extension named, secondBase_of_some named] at free ⊢
      exact .extended e rfl used free
  · obtain ⟨k, rfl⟩ := Nat.exists_eq_add_of_le (Nat.le_of_not_lt early)
    rw [candidate_numbered] at free ⊢
    refine .numbered (k + 2) (by omega) used ?_ ?_ free
    · intro e named
      apply extended e named
      have two : firstNumbered s = 2 := by
        unfold firstNumbered
        rw [named, Option.isSome_some, if_pos rfl]
      omega
    · intro j least before
      have lower := better (firstNumbered s + (j - 2)) (by omega)
      rwa [candidate_numbered, Nat.sub_add_cancel least] at lower

theorem Chosen.free {plain base : String} {extension : Option String}
    (chosen : Chosen plain extension taken base) : base ∉ taken := by
  cases chosen <;> assumption

/-- Not more than one base is the first that is free. -/
theorem Chosen.unique {plain base base' : String} {extension : Option String}
    (chosen : Chosen plain extension taken base) (chosen' : Chosen plain extension taken base') :
    base' = base := by
  cases chosen with
  | plain free =>
    cases chosen' with
    | plain _ => rfl
    | extended _ _ used _ | numbered _ _ used _ _ _ => exact absurd used free
  | extended e named used free =>
    cases chosen' with
    | plain free' => exact absurd used free'
    | extended e' named' _ _ => rw [Option.some.inj (named.symm.trans named')]
    | numbered _ _ _ extended _ _ => exact absurd (extended e named) free
  | numbered n least used extended lower free =>
    cases chosen' with
    | plain free' => exact absurd used free'
    | extended e named _ free' => exact absurd (extended e named) free'
    | numbered n' least' _ _ lower' free' =>
      obtain before | rfl | behind := Nat.lt_trichotomy n n'
      · exact absurd (lower' n least before) free
      · rfl
      · exact absurd (lower n' least' behind) free'

example :
    allot [] [⟨"a.py", none, "", ""⟩, ⟨"a.js", none, "", ""⟩, ⟨"a.py", none, "", ""⟩,
      ⟨"a.py", none, "", ""⟩, ⟨"a.py", some "billing", "", ""⟩] =
    ["output/a", "output/a_js", "output/a_py", "output/a_2", "billing/a"] := by
  decide +kernel

end Layout

end Retrofit
