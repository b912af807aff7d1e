import Retrofit.Proofs.Run.Base
import Retrofit.Proofs.Run.Placement

/-! File names without their extension. The stem of a safe name can be put in a directory like the name
itself, except that some names leave nothing but dots. -/
namespace Retrofit.Layout

theorem splitLastDot_eq_none_iff (cs : List Char) : splitLastDot cs = none ↔ '.' ∉ cs := by
  induction cs with
  | nil => simp [splitLastDot]
  | cons c cs ih =>
    unfold splitLastDot
    cases found : splitLastDot cs with
    | some parts =>
      have dotted : '.' ∈ cs := by
        rw [found] at ih
        simpa using ih
      simp [dotted]
    | none =>
      have plain : '.' ∉ cs := ih.mp found
      by_cases dot : c = '.'
      · simp [dot]
      · simp [dot, plain, Ne.symm dot]

theorem splitLastDot_append (before : List Char) {after : List Char} (plain : '.' ∉ after) :
    splitLastDot (before ++ '.' :: after) = some (before, after) := by
  induction before with
  | nil => simp [splitLastDot, (splitLastDot_eq_none_iff after).mpr plain]
  | cons c before ih => simp [splitLastDot, ih]

theorem splitLastDot_eq_some {cs before after : List Char}
    (found : splitLastDot cs = some (before, after)) : cs = before ++ '.' :: after ∧ '.' ∉ after := by
  induction cs generalizing before with
  | nil => cases found
  | cons c cs ih =>
    unfold splitLastDot at found
    cases later : splitLastDot cs with
    | some parts =>
      rw [later] at found
      cases found
      obtain ⟨same, plain⟩ := ih later
      exact ⟨congrArg (List.cons c) same, plain⟩
    | none =>
      rw [later] at found
      dsimp only at found
      split at found
      · rename_i dot
        cases found
        exact ⟨congrArg (List.cons · after) dot, (splitLastDot_eq_none_iff after).mp later⟩
      · cases found

/-- A name is a stem alone, or a stem and an extension with the last dot between them. -/
theorem stemAndExtension_cases (name : String) :
    stemAndExtension name = (name, none) ∨
      ∃ stem extension, stem ≠ "" ∧ '.' ∉ extension.toList ∧ name = stem ++ "." ++ extension ∧
        stemAndExtension name = (stem, some extension) := by
  unfold stemAndExtension
  split
  · exact .inl rfl
  · split
    · rename_i c before after found
      obtain ⟨same, plain⟩ := splitLastDot_eq_some found
      refine .inr ⟨_, _, ?_, ?_, ?_, rfl⟩
      · intro empty
        have characters := congrArg String.toList empty
        simp at characters
      · rwa [String.toList_ofList]
      · apply String.toList_inj.mp
        simp [same]
    · exact .inl rfl

theorem stemAndExtension_of_cut {stem extension : String} (filled : stem ≠ "")
    (plain : '.' ∉ extension.toList) (other : stem ++ "." ++ extension ≠ "..") :
    stemAndExtension (stem ++ "." ++ extension) = (stem, some extension) := by
  have lists : (stem ++ "." ++ extension).toList = stem.toList ++ '.' :: extension.toList := by
    simp
  unfold stemAndExtension
  rw [if_neg other, lists, splitLastDot_append _ plain]
  cases first : stem.toList with
  | nil => exact absurd (String.toList_eq_nil_iff.mp first) filled
  | cons c before =>
    dsimp only
    rw [← first, String.ofList_toList, String.ofList_toList]

/-- The name is two or three dots and then something without a dot. -/
def Dotted (name : String) : Prop :=
  ∃ rest : String, '.' ∉ rest.toList ∧ (name = ".." ++ rest ∨ name = "..." ++ rest)

section Names

variable {name : String}

theorem stem_filled (normal : Path.Normal name) : (stemAndExtension name).1 ≠ "" := by
  obtain whole | ⟨stem, extension, filled, -, -, cut⟩ := stemAndExtension_cases name
  · rw [whole]
    exact normal.filled
  · rw [cut]
    exact filled

theorem stem_single (normal : Path.Normal name) : '/' ∉ (stemAndExtension name).1.toList := by
  have single := normal.single
  obtain whole | ⟨stem, extension, -, -, same, cut⟩ := stemAndExtension_cases name
  · rwa [whole]
  · rw [cut]
    intro slash
    apply single
    simp [same, slash]

theorem extension_single (normal : Path.Normal name) {extension : String}
    (named : (stemAndExtension name).2 = some extension) : '/' ∉ extension.toList := by
  have single := normal.single
  obtain whole | ⟨stem, other, -, -, same, cut⟩ := stemAndExtension_cases name
  · rw [whole] at named
    cases named
  · rw [cut] at named
    cases named
    intro slash
    apply single
    simp [same, slash]

/-- Which stems are no names in a directory. -/
theorem stem_dots_iff (normal : Path.Normal name) :
    ((stemAndExtension name).1 = "." ∨ (stemAndExtension name).1 = "..") ↔ Dotted name := by
  refine ⟨?_, ?_⟩
  · obtain whole | ⟨stem, extension, -, plain, same, cut⟩ := stemAndExtension_cases name
    · rw [whole]
      rintro (here | up)
      · exact absurd here normal.moves
      · exact absurd up normal.descends
    · rw [cut]
      rintro (rfl | rfl)
      · exact ⟨extension, plain, .inl same⟩
      · exact ⟨extension, plain, .inr same⟩
  · rintro ⟨rest, plain, rfl | rfl⟩
    · have cut := stemAndExtension_of_cut (by decide : "." ≠ "") plain normal.descends
      exact .inl (congrArg Prod.fst cut)
    · have cut := stemAndExtension_of_cut (by decide : ".." ≠ "") plain normal.descends
      exact .inr (congrArg Prod.fst cut)

end Names

/-! The last part of a base -/

theorem suffix_marked (extension : Option String) (n : Nat) :
    '_' ∈ (suffix extension (n + 1)).toList := by
  unfold suffix
  split <;> simp_all

theorem suffix_single {extension : Option String}
    (single : ∀ e, extension = some e → '/' ∉ e.toList) (n : Nat) :
    '/' ∉ (suffix extension n).toList := by
  have number (k : Nat) : '/' ∉ ("_" ++ toString k).toList := by
    rw [String.toList_append, List.mem_append, Nat.toString_eq_repr, Nat.toList_repr]
    rintro (mark | digit)
    · exact absurd mark (by decide)
    · exact absurd (Nat.isDigit_of_mem_toDigits (by decide) (by decide) digit) (by decide)
  unfold suffix
  split
  · decide
  · rename_i e
    rw [String.toList_append, List.mem_append]
    rintro (mark | slash)
    · exact absurd mark (by decide)
    · exact single e rfl slash
  · exact number _
  · exact number _

/-- The part of the base that is not the folder. -/
def ownPart (s : Source) (n : Nat) : String :=
  (stemAndExtension (safeName s.filename)).1 ++ suffix (stemAndExtension (safeName s.filename)).2 n

theorem candidate_eq (s : Source) (n : Nat) :
    candidate s n = s.folder.getD defaultFolder ++ "/" ++ ownPart s n := by
  rw [ownPart, ← String.append_assoc]
  rfl

theorem ownPart_single (s : Source) (n : Nat) : '/' ∉ (ownPart s n).toList := by
  have normal := (safeName_normal s.filename).1
  rw [ownPart, String.toList_append, List.mem_append]
  rintro (stem | suffix)
  · exact stem_single normal stem
  · exact suffix_single (fun e named => extension_single normal named) n suffix

/-- The plain stem may be nothing but dots, but no other name is. -/
theorem ownPart_normal_iff (s : Source) (n : Nat) :
    Path.Normal (ownPart s n) ↔ ¬ (Dotted (safeName s.filename) ∧ n = 0) := by
  have normal := (safeName_normal s.filename).1
  rw [← stem_dots_iff normal]
  cases n with
  | zero =>
    have plain : ownPart s 0 = (stemAndExtension (safeName s.filename)).1 := by
      unfold ownPart
      cases (stemAndExtension (safeName s.filename)).2 <;> exact String.append_empty
    rw [plain]
    refine ⟨?_, ?_⟩
    · rintro own ⟨here | up, -⟩
      · exact own.moves here
      · exact own.descends up
    · intro other
      exact ⟨stem_filled normal, fun here => other ⟨.inl here, rfl⟩, fun up => other ⟨.inr up, rfl⟩,
        stem_single normal⟩
  | succ n =>
    refine iff_of_true ?_ (by omega)
    -- with a suffix, the name has an underscore
    have marked : '_' ∈ (ownPart s (n + 1)).toList := by
      rw [ownPart, String.toList_append, List.mem_append]
      exact .inr (suffix_marked _ n)
    refine ⟨?_, ?_, ?_, ownPart_single s (n + 1)⟩
    all_goals
      intro same
      rw [same] at marked
      exact absurd marked (by decide)

end Retrofit.Layout
