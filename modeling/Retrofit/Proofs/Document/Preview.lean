import Retrofit.Proofs.Document.Comparison
import Retrofit.Proofs.Run.Placement
import Retrofit.Proofs.Text.Occurrence

/-! What documents show of code: its beginning, whether there is more of it, and whether it has the habit
that is known of its language. -/
namespace Retrofit

namespace Text

variable {n : Nat} {s : String}

theorem truncate_of_le (short : s.toList.length ≤ n) (marker : String) : truncate n marker s = s :=
  if_neg (Nat.not_lt.mpr short)

theorem truncate_of_lt (long : n < s.toList.length) (marker : String) :
    truncate n marker s = takeChars n s ++ marker :=
  if_pos long

/-- The cut falls between two characters. -/
theorem takeChars_append_drop (n : Nat) (s : String) :
    takeChars n s ++ String.ofList (s.toList.drop n) = s := by
  rw [← String.toList_inj]
  simp [takeChars]

/-- What is cut off is seen in the number of bytes as well as in the number of characters. -/
theorem utf8ByteSize_takeChars_lt_iff :
    (takeChars n s).utf8ByteSize < s.utf8ByteSize ↔ n < s.toList.length := by
  have whole := congrArg String.utf8ByteSize (takeChars_append_drop n s)
  rw [String.utf8ByteSize_append] at whole
  have rest : (String.ofList (s.toList.drop n)).utf8ByteSize = 0 ↔ s.toList.length ≤ n := by
    rw [String.utf8ByteSize_eq_zero_iff, ← String.toList_inj, String.toList_ofList]
    exact List.drop_eq_nil_iff
  omega

end Text

namespace Document

/-- The part of the code that a listing shows. -/
def preview (code : String) : String :=
  Text.truncate previewChars "..." code

/-- The codes begin alike, as far as is shown, and there is more of both or of neither. -/
structure Alike (code code' : String) : Prop where
  front : code.toList.take previewChars = code'.toList.take previewChars
  longer : previewChars < code.toList.length ↔ previewChars < code'.toList.length

variable {code code' modern modern' : String}

theorem toList_preview_of_lt (long : previewChars < code.toList.length) :
    (preview code).toList = code.toList.take previewChars ++ ['.', '.', '.'] := by
  rw [preview, Text.truncate_of_lt long, String.toList_append, Text.takeChars, String.toList_ofList]
  rfl

theorem length_preview (code : String) :
    (preview code).toList.length =
      if previewChars < code.toList.length then previewChars + 3 else code.toList.length := by
  split
  · rename_i long
    rw [toList_preview_of_lt long, List.length_append, List.length_take_of_le (Nat.le_of_lt long)]
    rfl
  · rename_i short
    rw [preview, Text.truncate_of_le (Nat.le_of_not_lt short)]

/-- A preview tells as much of the code as its first characters and whether there are more. -/
theorem preview_eq_iff : preview code = preview code' ↔ Alike code code' := by
  refine ⟨?_, ?_⟩
  · intro same
    have lengths := congrArg (fun s => s.toList.length) same
    simp only [length_preview] at lengths
    have longer : previewChars < code.toList.length ↔ previewChars < code'.toList.length := by
      split at lengths <;> split at lengths <;> omega
    refine ⟨?_, longer⟩
    by_cases long : previewChars < code.toList.length
    · have shown := congrArg String.toList same
      rw [toList_preview_of_lt long, toList_preview_of_lt (longer.mp long)] at shown
      exact List.append_cancel_right shown
    · have short := Nat.le_of_not_lt long
      have short' := Nat.le_of_not_lt (mt longer.mpr long)
      rw [preview, preview, Text.truncate_of_le short, Text.truncate_of_le short'] at same
      rw [same]
  · rintro ⟨front, longer⟩
    rw [← String.toList_inj]
    by_cases long : previewChars < code.toList.length
    · rw [toList_preview_of_lt long, toList_preview_of_lt (longer.mp long), front]
    · have short := Nat.le_of_not_lt long
      have short' := Nat.le_of_not_lt (mt longer.mpr long)
      rw [List.take_of_length_le short, List.take_of_length_le short'] at front
      rw [preview, preview, Text.truncate_of_le short, Text.truncate_of_le short', front]

theorem codeListing_eq (language code : String) :
    codeListing language code = "```" ++ language ++ "\n" ++ preview code ++ "\n```\n" := by
  rw [← String.toList_inj]
  simp [codeListing, preview, Text.join, Text.toString_same]

theorem codeListing_inj (language : String) :
    codeListing language code = codeListing language code' ↔ Alike code code' := by
  rw [codeListing_eq, codeListing_eq, String.append_left_inj, String.append_right_inj, preview_eq_iff]

/-! The documents of a project -/

section Bundle

variable (p : Project) (summary : String)

theorem overview_congr (legacy : Alike code code') (now : Alike modern modern')
    (habit : habitShows p.language code = habitShows p.language code') :
    overview p code modern summary = overview p code' modern' summary := by
  have rows : heuristicRow p.language code = heuristicRow p.language code' := by
    unfold habitShows at habit
    unfold heuristicRow
    cases known : (Target.ofLanguage p.language).conventions.heuristic with
    | none => rfl
    | some h =>
      rw [known] at habit
      exact if_congr (Bool.eq_iff_iff.mp habit) rfl rfl
  have table : comparisonTable p code = comparisonTable p code' := by
    rw [comparisonTable, comparisonTable, comparisonLines, comparisonLines, rows]
  unfold overview overviewLines codeSection
  rw [table, (codeListing_inj p.language).mpr legacy, (codeListing_inj p.language).mpr now]

/-- All documents but the first are written without the code. -/
theorem bundle_eq_cons :
    ∃ others, (∀ d ∈ others, d.name ≠ overviewName) ∧
      ∀ code modern, bundle p code modern summary =
        ⟨overviewName, overview p code modern summary⟩ :: others := by
  refine ⟨(bundle p "" "" summary).tail, ?_, fun _ _ => rfl⟩
  intro d member
  have named : d.name ∈ ((bundle p "" "" summary).map (·.name)).tail := by
    rw [← List.map_tail]
    exact List.mem_map_of_mem member
  have apart : ∀ name ∈ names.tail ++ (names.erase debtName).tail, name ≠ overviewName := by decide
  rw [List.forall_mem_append] at apart
  rw [bundle_names] at named
  split at named
  · exact apart.2 d.name named
  · exact apart.1 d.name named

end Bundle

/-- The documents are those of any other code that has the same preview and shows the habit of the language
or not, as this one does; only the overview can differ at all. A preview is the code itself or, if it is
longer than 2000 characters, so many whole characters of it with a mark behind them, and whether it is longer
is seen in bytes just as well. -/
theorem bundle_of_previews (p : Project) (summary : String) :
    (∀ code code' modern modern', Alike code code' → Alike modern modern' →
        habitShows p.language code = habitShows p.language code' →
        bundle p code modern summary = bundle p code' modern' summary) ∧
      (∃ others, (∀ d ∈ others, d.name ≠ overviewName) ∧
        ∀ code modern, bundle p code modern summary =
          ⟨overviewName, overview p code modern summary⟩ :: others) ∧
      ∀ code, (∀ language, codeListing language code =
          "```" ++ language ++ "\n" ++ preview code ++ "\n```\n") ∧
        (code.toList.length ≤ 2000 → preview code = code) ∧
        (2000 < code.toList.length →
          ∃ shown rest, preview code = shown ++ "..." ∧ code = shown ++ rest ∧
            shown.toList.length = 2000) ∧
        (2000 < code.toList.length ↔ (Text.takeChars 2000 code).utf8ByteSize < code.utf8ByteSize) ∧
        ∀ language code', codeListing language code = codeListing language code' ↔ Alike code code' := by
  refine ⟨?_, bundle_eq_cons p summary, ?_⟩
  · intro code code' modern modern' legacy now habit
    obtain ⟨others, -, bundled⟩ := bundle_eq_cons p summary
    rw [bundled, bundled, overview_congr p summary legacy now habit]
  · intro code
    refine ⟨fun language => codeListing_eq language code, ?_, ?_, Text.utf8ByteSize_takeChars_lt_iff.symm,
      fun language code' => codeListing_inj language⟩
    · exact fun short => Text.truncate_of_le short "..."
    · intro long
      refine ⟨_, _, Text.truncate_of_lt long "...", (Text.takeChars_append_drop 2000 code).symm, ?_⟩
      rw [Text.takeChars, String.toList_ofList, List.length_take_of_le (Nat.le_of_lt long)]

theorem alike_append {front behind behind' : List Char} (long : front.length = previewChars)
    (more : behind ≠ []) (more' : behind' ≠ []) :
    Alike (String.ofList (front ++ behind)) (String.ofList (front ++ behind')) := by
  have some := List.length_pos_iff.mpr more
  have some' := List.length_pos_iff.mpr more'
  refine ⟨?_, ?_⟩
  · rw [String.toList_ofList, String.toList_ofList, List.take_left' long, List.take_left' long]
  · rw [String.toList_ofList, String.toList_ofList, List.length_append, List.length_append, long]
    omega

/-- A script that prints, but only where the preview is over. -/
def longScript (tail : String) : String :=
  String.ofList (List.replicate previewChars '#' ++ ("\nprint(".toList ++ tail.toList))

theorem longScript_prints (tail : String) : habitShows "Python" (longScript tail) = true := by
  have printed : Text.contains (longScript tail) "print(" = true := by
    rw [Text.contains, Chars.occurs_iff, longScript, String.toList_ofList]
    exact ⟨List.replicate previewChars '#' ++ ['\n'], tail.toList, by simp⟩
  have python : Text.lowerAscii "Python" = "python" := by decide
  simp [habitShows, Target.ofLanguage, Target.conventions, Conventions.python, Heuristic.applies, python,
    printed]

theorem longScript_bundle :
    let p : Project := ⟨"Python", "till.py", "till.py", "", [], [], [], []⟩
    Alike (longScript "1)") (longScript "x)\n") ∧ Alike "log(1)" "log(1)" ∧
      habitShows p.language (longScript "1)") = habitShows p.language (longScript "x)\n") ∧
      bundle p (longScript "1)") "log(1)" "" = bundle p (longScript "x)\n") "log(1)" "" := by
  intro p
  have legacy : Alike (longScript "1)") (longScript "x)\n") :=
    alike_append List.length_replicate (by simp) (by simp)
  have now : Alike "log(1)" "log(1)" := ⟨rfl, Iff.rfl⟩
  have habit : habitShows p.language (longScript "1)") = habitShows p.language (longScript "x)\n") :=
    (longScript_prints _).trans (longScript_prints _).symm
  exact ⟨legacy, now, habit, (bundle_of_previews p "").1 _ _ _ _ legacy now habit⟩

end Document

end Retrofit
