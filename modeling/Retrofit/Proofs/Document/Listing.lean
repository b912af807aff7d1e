import Mathlib.Data.List.TakeWhile
import Retrofit.Proofs.Document.Preview
import Retrofit.Response.Fence

/-! Listings of code in documents. A listing is put between two fences and the code is not changed for it, so
that a line of the code that looks like a fence ends the listing for whoever reads the document. -/
namespace Retrofit.Document

open Chars (lines lines_join lines_append lines_of_unbroken)
open Response (fence)

/-- Three backticks with nothing but spaces in front of them. -/
def isFence (line : List Char) : Bool :=
  fence.isPrefixOf (line.dropWhile (· == ' '))

/-- What a reader of the lines behind an opening fence takes for the code. -/
def fenced (behind : List (List Char)) : List (List Char) :=
  behind.takeWhile fun line => !isFence line

/-- The lines of a listing whose first and last line are fences and whose other lines are not. The last line
is ended, so that there is an empty one behind it. -/
def Enclosed (ls : List (List Char)) : Prop :=
  ∃ opening body closing, ls = opening :: (body ++ [closing, []]) ∧ isFence opening = true ∧
    isFence closing = true ∧ ∀ line ∈ body, isFence line = false

/-- No line of the code looks like a fence, as far as the code is shown. -/
def Fenceless (code : String) : Prop :=
  ∀ line ∈ lines (code.toList.take previewChars), isFence line = false

/-! Lines that look like a fence -/

section Fences

variable {line ls : List Char} {body : List (List Char)}

theorem isFence_iff : isFence line = true ↔ fence <+: line.dropWhile (· == ' ') :=
  List.isPrefixOf_iff_prefix

theorem isFence_fence_append (tag : List Char) : isFence (fence ++ tag) = true := by
  rw [isFence_iff]
  exact List.prefix_append fence tag

theorem isFence_fence : isFence fence = true := by
  decide

/-- The mark behind a line that is cut makes no fence of it and hides none. -/
theorem isFence_append_mark (line mark : List Char) : isFence (line ++ '.' :: mark) = isFence line := by
  have kept : (line ++ '.' :: mark).dropWhile (· == ' ') = line.dropWhile (· == ' ') ++ '.' :: mark := by
    rw [List.dropWhile_append]
    split
    · rename_i blank
      rw [List.isEmpty_iff.mp blank]
      rfl
    · rfl
  rw [Bool.eq_iff_iff, isFence_iff, isFence_iff, kept]
  exact Chars.prefix_append_cons (by decide) _ _

theorem fenced_eq_iff {closing : List Char} (closes : isFence closing = true) (body after : List (List Char)) :
    fenced (body ++ closing :: after) = body ↔ ∀ line ∈ body, isFence line = false := by
  unfold fenced
  refine ⟨?_, ?_⟩
  · intro same line member
    rw [← same] at member
    simpa using List.mem_takeWhile_imp member
  · intro plain
    rw [List.takeWhile_append_of_pos fun line member => by simp [plain line member],
      List.takeWhile_cons_of_neg (by simp [closes]), List.append_nil]

end Fences

/-! Listings -/

section Listing

variable {language : String} (onLine : '\n' ∉ language.toList)

theorem fenceless_iff (code : String) :
    Fenceless code ↔ ∀ line ∈ lines (preview code).toList, isFence line = false := by
  by_cases long : previewChars < code.toList.length
  · have mark : lines ['.', '.', '.'] = [['.', '.', '.']] := lines_of_unbroken (by decide)
    obtain ⟨front, last, cut, marked⟩ := Chars.splitWhere_joined mark (code.toList.take previewChars)
    have whole : lines (preview code).toList = front ++ [last ++ ['.', '.', '.']] := by
      rw [toList_preview_of_lt long]
      exact marked
    have shown : lines (code.toList.take previewChars) = front ++ [last] := cut
    rw [Fenceless, whole, shown]
    simp only [List.forall_mem_append, List.forall_mem_singleton, isFence_append_mark]
  · have short := Nat.le_of_not_lt long
    rw [Fenceless, preview, Text.truncate_of_le short, List.take_of_length_le short]

include onLine in
theorem lines_codeListing (code : String) :
    lines (codeListing language code).toList =
      (fence ++ language.toList) :: (lines (preview code).toList ++ [fence, []]) := by
  have opening : '\n' ∉ fence ++ language.toList := by
    rw [List.mem_append, not_or]
    exact ⟨by decide, onLine⟩
  have text : (codeListing language code).toList =
      (fence ++ language.toList) ++ '\n' :: ((preview code).toList ++ '\n' :: (fence ++ ['\n'])) := by
    rw [codeListing_eq]
    simp [fence]
  rw [text, lines_append, lines_append, lines_of_unbroken opening]
  rfl

include onLine in
theorem enclosed_iff (code : String) :
    Enclosed (lines (codeListing language code).toList) ↔ Fenceless code := by
  rw [lines_codeListing onLine, fenceless_iff]
  refine ⟨?_, ?_⟩
  · rintro ⟨opening, body, closing, same, -, -, plain⟩
    rw [List.cons.injEq] at same
    rw [(List.append_inj_left' same.2 rfl)]
    exact plain
  · intro plain
    exact ⟨_, _, fence, rfl, isFence_fence_append _, isFence_fence, plain⟩

/-- The lines of the listings in the overview, with what stands before and between them. -/
theorem lines_codeSection (p : Project) (onLine : '\n' ∉ p.language.toList) (legacy modern : String) :
    (codeSection p legacy modern).flatMap (fun s => lines s.toList) =
      ["## 5. Complete Code Transformation".toList, [], "### Legacy Code (Before)".toList] ++
        (fence ++ p.language.toList) :: (lines (preview legacy).toList ++
          fence :: [] :: "### Modern Code (After)".toList ::
            (fence ++ p.language.toList) :: (lines (preview modern).toList ++
              fence :: [] :: lines rule.toList)) := by
  have heading : lines "## 5. Complete Code Transformation\n".toList =
      ["## 5. Complete Code Transformation".toList, []] := by
    decide +kernel
  have before : lines "### Legacy Code (Before)".toList = ["### Legacy Code (Before)".toList] :=
    lines_of_unbroken (by decide)
  have after : lines "### Modern Code (After)".toList = ["### Modern Code (After)".toList] :=
    lines_of_unbroken (by decide)
  simp only [codeSection, List.flatMap_cons, List.flatMap_nil, heading, before, after,
    lines_codeListing onLine, List.append_assoc, List.cons_append, List.nil_append, List.append_nil]

theorem codeSection_infix (p : Project) (legacy modern summary : String) :
    codeSection p legacy modern <:+: overviewLines p legacy modern summary := by
  unfold overviewLines
  iterate 5 apply List.infix_append_of_infix_left
  exact (List.suffix_append _ _).isInfix

end Listing

/-- No line of a listing between its first and its last looks like a fence, if and only if no line of the code
does that is shown. In an overview a reader then takes just the code that is shown for each of the two
listings, and whoever shows a code with such a line has its listing end before the code does. -/
theorem codeListing_enclosed_iff {language : String} (onLine : '\n' ∉ language.toList) :
    (∀ code, Enclosed (lines (codeListing language code).toList) ↔ Fenceless code) ∧
      ∀ (p : Project) (legacy modern summary : String), ∃ before between after,
        lines (overview { p with language := language } legacy modern summary).toList =
            before ++ "### Legacy Code (Before)".toList :: (fence ++ language.toList) ::
              (lines (preview legacy).toList ++ fence :: between) ∧
          between = [] :: "### Modern Code (After)".toList :: (fence ++ language.toList) ::
              (lines (preview modern).toList ++ fence :: after) ∧
          (fenced (lines (preview legacy).toList ++ fence :: between) = lines (preview legacy).toList ↔
            Fenceless legacy) ∧
          (fenced (lines (preview modern).toList ++ fence :: after) = lines (preview modern).toList ↔
            Fenceless modern) := by
  refine ⟨enclosed_iff onLine, ?_⟩
  intro p legacy modern summary
  have closed (code : String) (behind : List (List Char)) :
      fenced (lines (preview code).toList ++ fence :: behind) = lines (preview code).toList ↔
        Fenceless code :=
    (fenced_eq_iff isFence_fence _ behind).trans (fenceless_iff code).symm
  obtain ⟨front, back, whole⟩ := codeSection_infix { p with language := language } legacy modern summary
  have filled : overviewLines { p with language := language } legacy modern summary ≠ [] := by
    simp [overviewLines]
  have cut := lines_join filled
  rw [← whole, List.flatMap_append, List.flatMap_append, lines_codeSection _ onLine] at cut
  refine ⟨front.flatMap (fun s => lines s.toList) ++
      ["## 5. Complete Code Transformation".toList, []], _,
    [] :: (lines rule.toList ++ back.flatMap fun s => lines s.toList), ?_, rfl, closed _ _, closed _ _⟩
  rw [overview, ← whole]
  simpa only [List.append_assoc, List.cons_append, List.nil_append] using cut

/-- Backticks do no harm behind something else, nor fewer than three of them. -/
theorem backticks_enclosed :
    let code := "say ```\n  ``\n`"
    '\n' ∉ "bash".toList ∧ Enclosed (lines (codeListing "bash" code).toList) ∧
      ∃ before between after,
        lines (overview ⟨"bash", "say.sh", "say.sh", "", [], [], [], []⟩ code "true" "").toList =
            before ++ "### Legacy Code (Before)".toList :: (fence ++ "bash".toList) ::
              (lines (preview code).toList ++ fence :: between) ∧
          between = [] :: "### Modern Code (After)".toList :: (fence ++ "bash".toList) ::
              (lines (preview "true").toList ++ fence :: after) ∧
          fenced (lines (preview code).toList ++ fence :: between) = lines (preview code).toList ∧
          fenced (lines (preview "true").toList ++ fence :: after) = lines (preview "true").toList := by
  intro code
  have onLine : '\n' ∉ "bash".toList := by decide
  have legacy : Fenceless code := by
    unfold Fenceless
    decide +kernel
  have modern : Fenceless "true" := by
    unfold Fenceless
    decide +kernel
  obtain ⟨enclosed, listings⟩ := codeListing_enclosed_iff onLine
  obtain ⟨before, between, after, whole, next, first, second⟩ :=
    listings ⟨"bash", "say.sh", "say.sh", "", [], [], [], []⟩ code "true" ""
  exact ⟨onLine, (enclosed code).mpr legacy, before, between, after, whole, next, first.mpr legacy,
    second.mpr modern⟩

/-- A script whose documentation has an example in a fence of its own. -/
def quotingScript : String := "\"\"\"\n```\nrun()\n```\n\"\"\""

theorem quotingScript_escapes :
    '\n' ∉ "python".toList ∧ ¬ Enclosed (lines (codeListing "python" quotingScript).toList) ∧
      fenced ((lines (codeListing "python" quotingScript).toList).drop 1) = ["\"\"\"".toList] := by
  have onLine : '\n' ∉ "python".toList := by decide
  refine ⟨onLine, ?_, by decide +kernel⟩
  rw [enclosed_iff onLine, Fenceless]
  decide +kernel

end Retrofit.Document
