import Retrofit.Proofs.Skeleton.Outline

/-! The marks of stubs in the text of a skeleton. There is one for each function, on a line of its own,
and what the project says adds none. -/
namespace Retrofit

namespace Chars

theorem sum_occurrences (w : List Char) (texts : List (List Char)) :
    (texts.map (occurrences w)).sum = ((texts.filter (w <:+: ·)).map (occurrences w)).sum := by
  induction texts with
  | nil => rfl
  | cons text texts ih =>
    rw [List.map_cons, List.sum_cons, ih]
    by_cases held : w <:+: text
    · rw [List.filter_cons, if_pos (decide_eq_true held), List.map_cons, List.sum_cons]
    · rw [List.filter_cons, if_neg (by simpa using held), occurrences_of_not_infix held, Nat.zero_add]

end Chars

namespace Skeleton

def Line.body (t : Target) : Line → List Char
  | .blank => []
  | .code depth text => indentation t depth ++ text.toList

/-- The line of a stub: indentation, the sign of a comment, a space and the mark. -/
def stubLine (t : Target) (depth : Nat) : List Char :=
  indentation t depth ++ (t.conventions.lineComment ++ " " ++ mark).toList

def markedLines (t : Target) (ls : List Line) : List (List Char) :=
  (ls.flatMap fun l => Chars.lines (l.body t)).filter (mark.toList <:+: ·)

variable {t : Target} {ls : List Line} {n : Nat}

theorem Line.chars_eq_body (t : Target) (l : Line) : l.chars t = l.body t ++ ['\n'] := by
  cases l <;> rfl

/-- A text of the project may have several lines itself, but it stays between the ends of its own. -/
theorem lines_render (t : Target) (ls : List Line) :
    Chars.lines (render t ls).toList = (ls.flatMap fun l => Chars.lines (l.body t)) ++ [[]] := by
  rw [render, String.toList_ofList]
  induction ls with
  | nil => rfl
  | cons l ls ih =>
    have ended : Chars.lines (l.body t ++ '\n' :: ls.flatMap (·.chars t)) =
        Chars.lines (l.body t) ++ Chars.lines (ls.flatMap (·.chars t)) := Chars.lines_append _ _
    rw [List.flatMap_cons, List.flatMap_cons, l.chars_eq_body, List.append_assoc,
      List.singleton_append, ended, ih, List.append_assoc]

theorem markedLines_append (t : Target) (xs ys : List Line) :
    markedLines t (xs ++ ys) = markedLines t xs ++ markedLines t ys := by
  rw [markedLines, List.flatMap_append, List.filter_append]
  rfl

theorem markedLines_plain (t : Target) (depth : Nat) {text : String}
    (lacks : Lacks ["TODO".toList] text.toList) : markedLines t [.code depth text] = [] := by
  have known : ["TODO".toList] ⊆ signs := by decide
  have indented : Lacks ["TODO".toList] (indentation t depth ++ text.toList) := by
    rw [lacks_plain_append known]
    · exact lacks
    · intro c member
      rw [space_of_mem_indentation member]
      simp
  rw [markedLines, List.filter_eq_nil_iff]
  intro line member held
  rw [List.flatMap_singleton] at member
  apply indented "TODO".toList (by simp)
  have begins : "TODO".toList <:+: mark.toList := by decide
  exact begins.trans ((of_decide_eq_true held).trans (Chars.infix_of_mem_splitWhere member))

theorem markedLines_mark (t : Target) (depth : Nat) :
    markedLines t [.code depth (markText t)] = [stubLine t depth] := by
  have unbroken : '\n' ∉ stubLine t depth := by
    rw [stubLine, List.mem_append, not_or]
    refine ⟨not_mem_indentation t depth (by decide), ?_⟩
    cases t <;> decide
  have one : Chars.lines (Line.body t (.code depth (markText t))) = [stubLine t depth] :=
    Chars.lines_of_unbroken unbroken
  have held : mark.toList <:+: stubLine t depth := by
    apply List.IsSuffix.isInfix
    refine ⟨indentation t depth ++ (t.conventions.lineComment ++ " ").toList, ?_⟩
    simp [stubLine]
  rw [markedLines, List.flatMap_singleton, one, List.filter_singleton, decide_eq_true held, cond_true]

/-- The lines with a mark are those of stubs, one for each stub of the outline. -/
theorem exists_markedLines (outline : Outline t ["TODO".toList] n ls) :
    ∃ depths : List Nat, depths.length = n ∧ markedLines t ls = depths.map (stubLine t) := by
  induction outline with
  | nil => exact ⟨[], rfl, rfl⟩
  | blank => exact ⟨[], rfl, rfl⟩
  | plain depth lacks => exact ⟨[], rfl, markedLines_plain t depth lacks⟩
  | mark depth => exact ⟨[depth], rfl, markedLines_mark t depth⟩
  | @block depth header lacks n body inner ih =>
    -- the two lines with the braces hold no mark, so that those inside are all there are
    obtain ⟨depths, count, marked⟩ := ih
    have opens : Lacks ["TODO".toList] (header ++ " \x7b").toList := by
      have known : ["TODO".toList] ⊆ signs := by decide
      have brace : Lacks ["TODO".toList] ['\x7b'] := by decide
      rw [String.toList_append]
      exact (lacks_append_cons known (c := ' ') (by simp) header.toList ['\x7b']).mpr ⟨lacks, brace⟩
    have closes : Lacks ["TODO".toList] "\x7d".toList := by decide
    refine ⟨depths, count, ?_⟩
    rw [← List.singleton_append, markedLines_append, markedLines_append, marked,
      markedLines_plain t depth opens, markedLines_plain t depth closes, List.nil_append,
      List.append_nil]
  | append first second ih₁ ih₂ =>
    obtain ⟨depths₁, count₁, marked₁⟩ := ih₁
    obtain ⟨depths₂, count₂, marked₂⟩ := ih₂
    refine ⟨depths₁ ++ depths₂, ?_, ?_⟩
    · rw [List.length_append, count₁, count₂]
    · rw [markedLines_append, marked₁, marked₂, List.map_append]

theorem occurrences_stubLine (t : Target) (depth : Nat) :
    Chars.occurrences mark.toList (stubLine t depth) = 1 := by
  have before : 'T' ∉ indentation t depth ++ (t.conventions.lineComment ++ " ").toList := by
    rw [List.mem_append, not_or]
    refine ⟨not_mem_indentation t depth (by decide), ?_⟩
    cases t <;> decide
  have letters : mark.toList = 'T' :: "ODO: Implement".toList := by decide
  have skipped := Chars.occurrences_append before "ODO: Implement".toList mark.toList
  have once : Chars.occurrences mark.toList mark.toList = 1 := by decide
  rw [← letters] at skipped
  rw [stubLine, String.toList_append, ← List.append_assoc, skipped, once]

end Skeleton

open Skeleton

/-- A project that does not say `TODO` itself has as many marks in its skeleton as it has functions, and
they are on as many lines, which hold nothing but the mark behind the sign of a comment. -/
theorem Project.skeletonFor_marks (t : Target) {p : Project}
    (unmarked : ∀ s ∈ p.strings, Text.contains s "TODO" = false) :
    Chars.occurrences mark.toList (p.skeletonFor t).toList = p.functionCount ∧
      ∃ depths : List Nat, depths.length = p.functionCount ∧
        (Chars.lines (p.skeletonFor t).toList).filter (mark.toList <:+: ·) =
          depths.map (stubLine t) := by
  have lacks : ∀ s ∈ p.strings, Lacks ["TODO".toList] s.toList := by
    intro s member w sign within
    rw [List.mem_singleton.mp sign] at within
    have said : Text.contains s "TODO" = true := (Chars.occurs_iff _ _).mpr within
    rw [unmarked s member] at said
    exact Bool.false_ne_true said
  obtain ⟨depths, count, marked⟩ :=
    exists_markedLines (projectLines_outline (by decide) lacks t)
  have held : (Chars.lines (p.skeletonFor t).toList).filter (mark.toList <:+: ·) =
      depths.map (stubLine t) := by
    have rest : [[]].filter (mark.toList <:+: ·) = [] := by decide
    rw [skeletonFor_eq_render, lines_render, List.filter_append, rest, List.append_nil]
    exact marked
  refine ⟨?_, depths, count, held⟩
  have newline : '\n' ∉ mark.toList := by decide
  calc Chars.occurrences mark.toList (p.skeletonFor t).toList
      = ((Chars.lines (p.skeletonFor t).toList).map (Chars.occurrences mark.toList)).sum :=
        Chars.occurrences_eq_sum (fun c same => eq_of_beq same) newline (by decide) _
    _ = ((depths.map (stubLine t)).map (Chars.occurrences mark.toList)).sum := by
        rw [Chars.sum_occurrences, held]
    _ = p.functionCount := by
        rw [List.map_map, ← count]
        simp [Function.comp_def, occurrences_stubLine]

/-- A project whose strings hold all parts of a mark and no whole one. -/
def ledger : Project :=
  ⟨"cobol", "ledger.cbl", "ledger.py", "TO DO: Implement", [⟨"Ledger", .interface, "TOD", [],
    [⟨"post", "O: Implement", [⟨"amount", "Decimal", none⟩], [], [], [], [], [], [],
        some "DO: Implement"⟩,
      ⟨"close", "TO", [], [⟨"total", "Decimal", none⟩], ["final"], [], [], [], [], none⟩],
    [⟨"total", "Decimal", some ": Implement"⟩], []⟩], [], [], []⟩

theorem ledger_marks :
    (∀ s ∈ ledger.strings, Text.contains s "TODO" = false) ∧ ledger.functionCount = 2 ∧
      Chars.occurrences mark.toList (ledger.skeletonFor .python).toList = 2 ∧
        ∃ depths : List Nat, depths.length = 2 ∧
          (Chars.lines (ledger.skeletonFor .python).toList).filter (mark.toList <:+: ·) =
            depths.map (stubLine .python) := by
  have unmarked : ∀ s ∈ ledger.strings, Text.contains s "TODO" = false := by decide +kernel
  exact ⟨unmarked, rfl, Project.skeletonFor_marks .python unmarked⟩

end Retrofit
