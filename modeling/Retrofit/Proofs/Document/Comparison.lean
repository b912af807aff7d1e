import Mathlib.Algebra.BigOperators.Group.List.Basic
import Mathlib.Algebra.Ring.Nat
import Retrofit.Document.Comparison
import Retrofit.Proofs.Text.Title
import Retrofit.Proofs.Text.Words

/-! The table of old and new patterns. It is drawn for four columns, but the words of a debt are put into
its cells as they are: the table keeps its form as long as no line break and no bar is among them. -/
namespace Retrofit

namespace Chars

/-- What stands between the first and the last bar of a line, cut at the bars between these. -/
def cells (line : List Char) : List (List Char) :=
  ((splitWhere (· == '|') line).drop 1).dropLast

/-- A line of a table with four columns. -/
structure Row (line : List Char) : Prop where
  opens : line.head? = some '|'
  closes : line.getLast? = some '|'
  four : (cells line).length = 4

instance (line : List Char) : Decidable (Row line) :=
  decidable_of_iff (line.head? = some '|' ∧ line.getLast? = some '|' ∧ (cells line).length = 4)
    ⟨fun ⟨opens, closes, four⟩ => ⟨opens, closes, four⟩, fun row => ⟨row.opens, row.closes, row.four⟩⟩

/-- Five bars make four cells. -/
theorem length_cells (line : List Char) : (cells line).length = line.count '|' - 1 := by
  unfold cells
  rw [List.length_dropLast, List.length_drop, length_splitWhere, Nat.add_sub_cancel]
  rfl

end Chars

namespace Document

open Chars (lines lines_join length_lines lines_of_unbroken)

/-- What the table shows of a debt in the words of the analysis. -/
def shown (d : Debt) : List Char :=
  d.description.toList.take cellChars ++ d.recommendation.toList.take cellChars

/-- The habit that is known of the language shows in the code. -/
def habitShows (language code : String) : Bool :=
  (Target.ofLanguage language).conventions.heuristic.any (·.applies language code)

/-- A line for the headings, one below it, one for each debt up to five, and one for the habit if it shows;
and each line is divided into four cells. -/
structure Tabular (p : Project) (legacyCode : String) : Prop where
  height : (lines (comparisonTable p legacyCode).toList).length =
    2 + min 5 p.debts.length + (habitShows p.language legacyCode).toNat
  rows : ∀ line ∈ lines (comparisonTable p legacyCode).toList, Chars.Row line

theorem heuristic_row {t : Target} {h : Heuristic} (known : t.conventions.heuristic = some h) :
    '\n' ∉ h.row.toList ∧ Chars.Row h.row.toList := by
  cases t <;> cases known <;> decide +kernel

theorem heuristicRow_cases (language code : String) :
    (heuristicRow language code = [] ∧ habitShows language code = false) ∨
      ∃ row, heuristicRow language code = [row] ∧ habitShows language code = true ∧
        '\n' ∉ row.toList ∧ Chars.Row row.toList := by
  unfold heuristicRow habitShows
  cases known : (Target.ofLanguage language).conventions.heuristic with
  | none => exact .inl ⟨rfl, rfl⟩
  | some h =>
    cases shows : h.applies language code with
    | false => simp [shows]
    | true => exact .inr ⟨h.row, if_pos shows, shows, heuristic_row known⟩

/-! One debt -/

section Rows

variable (d : Debt)

theorem toList_comparisonRow :
    (comparisonRow d).toList =
      '|' :: ' ' :: (Text.title d.category.tag).toList ++ [' ', '|', ' '] ++
        d.description.toList.take cellChars ++ [' ', '|', ' '] ++
        d.recommendation.toList.take cellChars ++ [' ', '|', ' '] ++
        d.category.benefit.toList ++ [' ', '|'] := by
  simp [comparisonRow, Text.toString_same, Text.takeChars]

theorem count_comparisonRow :
    (comparisonRow d).toList.count '|' = 5 + (shown d).count '|' ∧
      (comparisonRow d).toList.count '\n' = (shown d).count '\n' := by
  have titled {sign : Char} (caseless : Chars.Caseless sign) (foreign : sign ∉ d.category.tag.toList) :
      (Text.title d.category.tag).toList.count sign = 0 :=
    List.count_eq_zero.mpr fun member => foreign (Text.mem_title caseless member)
  have words : ('|' ∉ d.category.tag.toList ∧ '\n' ∉ d.category.tag.toList) ∧
      d.category.benefit.toList.count '|' = 0 ∧ d.category.benefit.toList.count '\n' = 0 := by
    cases d.category <;> decide +kernel
  obtain ⟨⟨barless, flat⟩, benefit⟩ := words
  -- what is drawn has five bars and no line break, so that all others come from the debt
  have bars := titled Chars.bar_caseless barless
  have breaks := titled Chars.newline_caseless flat
  rw [toList_comparisonRow, shown]
  simp [bars, breaks, benefit]
  omega

theorem comparisonRow_unbroken_iff : '\n' ∉ (comparisonRow d).toList ↔ '\n' ∉ shown d := by
  rw [← List.count_eq_zero, (count_comparisonRow d).2, List.count_eq_zero]

/-- A row that stays on one line is a row of the table if the debt brings no bars of its own. -/
theorem row_comparisonRow_iff : Chars.Row (comparisonRow d).toList ↔ '|' ∉ shown d := by
  have bars : (Chars.cells (comparisonRow d).toList).length = 4 + (shown d).count '|' := by
    rw [Chars.length_cells, (count_comparisonRow d).1]
    omega
  refine ⟨?_, ?_⟩
  · intro row
    rw [← List.count_eq_zero]
    have four := row.four
    omega
  · intro none
    refine ⟨?_, ?_, ?_⟩
    · rw [toList_comparisonRow]
      rfl
    · rw [toList_comparisonRow, List.getLast?_append]
      rfl
    · rw [bars, List.count_eq_zero.mpr none]

end Rows

/-! The whole table -/

section Table

variable (p : Project) (legacyCode : String)

theorem lines_comparisonTable :
    lines (comparisonTable p legacyCode).toList =
      (comparisonLines p legacyCode).flatMap fun s => lines s.toList :=
  lines_join (by simp [comparisonLines])

/-- Each line break in the words of a debt makes the table one line longer. -/
theorem height_comparisonTable :
    (lines (comparisonTable p legacyCode).toList).length =
      2 + min 5 p.debts.length + (habitShows p.language legacyCode).toNat +
        ((p.debts.take comparisonRows).map fun d => (shown d).count '\n').sum := by
  have habit : ((heuristicRow p.language legacyCode).map fun s => (lines s.toList).length).sum =
      (habitShows p.language legacyCode).toNat := by
    rcases heuristicRow_cases p.language legacyCode with ⟨none, hidden⟩ | ⟨row, one, shows, flat, -⟩
    · rw [none, hidden]
      rfl
    · rw [one, shows]
      simp [lines_of_unbroken flat]
  have debts : ((p.debts.take comparisonRows).map fun d => (lines (comparisonRow d).toList).length).sum =
      ((p.debts.take comparisonRows).map fun d => (shown d).count '\n').sum + min 5 p.debts.length := by
    simp only [length_lines, (count_comparisonRow _).2, List.sum_map_add, List.map_const',
      List.sum_replicate_nat, List.length_take, Nat.mul_one]
    rfl
  rw [lines_comparisonTable, List.length_flatMap]
  simp only [comparisonLines, List.map_append, List.sum_append, habit, List.map_map, Function.comp_def,
    debts]
  have head : (["| Aspect | Legacy Pattern | Modern Pattern | Why? |",
      "|--------|---------------|----------------|------|"].map
        fun s => (lines s.toList).length).sum = 2 := by
    decide
  omega

theorem breaks_eq_zero_iff (ds : List Debt) :
    (ds.map fun d => (shown d).count '\n').sum = 0 ↔ ∀ d ∈ ds, '\n' ∉ shown d := by
  simp only [List.sum_eq_zero_iff_forall_eq_nat, List.forall_mem_map, List.count_eq_zero]

variable {p legacyCode}

theorem comparisonRow_mem_lines {d : Debt} (listed : d ∈ p.debts.take comparisonRows)
    (flat : '\n' ∉ shown d) :
    (comparisonRow d).toList ∈ lines (comparisonTable p legacyCode).toList := by
  rw [lines_comparisonTable, List.mem_flatMap]
  refine ⟨comparisonRow d, ?_, ?_⟩
  · exact List.mem_append_left _ (List.mem_append_right _ (List.mem_map_of_mem listed))
  · rw [lines_of_unbroken ((comparisonRow_unbroken_iff d).mpr flat)]
    exact List.mem_singleton_self _

theorem row_of_mem_comparisonLines
    (plain : ∀ d ∈ p.debts.take comparisonRows, '\n' ∉ shown d ∧ '|' ∉ shown d) :
    ∀ s ∈ comparisonLines p legacyCode, '\n' ∉ s.toList ∧ Chars.Row s.toList := by
  unfold comparisonLines
  rw [List.forall_mem_append, List.forall_mem_append, List.forall_mem_map]
  refine ⟨⟨by decide, ?_⟩, ?_⟩
  · intro d listed
    obtain ⟨flat, barless⟩ := plain d listed
    exact ⟨(comparisonRow_unbroken_iff d).mpr flat, (row_comparisonRow_iff d).mpr barless⟩
  · intro s habit
    rcases heuristicRow_cases p.language legacyCode with ⟨none, -⟩ | ⟨row, one, -, fits⟩
    · rw [none] at habit
      cases habit
    · rw [one, List.mem_singleton] at habit
      exact habit ▸ fits

theorem tabular_of_plain
    (plain : ∀ d ∈ p.debts.take comparisonRows, '\n' ∉ shown d ∧ '|' ∉ shown d) :
    Tabular p legacyCode := by
  refine ⟨?_, ?_⟩
  · rw [height_comparisonTable, (breaks_eq_zero_iff _).mpr fun d listed => (plain d listed).1,
      Nat.add_zero]
  · intro line member
    rw [lines_comparisonTable, List.mem_flatMap] at member
    obtain ⟨s, listed, inside⟩ := member
    obtain ⟨unbroken, row⟩ := row_of_mem_comparisonLines plain s listed
    rw [lines_of_unbroken unbroken, List.mem_singleton] at inside
    exact inside ▸ row

theorem Tabular.plain (table : Tabular p legacyCode) :
    ∀ d ∈ p.debts.take comparisonRows, '\n' ∉ shown d ∧ '|' ∉ shown d := by
  have flat : ∀ d ∈ p.debts.take comparisonRows, '\n' ∉ shown d := by
    rw [← breaks_eq_zero_iff]
    have drawn := table.height
    rw [height_comparisonTable] at drawn
    omega
  intro d listed
  have row := table.rows _ (comparisonRow_mem_lines listed (flat d listed))
  exact ⟨flat d listed, (row_comparisonRow_iff d).mp row⟩

end Table

/-- The table has a line for each debt that it shows and one more for each line break in the words that it
shows of them. It has the form of a table with four columns if and only if there is no line break and no bar
in these words; nothing else that is known of a project, and no code, can spoil it. -/
theorem comparisonTable_tabular_iff (p : Project) (legacyCode : String) :
    (lines (comparisonTable p legacyCode).toList).length =
        2 + min 5 p.debts.length + (habitShows p.language legacyCode).toNat +
          ((p.debts.take 5).map fun d => (shown d).count '\n').sum ∧
      (Tabular p legacyCode ↔ ∀ d ∈ p.debts.take 5, '\n' ∉ shown d ∧ '|' ∉ shown d) :=
  ⟨height_comparisonTable p legacyCode, Tabular.plain, tabular_of_plain⟩

def vault (description : String) : Project :=
  ⟨"cobol", "vault.cbl", "vault.go", "", [], [⟨.security, description, .high, "Mask it"⟩], [], []⟩

/-- A line break in a description is one row too many, and a bar is one cell too many. -/
theorem vault_not_tabular :
    ¬ Tabular (vault "PIN is logged\nin clear text") "" ∧ ¬ Tabular (vault "PIN|PAN in the log") "" := by
  refine ⟨?_, ?_⟩
  · intro table
    obtain ⟨flat, -⟩ := table.plain _ List.mem_cons_self
    exact absurd flat (by decide)
  · intro table
    obtain ⟨-, barless⟩ := table.plain _ List.mem_cons_self
    exact absurd barless (by decide)

end Document

end Retrofit
