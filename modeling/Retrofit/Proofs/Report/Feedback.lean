import Mathlib.Algebra.Ring.Nat
import Mathlib.Data.List.Forall2
import Retrofit.Report.Feedback

/-! What a report says, and that all of it is true of the batch: every file is reported on once, in order,
and the numbers that are counted apart from each other agree. -/
namespace Retrofit

namespace Count

/-- The count is that number, which it is on the nose for the length of any list that a memory holds. -/
def Holds (c : Count) (n : Nat) : Prop :=
  c = .of n ∧ (n < UInt64.size → c.val = n)

theorem of_holds (n : Nat) : (Count.of n).Holds n :=
  ⟨rfl, Nat.mod_eq_of_lt⟩

theorem of_add (m n : Nat) : Count.of (m + n) = Count.of m + Count.of n := by
  apply Fin.ext
  rw [Fin.val_add]
  exact Nat.add_mod m n UInt64.size

end Count

namespace Project

theorem functionCount_eq_sum (p : Project) :
    p.functionCount = (p.modules.map (·.functions.length)).sum := by
  have behind (ms : List Module) (n : Nat) :
      ms.foldl (fun n m => n + m.functions.length) n = n + (ms.map (·.functions.length)).sum := by
    induction ms generalizing n with
    | nil => rfl
    | cons m ms ih => rw [List.foldl_cons, ih, List.map_cons, List.sum_cons, Nat.add_assoc]
  rw [functionCount, behind, Nat.zero_add]

/-- Every debt has one of the severities, and only one. -/
theorem debtCount_sum (p : Project) :
    p.debtCount .critical + p.debtCount .high + p.debtCount .medium + p.debtCount .low =
      p.debts.length := by
  unfold debtCount
  induction p.debts with
  | nil => rfl
  | cons d ds ih =>
    simp only [List.countP_cons, List.length_cons, ← ih]
    cases d.severity <;> simp only [reduceCtorEq, decide_true, decide_false, if_true, if_false] <;> omega

end Project

/-- The figures are those of the project, and the debts of the four severities make up all of them. -/
structure Stats.Describes (st : Stats) (p : Project) : Prop where
  modules : st.modules.Holds p.modules.length
  functions : st.functions.Holds (p.modules.map (·.functions.length)).sum
  debts : st.debts.Holds p.debts.length
  critical : st.critical.Holds (p.debtsOf .critical).length
  high : st.high.Holds (p.debtsOf .high).length
  medium : st.medium.Holds (p.debtsOf .medium).length
  low : st.low.Holds (p.debtsOf .low).length
  complete : st.critical + st.high + st.medium + st.low = st.debts
  balanced : p.debts.length < UInt64.size →
    st.critical.val + st.high.val + st.medium.val + st.low.val = st.debts.val

theorem Stats.ofProject_describes (p : Project) : (Stats.ofProject p).Describes p := by
  have severity (s : Severity) : (Count.of (p.debtCount s)).Holds (p.debtsOf s).length := by
    rw [Project.debtCount, List.countP_eq_length_filter]
    exact Count.of_holds _
  have functions : (Count.of p.functionCount).Holds (p.modules.map (·.functions.length)).sum := by
    rw [p.functionCount_eq_sum]
    exact Count.of_holds _
  refine ⟨Count.of_holds _, functions, Count.of_holds _, severity _, severity _, severity _, severity _,
    ?_, ?_⟩
  · simp only [Stats.ofProject, ← Count.of_add, p.debtCount_sum]
  · intro bounded
    have all := p.debtCount_sum
    have exact (n : Nat) (part : n ≤ p.debts.length) : (Count.of n).val = n :=
      (Count.of_holds n).2 (Nat.lt_of_le_of_lt part bounded)
    simp only [Stats.ofProject]
    rw [exact _ (by omega), exact _ (by omega), exact _ (by omega), exact _ (by omega),
      exact _ (Nat.le_refl _)]
    exact all

namespace FileReport

/-- What is reported on a file is what became of it. -/
inductive Tells (r : FileReport) (o : Outcome) : Prop
  | failure (f d) (failed : o.result = .error f) (unsuccessful : r.success = false)
      (only : r.diagnostics = [d]) (level : d.level = .error) (kind : d.kind = some f.failure.kind)
      (message : d.message = f.failure.message) (snippet : d.snippet = f.failure.snippet?)
      (stage : d.stage = some f.stage) (uncounted : r.stats = none) (undocumented : r.documents = [])
  | success (a st) (ok : o.result = .ok a) (successful : r.success = true)
      (harmless : ∀ d ∈ r.diagnostics, d.level ≠ .error)
      (silent : a.modernization.structured = true → r.diagnostics = [])
      (warned : a.modernization.structured = false ↔
        ∃ d, r.diagnostics = [d] ∧ d.level = .warning ∧ d.code = "W0001")
      (counted : r.stats = some st) (figures : st.Describes a.project)
      (documented : r.documents = a.documents.map (·.name))

variable {o : Outcome}

theorem filename_ofOutcome (o : Outcome) : (ofOutcome o).filename = o.source.path := by
  unfold ofOutcome
  split <;> rfl

theorem success_ofOutcome (o : Outcome) : (ofOutcome o).success = o.succeeded := by
  unfold ofOutcome Outcome.succeeded
  split <;> rename_i result <;> rw [result] <;> rfl

theorem ofOutcome_of_ok {a : Artifacts} (ok : o.result = .ok a) :
    ofOutcome o =
      ⟨o.source.path, true, if a.modernization.structured then [] else [unstructuredWarning],
        some (.ofProject a.project), a.documents.map (·.name)⟩ := by
  simp only [ofOutcome, ok]

theorem ofOutcome_of_error {f : StageFailure} (failed : o.result = .error f) :
    ofOutcome o = ofFailure o.source.path f.stage f.failure := by
  simp only [ofOutcome, failed]

theorem ofOutcome_tells (o : Outcome) : (ofOutcome o).Tells o := by
  cases result : o.result with
  | error f =>
    rw [ofOutcome_of_error result]
    exact .failure f _ result rfl rfl rfl rfl rfl rfl rfl rfl rfl
  | ok a =>
    have figures := Stats.ofProject_describes a.project
    rw [ofOutcome_of_ok result]
    cases structured : a.modernization.structured with
    | true =>
      refine .success a _ result rfl (by simp) (fun _ => rfl) ?_ rfl figures rfl
      simp [structured]
    | false =>
      have warning : unstructuredWarning.level = .warning ∧ unstructuredWarning.code = "W0001" :=
        ⟨rfl, rfl⟩
      refine .success a _ result rfl ?_ (by simp [structured]) ?_ rfl figures rfl
      · simp [warning.1]
      · exact iff_of_true structured ⟨_, rfl, warning⟩

end FileReport

theorem RunReport.succeeded_ofOutcomes (model : String) (os : List Outcome) :
    (ofOutcomes model os).files.countP (·.success) = succeededCount os := by
  simp only [ofOutcomes, List.countP_map, succeededCount]
  exact List.countP_congr fun o _ => by rw [Function.comp_apply, FileReport.success_ofOutcome]

/-- A report counts all files and the successes among those it lists; it lists the files in order, and
tells of each what became of it. -/
theorem RunReport.ofOutcomes_faithful (model : String) (os : List Outcome) :
    let r := ofOutcomes model os
    r.model = model ∧
      r.processed.Holds os.length ∧
      r.succeeded.Holds (r.files.countP (·.success)) ∧
      r.files.map (·.filename) = os.map (·.source.path) ∧
      List.Forall₂ FileReport.Tells r.files os := by
  intro r
  have files : r.files = os.map FileReport.ofOutcome := rfl
  refine ⟨rfl, Count.of_holds _, ?_, ?_, ?_⟩
  · rw [succeeded_ofOutcomes]
    exact Count.of_holds _
  · rw [files, List.map_map]
    exact List.map_congr_left fun o _ => FileReport.filename_ofOutcome o
  · rw [files, List.forall₂_map_left_iff, List.forall₂_same]
    exact fun o _ => FileReport.ofOutcome_tells o

end Retrofit
