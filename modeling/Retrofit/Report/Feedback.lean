import Retrofit.Report.Schema
import Retrofit.Run.Batch

/-! The reports that a run gives. -/
namespace Retrofit

def Stats.ofProject (p : Project) : Stats where
  modules := .of p.modules.length
  functions := .of p.functionCount
  debts := .of p.debts.length
  critical := .of (p.debtCount .critical)
  high := .of (p.debtCount .high)
  medium := .of (p.debtCount .medium)
  low := .of (p.debtCount .low)

namespace FileReport

def ofFailure (filename : String) (stage : Stage) (f : Failure) : FileReport where
  filename := filename
  success := false
  diagnostics := [.ofFailure f (some stage)]
  stats := none
  documents := []

def ofValidation (filename : String) : Except Failure Project → FileReport
  | .ok p => ⟨filename, true, [], some (.ofProject p), []⟩
  | .error f => ofFailure filename .analysis f

def unstructuredWarning : Diagnostic :=
  .warning "W0001" "Modernization response was not JSON; raw text used as code" (some .modernization)

def ofOutcome (o : Outcome) : FileReport :=
  match o.result with
  | .ok a =>
    { filename := o.source.path
      success := true
      diagnostics := if a.modernization.structured then [] else [unstructuredWarning]
      stats := some (.ofProject a.project)
      documents := a.documents.map (·.name) }
  | .error f => ofFailure o.source.path f.stage f.failure

end FileReport

def RunReport.ofOutcomes (model : String) (os : List Outcome) : RunReport where
  model := model
  processed := .of os.length
  succeeded := .of (succeededCount os)
  files := os.map .ofOutcome

end Retrofit
