import Retrofit.Failure

/-! The steps of a run at which a file can fail: the two questions to the model, and writing the
results. -/
namespace Retrofit

inductive Stage where
  | analysis
  | modernization
  | output
  deriving DecidableEq

def Stage.tags : List String := ["analysis", "modernization", "output"]

def Stage.index : Stage → Fin 3
  | .analysis => 0
  | .modernization => 1
  | .output => 2

def Stage.tag (s : Stage) : String := Stage.tags.get s.index

def Stage.ofIndex : Fin 3 → Stage
  | 0 => .analysis
  | 1 => .modernization
  | 2 => .output

structure StageFailure where
  stage : Stage
  failure : Failure
  deriving DecidableEq

def StageFailure.message (f : StageFailure) : String :=
  s!"{f.stage.tag} stage: {f.failure.message}"

end Retrofit
