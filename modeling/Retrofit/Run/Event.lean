import Retrofit.Run.Stage
import Retrofit.Text.Quoted

/-! What a run notes down while it goes on. -/
namespace Retrofit

inductive Event where
  | ignoredTemperature (raw : String)
  | replaying (stage : Stage) (path : String)
  | analyzing (source : String)
  | analyzed (source : String) (modules functions debts : Nat)
  | modernizing (source : String)
  | unstructured (source : String)
  | done (position total : Nat) (source : String)
  | failed (position total : Nat) (source : String) (failure : StageFailure)
  | finished (succeeded total : Nat)
  | wrote (path : String)
  | notWritten (source base : String) (failure : Failure)

namespace Event

def level : Event → String
  | .ignoredTemperature _ | .unstructured _ | .failed .. | .notWritten .. => "WARN"
  | .analyzing _ | .modernizing _ | .done .. | .finished .. => "INFO"
  | .replaying .. | .analyzed .. | .wrote _ => "DEBUG"

def message : Event → String
  | .ignoredTemperature raw => s!"Ignoring RELIC_TEMPERATURE={Text.quoted raw}, using 0"
  | .replaying stage path => s!"Replaying {stage.tag} response from {path}"
  | .analyzing source => s!"Analyzing {source}"
  | .analyzed source modules functions debts =>
    s!"{source}: {modules} modules, {functions} functions, {debts} debt items"
  | .modernizing source => s!"Modernizing {source}"
  | .unstructured source => s!"{source}: modernization response was not JSON, using it as code"
  | .done position total source => s!"[{position}/{total}] {source} done"
  | .failed position total source failure =>
    s!"[{position}/{total}] {source} failed: {failure.message}"
  | .finished succeeded total => s!"{succeeded}/{total} files modernized"
  | .wrote path => s!"Wrote {path}"
  | .notWritten source base failure => s!"{source}: cannot write {base}: {failure.message}"

def text (e : Event) : String := s!"{e.level} {e.message}"

end Event

end Retrofit
