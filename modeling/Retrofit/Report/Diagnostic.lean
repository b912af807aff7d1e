import Retrofit.Binary64.Basic
import Retrofit.Run.Stage
import Retrofit.Text.Blank

/-! What a run reports about a failure: a code, the message, and what may help against it, the most
promising advice first. -/
namespace Retrofit

structure Suggestion where
  message : String
  confidence : Binary64
  deriving DecidableEq

inductive Level where
  | error
  | warning
  deriving DecidableEq

structure Diagnostic where
  code : String
  level : Level
  kind : Option String
  message : String
  stage : Option Stage
  /-- The beginning of the response that caused the failure. -/
  snippet : Option String
  suggestions : List Suggestion
  deriving DecidableEq

def Level.tags : List String := ["error", "warning"]

def Level.index : Level → Fin 2
  | .error => 0
  | .warning => 1

def Level.ofIndex : Fin 2 → Level
  | 0 => .error
  | 1 => .warning

namespace Suggestion

/-- A suggestion with a confidence of so many tenths. -/
def inTenths (message : String) (tenths : Nat) : Suggestion :=
  ⟨message, (Binary64.ofDecimal? false tenths (-1)).getD .zero⟩

/-- Puts a suggestion before the first of a sorted list that is less confident. -/
def insert (s : Suggestion) : List Suggestion → List Suggestion
  | [] => [s]
  | t :: ts => if t.confidence.less s.confidence then s :: t :: ts else t :: insert s ts

/-- By descending confidence; suggestions of equal confidence keep their order. -/
def sort (ss : List Suggestion) : List Suggestion :=
  ss.foldl (fun sorted s => insert s sorted) []

end Suggestion

namespace Failure

def code : Failure → String
  | .malformed .. => "E0001"
  | .schema .. => "E0002"
  | .missing _ => "E0003"
  | .model _ => "E0004"
  | .io _ => "E0005"

/-- A suggestion that is made only under a condition. -/
def suggestIf (condition : Bool) (s : Suggestion) : List Suggestion :=
  if condition then [s] else []

/-- What may help, before it is sorted. The advice on a schema goes by the words of the message. -/
def advice : Failure → List Suggestion
  | .malformed _ snippet =>
    [.inTenths "Return a single JSON object with no prose around it" 8,
      .inTenths "Remove comments and trailing commas from the JSON" 5] ++
    suggestIf (Text.isBlank snippet)
      (.inTenths "The response was empty; retry the model call" 9)
  | .schema message _ =>
    .inTenths "Compare field names and types against the IR schema" 6 ::
    suggestIf (Text.contains message "unknown variant")
      (.inTenths "Use one of the allowed enum values listed in the message" 9) ++
    suggestIf (Text.contains message "missing field")
      (.inTenths "Add the required field named in the message" 9) ++
    suggestIf (Text.contains message "invalid type")
      (.inTenths "Sequences must be JSON arrays and names must be strings" 7)
  | .missing field =>
    [.inTenths ("Include a '" ++ field ++ "' field in the response object") 9]
  | .model _ =>
    [.inTenths "Check that a response exists for this file and stage" 7,
      .inTenths "Check the model name and retry" 4]
  | .io _ => [.inTenths "Check that the path exists and is accessible" 7]

end Failure

namespace Diagnostic

def ofFailure (f : Failure) (stage : Option Stage) : Diagnostic where
  code := f.code
  level := .error
  kind := some f.kind
  message := f.message
  stage := stage
  snippet := f.snippet?
  suggestions := Suggestion.sort f.advice

def warning (code message : String) (stage : Option Stage) : Diagnostic where
  code := code
  level := .warning
  kind := none
  message := message
  stage := stage
  snippet := none
  suggestions := []

end Diagnostic

end Retrofit
