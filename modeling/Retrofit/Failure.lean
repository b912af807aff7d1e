import Retrofit.Text.Cut

/-! What can go wrong with one file. A failure caused by a response keeps the beginning of that
response. -/
namespace Retrofit

inductive Failure where
  /-- The response is not JSON. -/
  | malformed (message snippet : String)
  /-- The response is JSON of another form than asked for. -/
  | schema (message snippet : String)
  | missing (field : String)
  /-- The model gave no response. -/
  | model (message : String)
  | io (message : String)
  deriving DecidableEq

namespace Failure

def snippetLength : Nat := 500

def malformedFrom (message raw : String) : Failure :=
  .malformed message (Text.takeChars snippetLength raw)

def schemaFrom (message raw : String) : Failure :=
  .schema message (Text.takeChars snippetLength raw)

def snippet? : Failure → Option String
  | .malformed _ s | .schema _ s => some s
  | .missing _ | .model _ | .io _ => none

def kind : Failure → String
  | .malformed .. => "MalformedPayload"
  | .schema .. => "SchemaViolation"
  | .missing _ => "MissingField"
  | .model _ => "Model"
  | .io _ => "Io"

def message : Failure → String
  | .malformed m _ => s!"Model did not return valid JSON: {m}"
  | .schema m _ => s!"Model output failed schema validation: {m}"
  | .missing field => "Missing '" ++ field ++ "' field"
  | .model m => s!"Model invocation failed: {m}"
  | .io m => s!"IO error: {m}"

end Failure

end Retrofit
