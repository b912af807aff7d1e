import Retrofit.Failure
import Retrofit.Json.Reader
import Retrofit.Response.Fence

/-! From the response of a modernization to modern code. Only the code itself is indispensable, and text
that is not JSON is taken for the code. -/
namespace Retrofit

structure Modernization where
  code : String
  filename : String
  summary : String
  /-- False if the response was not JSON. -/
  structured : Bool
  deriving DecidableEq

namespace Modernization

def defaultName : String := "modernized_code.txt"

def defaultSummary : String := "Code modernized"

def unstructured (code : String) : Modernization :=
  ⟨code, defaultName, "Modernization completed (no structured response)", false⟩

def textOr (default : String) : Option Json.Value → String
  | some (.text s) => s
  | _ => default

/-- The failure for a value that should have been the code. -/
def notText (found raw : String) : Failure :=
  .schemaFrom s!"'modernized_code' must be a string, got {found}" raw

def ofMembers (raw : String) (members : List (String × Json.Value)) : Except Failure Modernization :=
  match Json.lastMember? "modernized_code" members with
  | none | some .null => .error (.missing "modernized_code")
  | some (.text code) =>
    .ok ⟨code, textOr defaultName (Json.lastMember? "filename" members),
      textOr defaultSummary (Json.lastMember? "changes_summary" members), true⟩
  | some (.bool _) => .error (notText "a boolean" raw)
  | some (.number _) => .error (notText "a number" raw)
  | some (.array _) => .error (notText "an array" raw)
  | some (.object _) => .error (notText "an object" raw)

def ofResponse (raw : String) : Except Failure Modernization :=
  let text := Response.unfenced raw
  match Json.parse text with
  | .error _ => .ok (unstructured text)
  | .ok (.object members) => ofMembers raw members
  | .ok _ => .error (.missing "modernized_code")

end Modernization

end Retrofit
