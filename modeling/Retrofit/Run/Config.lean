import Retrofit.Binary64.Decimal
import Retrofit.Run.Event
import Retrofit.Text.Blank

/-! How the model is asked. -/
namespace Retrofit

structure Config where
  model : String
  temperature : Binary64
  responses : String
  deriving DecidableEq

namespace Config

def default : Config := ⟨"mistralai/devstral-2512:free", .zero, "responses"⟩

def modelVariable : String := "RELIC_MODEL"

def temperatureVariable : String := "RELIC_TEMPERATURE"

def responsesVariable : String := "RELIC_RESPONSES_DIR"

/-- The value of a variable, or `otherwise` if it is not set or blank. -/
def filledOr (otherwise : String) : Option String → String
  | some v => if Text.isBlank v then otherwise else v
  | none => otherwise

/-- A temperature is a finite number that is not below zero; minus zero is not. -/
def temperature? (raw : String) : Option Binary64 :=
  match Binary64.parse? (Text.trim raw).toList with
  | some t => if t.less .zero then none else some t
  | none => none

/-- The defaults, overridden by the variables of the environment. -/
def ofEnvironment (lookup : String → Option String) : Config × List Event :=
  let model := filledOr default.model (lookup modelVariable)
  let responses := filledOr default.responses (lookup responsesVariable)
  match lookup temperatureVariable with
  | none => (⟨model, default.temperature, responses⟩, [])
  | some raw =>
    match temperature? raw with
    | some t => (⟨model, t, responses⟩, [])
    | none => (⟨model, default.temperature, responses⟩, [.ignoredTemperature raw])

end Config

end Retrofit
