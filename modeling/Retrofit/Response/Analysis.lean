import Retrofit.Failure
import Retrofit.Json.Reader
import Retrofit.Project.Schema
import Retrofit.Response.Fence

/-! From the response of an analysis to a project. -/
namespace Retrofit

namespace Response

/-- The JSON text in a response, whatever it says. -/
def payload (raw : String) : Except Failure String :=
  let text := unfenced raw
  match Json.parse text with
  | .ok _ => .ok text
  | .error f => .error (.malformedFrom (f.message text) raw)

end Response

namespace Project

/-- What no schema can say: a project has a module, and every function is described. -/
inductive Defect where
  | noModules
  | blankDescription (module function : Nat) (name : String)

def Defect.message : Defect → String
  | .noModules => "'modules' must contain at least one entry"
  | .blankDescription m f name =>
    s!"modules[{m}].functions[{f}] ('" ++ name ++ "'): 'description' must not be empty"

/-- The first function that is not described, as a position and a name. -/
def firstBlank? (position : Nat) : List Function → Option (Nat × String)
  | [] => none
  | f :: rest =>
    if Text.isBlank f.description then some (position, f.name) else firstBlank? (position + 1) rest

def firstBlankIn? (position : Nat) : List Module → Option Defect
  | [] => none
  | m :: rest =>
    match firstBlank? 0 m.functions with
    | some (i, name) => some (.blankDescription position i name)
    | none => firstBlankIn? (position + 1) rest

def defect? (p : Project) : Option Defect :=
  if p.modules.isEmpty then some .noModules else firstBlankIn? 0 p.modules

/-- The project that a payload describes. A failure quotes from `raw`. -/
def validateFrom (raw payload : String) : Except Failure Project :=
  match Project.decode payload with
  | .error f =>
    .error <| if f.cause.isMismatch then .schemaFrom (f.message payload) raw
      else .malformedFrom (f.message payload) raw
  | .ok p =>
    match p.defect? with
    | some d => .error (.schemaFrom d.message raw)
    | none => .ok p

def validate (payload : String) : Except Failure Project :=
  validateFrom payload payload

/-- The project that the response of an analysis describes. -/
def ofResponse (raw : String) : Except Failure Project :=
  (Response.payload raw).bind (validateFrom raw)

end Project

end Retrofit
