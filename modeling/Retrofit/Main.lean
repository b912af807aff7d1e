import Retrofit.Command.Execution

/-! The program: the files and the environment of the system it runs on. -/
namespace Retrofit

/-- The refusal behind an error number of the system, which some operations give with a minus sign. -/
def Refusal.ofCode (code : UInt32) (message : String) : Refusal :=
  match if code < 0x80000000 then code else -code with
  | 2 => .notFound
  | 13 => .other "Permission denied (os error 13)"
  | 17 => .exists
  | 20 => .notDirectory
  | 21 => .isDirectory
  | 36 => .nameTooLong
  | _ => .other message

def Refusal.ofError (e : IO.Error) : Refusal :=
  match e with
  | .noFileOrDirectory _ code _ | .alreadyExists _ code _ | .invalidArgument _ code _
  | .permissionDenied _ code _ | .resourceExhausted _ code _ | .inappropriateType _ code _
  | .noSuchThing _ code _ | .otherError code _ => .ofCode code (toString e)
  | _ => .other (toString e)

/-- Runs an action on a path that the system can be given. -/
def attempt {α : Type} (path : String) (act : IO α) : IO (Except Refusal α) := do
  if path.toList.any (· == '\x00') then return .error .nulInPath
  if path = "" then return .error .notFound
  try return .ok (← act) catch e => return .error (.ofError e)

/-- The files of the system. A name that is no text cannot be asked for here. -/
def systemHost : Host IO where
  readText path := do
    let some name := path.text? | return .error .notFound
    match ← attempt name (IO.FS.readBinFile name) with
    | .error r => return .error r
    | .ok bytes =>
      match String.fromUTF8? bytes with
      | some text => return .ok text
      | none => return .error .notText
  isDirectory path := do
    match ← attempt path (do (← IO.FS.realPath path).isDir) with
    | .ok found => return found
    | .error _ => return false
  makeDirectory path := attempt path (IO.FS.createDir path)
  writeText path content := attempt path (IO.FS.writeFile path content)

def settings (names : List String) : IO (List (String × String)) := do
  let values ← names.mapM fun name => return (name, ← IO.getEnv name)
  return values.filterMap fun (name, value) => value.map (name, ·)

end Retrofit

open Retrofit in
def main (args : List String) : IO UInt32 := do
  let set ← settings [Config.modelVariable, Config.temperatureVariable, Config.responsesVariable]
  let r ← reply systemHost (fun name => set.lookup name) args
  IO.print r.output
  IO.eprint r.errors
  return r.exit.toUInt32
