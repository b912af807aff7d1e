import Retrofit.Disk.Host
import Retrofit.Run.Layout

/-! Between a run and the files: reading sources and recorded responses, and writing what was made. -/
namespace Retrofit

def Failure.ofRefusal (r : Refusal) : Failure := .io r.message

namespace Source

/-- The folder of a source: the names above the last part of its path, so that it never points above or
beside the directory that everything is written to. -/
def folderOf (path : RawPath) : Option String :=
  if path.above.isEmpty then none else some (Text.join "/" (path.above.map Octets.text))

def ofFile (path : RawPath) (language code : String) : Source where
  filename := Octets.text (path.fileName?.getD path.octets)
  folder := folderOf path
  language := language
  code := code

end Source

namespace Recording

/-- Where the response to a request is recorded. -/
def path (root source : String) (stage : Stage) : String :=
  Path.join root s!"{source}.{stage.tag}.json"

def missing (source : String) (stage : Stage) (path : String) (r : Refusal) : Failure :=
  .model s!"no recorded {stage.tag} response for {source} at {path}: {r.message}"

def response (root source : String) (stage : Stage) (found : Except Refusal String) :
    Except Failure String :=
  match found with
  | .ok text => .ok text
  | .error r => .error (missing source stage (path root source stage) r)

end Recording

namespace Host

variable {m : Type → Type} [Monad m]

def loadSource (host : Host m) (path : RawPath) (language : String) :
    m (Except Failure Source) := do
  match ← host.readText path with
  | .ok code => return .ok (.ofFile path language code)
  | .error r => return .error (.ofRefusal r)

/-- The recorded response to a request, with the event of looking for it. -/
def replay (host : Host m) (root source : String) (stage : Stage) :
    m (Event × Except Failure String) := do
  let found ← host.readText (Recording.path root source stage)
  return (.replaying stage (Recording.path root source stage),
    Recording.response root source stage found)

/-- A model that answers with what is recorded when it is asked. -/
def recorded (host : Host m) (root : String) : Model m := fun r => do
  return (← host.replay root r.source r.stage).2

/-- Writes the files in order, up to the first that is refused. -/
def writeFiles (host : Host m) (root : String) :
    List (String × String) → m (List Event × Except Refusal Unit)
  | [] => return ([], .ok ())
  | (relative, content) :: rest => do
    let path := Path.join root relative
    match ← host.place path content with
    | .error r => return ([], .error r)
    | .ok () =>
      let (events, result) ← writeFiles host root rest
      return (.wrote path :: events, result)

end Host

structure Written where
  source : String
  base : String
  files : Nat
  deriving DecidableEq

/-- What is left to say about a batch after writing. -/
structure Writing where
  outcomes : List Outcome
  written : List Written
  events : List Event

namespace Writing

variable {m : Type → Type} [Monad m]

/-- Writes the artifacts of the successful files below `root`. A file that cannot be written fails at the
output stage, and the others are still written; its base remains taken. -/
def writeAll (host : Host m) (root : String) (taken : List String) :
    List Outcome → m Writing
  | [] => return ⟨[], [], []⟩
  | o :: rest =>
    match o.result with
    | .error _ => do
      let later ← writeAll host root taken rest
      return ⟨o :: later.outcomes, later.written, later.events⟩
    | .ok a => do
      let (base, held) := Layout.takeBase o.source taken
      let files := Layout.files base o.source a
      let (events, result) ← host.writeFiles root files
      let later ← writeAll host root held rest
      match result with
      | .ok () =>
        return ⟨o :: later.outcomes, ⟨o.source.path, base, files.length⟩ :: later.written,
          events ++ later.events⟩
      | .error r =>
        let f := Failure.ofRefusal r
        return ⟨{ o with result := .error ⟨.output, f⟩ } :: later.outcomes, later.written,
          events ++ .notWritten o.source.path base f :: later.events⟩

end Writing

end Retrofit
