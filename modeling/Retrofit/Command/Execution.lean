import Retrofit.Command.Arguments
import Retrofit.Disk.Store
import Retrofit.Report.Feedback

/-! Carrying out a command. -/
namespace Retrofit

/-- What a command leaves behind besides files. -/
structure Reply where
  exit : Nat
  output : String
  errors : String
  deriving DecidableEq

namespace Reply

def success (output : String) : Reply := ⟨0, output, ""⟩

def failed (output message : String) : Reply := ⟨1, output, s!"Error: {message}\n"⟩

def misused : Reply := ⟨2, "", ""⟩

end Reply

namespace Execution

variable {m : Type → Type} [Monad m]

/-- The sources in order, or the first path that cannot be read. -/
def loadAll (host : Host m) (language : String) (folder : Option String) :
    List String → m (Except (String × Failure) (List Source))
  | [] => return .ok []
  | path :: rest => do
    match ← host.loadSource path language with
    | .error f => return .error (path, f)
    | .ok s =>
      let s := match folder with
        | some name => { s with folder := some name }
        | none => s
      match ← loadAll host language folder rest with
      | .error e => return .error e
      | .ok later => return .ok (s :: later)

def greeting (c : Config) : String :=
  s!"Relic v0.1.0\nModel: {c.model}\n"

def writtenLine (w : Written) : String :=
  s!"  [✓] {w.source} -> {w.base} ({w.files} files)\n"

def failureLine (f : Source × StageFailure) : String :=
  s!"  [✗] {f.1.path}: {f.2.message}\n"

/-- The lines on the files: those written, then those that failed. -/
def fileLines (w : Writing) : String :=
  String.join (w.written.map writtenLine) ++ String.join ((failures w.outcomes).map failureLine)

/-- The count of successes, and the exit that it leads to. -/
def conclude (output : String) (os : List Outcome) : Reply :=
  let succeeded := succeededCount os
  let output := output ++ s!"\n{succeeded}/{os.length} files modernized\n"
  if os.length - succeeded = 0 then .success output
  else .failed output s!"{os.length - succeeded} file(s) failed"

def report (o : RunOptions) (c : Config) (os : List Outcome) : String :=
  let r := RunReport.ofOutcomes c.model os
  if o.compact then r.compact else r.pretty

def runOptions (host : Host m) (environment : String → Option String) (o : RunOptions) : m Reply := do
  let c := (Config.ofEnvironment environment).1
  let c := { c with
    responses := o.responses.getD c.responses
    model := o.model.getD c.model }
  match ← loadAll host o.language o.folder o.files with
  | .error (path, f) => return .failed (greeting c) s!"reading {path}: {f.message}"
  | .ok sources =>
    let batch ← Batch.process (host.recorded c.responses) c sources
    let writing ← Writing.writeAll host o.out [] batch.outcomes
    let output := greeting c ++ fileLines writing
    match o.report with
    | none => return conclude output writing.outcomes
    | some path =>
      match ← host.writeText path (report o c writing.outcomes) with
      | .error r => return .failed output s!"writing report {path}: {r.message}"
      | .ok () =>
        return conclude (output ++ s!"  [→] Report written to: {path}\n") writing.outcomes

/-- Answers about the response in a file, once it has been read. -/
def withResponse (host : Host m) (path : String) (answer : String → Reply) : m Reply := do
  match ← host.readText path with
  | .ok raw => return answer raw
  | .error r => return .failed "" s!"reading {path}: {r.message}"

def validated (path : String) (json : Bool) (raw : String) : Reply :=
  let result := Project.ofResponse raw
  if json then
    let output := (FileReport.ofValidation path result).pretty ++ "\n"
    if result.isOk then .success output else ⟨1, output, ""⟩
  else
    match result with
    | .ok p =>
      .success <| s!"  [✓] Valid IR for {p.legacyName}\n" ++
        s!"      {p.modules.length} modules, {p.functionCount} functions, " ++
        s!"{p.debts.length} debt items\n"
    | .error f =>
      let snippet := match f.snippet? with
        | some s => s!"\n{s}\n"
        | none => ""
      .failed (s!"  [✗] {f.message}\n" ++ snippet) s!"{path} is not a valid analysis response"

def shown (path : String) (view : Project → String) (raw : String) : Reply :=
  match Project.ofResponse raw with
  | .ok p => .success (view p)
  | .error f => .failed "" s!"parsing {path}: {f.message}"

def skeletonView (language : Option String) (p : Project) : String :=
  match language with
  | some l => p.skeletonFor (Target.ofLanguage l)
  | none => p.skeleton

end Execution

open Execution in
def Command.execute {m : Type → Type} [Monad m] (host : Host m)
    (environment : String → Option String) : Command → m Reply
  | .version => return .success "relic 0.1.0\n"
  | .run o => runOptions host environment o
  | .validate path json => withResponse host path (validated path json)
  | .skeleton path language => withResponse host path (shown path (skeletonView language))
  | .inspect path => withResponse host path (shown path Document.inspection)

/-- The reply to the words of a command line. -/
def reply {m : Type → Type} [Monad m] (host : Host m) (environment : String → Option String)
    (args : List String) : m Reply :=
  match Command.ofArguments args with
  | some c => c.execute host environment
  | none => return .misused

end Retrofit
