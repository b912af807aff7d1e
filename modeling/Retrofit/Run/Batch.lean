import Retrofit.Document.Bundle
import Retrofit.Document.Inspection
import Retrofit.Response.Analysis
import Retrofit.Response.Modernization
import Retrofit.Run.Config
import Retrofit.Run.Source
import Retrofit.Skeleton.Basic

/-! Running a batch. For each file the model is asked for an analysis and then, if that is usable, for
modern code. A failure concerns its own file only. -/
namespace Retrofit

structure Request where
  stage : Stage
  source : String
  model : String
  system : String
  user : String
  temperature : Binary64
  deriving DecidableEq

/-- A model answers a request with text, or refuses. What else there is to asking it, such as a file that is
read, is an effect of `m`. -/
abbrev Model (m : Type → Type) := Request → m (Except Failure String)

/-- Everything that is made of one file. -/
structure Artifacts where
  project : Project
  skeleton : String
  inspection : String
  modernization : Modernization
  documents : List Document

def Artifacts.of (s : Source) (p : Project) (m : Modernization) : Artifacts where
  project := p
  skeleton := p.skeleton
  inspection := Document.inspection p
  modernization := m
  documents := Document.bundle p s.code m.code m.summary

namespace Request

def analysisPrompt : String :=
  "You are a legacy code analyst. Respond with a single JSON object " ++
  "describing the file: language, original_filename, suggested_filename, summary, modules, " ++
  "technical_debt, dependencies and modernization_priority."

def modernizationPrompt : String :=
  "You modernize legacy code. Respond with a single JSON object " ++
  "with the fields modernized_code, filename and changes_summary."

def analysis (c : Config) (s : Source) : Request where
  stage := .analysis
  source := s.path
  model := c.model
  system := analysisPrompt
  user := s!"Language: {s.language}\nFilename: {s.filename}\n\n{s.code}"
  temperature := c.temperature

def modernization (c : Config) (s : Source) (p : Project) : Request where
  stage := .modernization
  source := s.path
  model := c.model
  system := modernizationPrompt
  user := s!"{Document.inspection p}\n\nOriginal code:\n\n{s.code}"
  temperature := c.temperature

end Request

/-- What became of one file, with the events on the way. -/
structure FileRun where
  events : List Event
  result : Except StageFailure Artifacts

namespace FileRun

variable {m : Type → Type} [Monad m]

/-- An answer as what it is read as, or the failure at the stage that it was wanted for. -/
def understand {α : Type} (stage : Stage) (read : String → Except Failure α) :
    Except Failure String → Except StageFailure α
  | .error f => .error ⟨stage, f⟩
  | .ok raw =>
    match read raw with
    | .error f => .error ⟨stage, f⟩
    | .ok x => .ok x

def ask {α : Type} (model : Model m) (r : Request) (read : String → Except Failure α) :
    m (Except StageFailure α) := do
  return understand r.stage read (← model r)

def modernize (model : Model m) (c : Config) (s : Source) (p : Project) : m FileRun := do
  let begun : List Event :=
    [.analyzed s.path p.modules.length p.functionCount p.debts.length, .modernizing s.path]
  match ← ask model (.modernization c s p) Modernization.ofResponse with
  | .error f => return ⟨begun, .error f⟩
  | .ok modern =>
    let events := if modern.structured then begun else begun ++ [.unstructured s.path]
    return ⟨events, .ok (.of s p modern)⟩

def process (model : Model m) (c : Config) (s : Source) : m FileRun := do
  match ← ask model (.analysis c s) Project.ofResponse with
  | .error f => return ⟨[.analyzing s.path], .error f⟩
  | .ok p =>
    let rest ← modernize model c s p
    return ⟨.analyzing s.path :: rest.events, rest.result⟩

end FileRun

structure Outcome where
  source : Source
  result : Except StageFailure Artifacts

def Outcome.succeeded (o : Outcome) : Bool := o.result.isOk

def succeededCount (os : List Outcome) : Nat := os.countP (·.succeeded)

def failures (os : List Outcome) : List (Source × StageFailure) :=
  os.filterMap fun o =>
    match o.result with
    | .ok _ => none
    | .error f => some (o.source, f)

structure Batch where
  outcomes : List Outcome
  events : List Event

namespace Batch

variable {m : Type → Type} [Monad m]

def closing (position total : Nat) (s : Source) : Except StageFailure Artifacts → Event
  | .ok _ => .done position total s.path
  | .error f => .failed position total s.path f

/-- The files from position `n` on. -/
def processFrom (model : Model m) (c : Config) (total : Nat) : (n : Nat) → List Source → m Batch
  | _, [] => return ⟨[], []⟩
  | n, s :: rest => do
    let run ← FileRun.process model c s
    let later ← processFrom model c total (n + 1) rest
    return ⟨⟨s, run.result⟩ :: later.outcomes,
      run.events ++ closing n total s run.result :: later.events⟩

def process (model : Model m) (c : Config) (sources : List Source) : m Batch := do
  let b ← processFrom model c sources.length 1 sources
  return { b with events := b.events ++ [.finished (succeededCount b.outcomes) sources.length] }

end Batch

end Retrofit
