import Retrofit.Disk.Tree
import Retrofit.Proofs.Command.Loading
import Retrofit.Proofs.Disk.Isolation
import Retrofit.Proofs.Report.Feedback
import Retrofit.Proofs.Report.RoundTrip
import Retrofit.Proofs.Run.Batch

/-! A run tells what became of its files three times: in the lines it prints, by its exit, and in its
report, which is written to a file and can be read back. Each is made on its own from the outcomes that
writing leaves, and they agree. -/
namespace Retrofit

section Failures

variable {o : Outcome}

theorem failures_cons_ok {a : Artifacts} (ok : o.result = .ok a) (os : List Outcome) :
    failures (o :: os) = failures os :=
  List.filterMap_cons_none (by rw [ok])

theorem failures_cons_error {f : StageFailure} (failed : o.result = .error f) (os : List Outcome) :
    failures (o :: os) = (o.source, f) :: failures os :=
  List.filterMap_cons_some (by rw [failed])

theorem succeededCount_add_failures (os : List Outcome) :
    succeededCount os + (failures os).length = os.length := by
  induction os with
  | nil => rfl
  | cons o os ih =>
    cases result : o.result with
    | ok a =>
      rw [succeededCount_cons_ok result, failures_cons_ok result, List.length_cons, ← ih]
      omega
    | error f =>
      rw [succeededCount_cons_error result, failures_cons_error result, List.length_cons,
        List.length_cons, ← ih]
      omega

theorem failures_length (os : List Outcome) :
    (failures os).length = os.length - succeededCount os := by
  have all := succeededCount_add_failures os
  omega

end Failures

namespace Layout

variable {base : String} {s : Source} {a : Artifacts}

theorem ne_docs {tail : String} {c : Char} {rest : List Char} (start : tail.toList = '/' :: c :: rest)
    (other : c ≠ 'd') (base name : String) : base ++ tail ≠ base ++ "/docs/" ++ name := by
  rw [String.append_assoc]
  apply append_ne_append base
  intro same
  have lists := congrArg String.toList same
  rw [start, String.toList_append] at lists
  have second := (List.cons.inj (List.cons.inj lists).2).1
  exact other second

theorem ne_docs_below {directory : String} {c : Char} {rest : List Char}
    (start : directory.toList = '/' :: c :: rest) (other : c ≠ 'd') (base file name : String) :
    base ++ directory ++ file ≠ base ++ "/docs/" ++ name := by
  have below : (directory ++ file).toList = '/' :: c :: (rest ++ file.toList) := by
    rw [String.toList_append, start]
    rfl
  rw [String.append_assoc]
  exact ne_docs below other base name

/-- What the layout of a file has among its documents is the documents of the file, by their names. -/
theorem docs_of_files (documented : a.Documented) (base : String) (s : Source) (name : String) :
    s!"{base}/docs/{name}" ∈ (files base s a).map (·.1) ↔ name ∈ a.documents.map (·.name) := by
  refine ⟨?_, ?_⟩
  · intro member
    obtain ⟨⟨path, content⟩, inside, same⟩ := List.mem_map.mp member
    have place := (mem_files_iff documented path content).mp inside
    change path = base ++ "/docs/" ++ name at same
    -- the other directories do not even begin with the same letter
    cases place with
    | modernized => exact absurd same (ne_docs_below rfl (by decide) base _ name)
    | document d listed =>
      have names : d.name = name := by
        by_contra other
        exact append_ne_append (base ++ "/docs/") other same
      rw [← names]
      exact List.mem_map_of_mem listed
    | skeleton => exact absurd same (ne_docs_below rfl (by decide) base _ name)
    | project => exact absurd same (ne_docs rfl (by decide) base name)
    | inspection => exact absurd same (ne_docs rfl (by decide) base name)
  · intro listed
    obtain ⟨d, member, rfl⟩ := List.mem_map.mp listed
    have place : Place base s a s!"{base}/docs/{d.name}" d.content := .document d member
    exact List.mem_map_of_mem ((mem_files_iff documented _ _).mpr place)

end Layout

namespace Writing

variable {σ : Type} {host : Host (StateM σ)} {root : String} {taken : List String} {before after : σ}
  {os : List Outcome} {w : Writing}

/-- What is told of the files of a batch, one after the other: a file has an entry either with what was
written or with what failed, and the report on it says the same. -/
inductive Told (host : Host (StateM σ)) (root : String) :
    List Outcome → List Written → List (Source × StageFailure) → List FileReport → Prop
  | nobody : Told host root [] [] [] []
  | written (o a x r os ws fs rs) (ok : o.result = .ok a) (account : Accounts host root o x)
      (named : r.filename = o.source.path) (successful : r.success = true)
      (distinct : r.documents.Nodup)
      (documents : ∀ name, name ∈ r.documents ↔
        s!"{x.base}/docs/{name}" ∈ (Layout.files x.base o.source a).map (·.1))
      (told : Told host root os ws fs rs) :
      Told host root (o :: os) (x :: ws) fs (r :: rs)
  | failed (o f r os ws fs rs) (failure : o.result = .error f) (named : r.filename = o.source.path)
      (unsuccessful : r.success = false) (told : Told host root os ws fs rs) :
      Told host root (o :: os) ws ((o.source, f) :: fs) (r :: rs)

theorem Told.cons_error {o : Outcome} {f : StageFailure} {ws : List Written}
    (failed : o.result = .error f)
    (told : Told host root os ws (failures os) (os.map .ofOutcome)) :
    Told host root (o :: os) ws (failures (o :: os)) ((o :: os).map .ofOutcome) := by
  rw [failures_cons_error failed, List.map_cons]
  have report := FileReport.ofOutcome_of_error failed
  have unsuccessful : (FileReport.ofOutcome o).success = false := by
    rw [report]
    rfl
  exact .failed o f _ os ws _ _ failed (FileReport.filename_ofOutcome o) unsuccessful told

theorem Told.cons_ok {o : Outcome} {a : Artifacts} {x : Written} {ws : List Written}
    (ok : o.result = .ok a) (documented : a.Documented) (account : Accounts host root o x)
    (told : Told host root os ws (failures os) (os.map .ofOutcome)) :
    Told host root (o :: os) (x :: ws) (failures (o :: os)) ((o :: os).map .ofOutcome) := by
  rw [failures_cons_ok ok, List.map_cons]
  have report := FileReport.ofOutcome_of_ok ok
  have successful : (FileReport.ofOutcome o).success = true := by rw [report]
  have listed : (FileReport.ofOutcome o).documents = a.documents.map (·.name) := by rw [report]
  refine .written o a x _ os ws _ _ ok account (FileReport.filename_ofOutcome o) successful ?_ ?_ told
  · rw [listed]
    exact documented.names_nodup
  · intro name
    rw [listed]
    exact (Layout.docs_of_files documented x.base o.source name).symm

theorem Course.told (course : Course host root taken before os w after)
    (documented : ∀ o ∈ os, ∀ a, o.result = .ok a → a.Documented) :
    Told host root w.outcomes w.written (failures w.outcomes) (w.outcomes.map .ofOutcome) := by
  induction course with
  | done => exact .nobody
  | failed taken before o f rest later after already course ih =>
    exact .cons_error already (ih (List.forall_mem_cons.mp documented).2)
  | kept taken before o a base events between rest later after ok allotted stored course ih =>
    have ⟨here, behind⟩ := List.forall_mem_cons.mp documented
    have success : ((host.writeFiles root (Layout.files base o.source a)).run before).1.2 = .ok () := by
      rw [stored]
    have account : Accounts host root o ⟨o.source.path, base, (Layout.files base o.source a).length⟩ :=
      ⟨rfl, a, ok, rfl, before, success⟩
    exact .cons_ok ok (here a ok) account (ih behind)
  | refused taken before o a base events r between rest later after ok allotted stopped course ih =>
    -- the file is told of with its new failure
    have failed : (refuse o r).result = .error ⟨.output, .ofRefusal r⟩ := rfl
    exact .cons_error failed (ih (List.forall_mem_cons.mp documented).2)

theorem Told.written_length {ws : List Written} {fs : List (Source × StageFailure)} {rs : List FileReport}
    (told : Told host root os ws fs rs) : ws.length = succeededCount os := by
  induction told with
  | nobody => rfl
  | written o a x r os ws fs rs ok account named successful distinct documents told ih =>
    rw [succeededCount_cons_ok ok, List.length_cons, ih]
  | failed o f r os ws fs rs failure named unsuccessful told ih =>
    rw [succeededCount_cons_error failure, ih]

end Writing

namespace Batch

variable {σ : Type}

theorem documented (model : Model (StateM σ)) (c : Config) (sources : List Source) (now : σ) :
    ∀ o ∈ ((process model c sources).run now).1.outcomes, ∀ a, o.result = .ok a → a.Documented := by
  have each := process_each model c sources now
  generalize ((process model c sources).run now).1.outcomes = os at each
  induction each with
  | nil => exact List.forall_mem_nil _
  | @cons s o _ _ here rest ih =>
    refine List.forall_mem_cons.mpr ⟨?_, ih⟩
    intro a ok
    obtain ⟨start, rfl⟩ := here
    obtain ⟨p, m, -, -, rfl⟩ := FileRun.process_result_ok_iff.mp ok
    exact Artifacts.documented_of s p m

theorem process_sources (model : Model (StateM σ)) (c : Config) (sources : List Source) (now : σ) :
    ((process model c sources).run now).1.outcomes.map (·.source) = sources := by
  have same : List.Forall₂ (fun s o => s = Outcome.source o) sources
      ((process model c sources).run now).1.outcomes := by
    refine (process_each model c sources now).imp ?_
    rintro s o ⟨start, rfl⟩
    rfl
  rw [← List.forall₂_map_right_iff, List.forall₂_eq_eq_eq] at same
  exact same.symm

end Batch

namespace Execution

variable {σ : Type} {host : Host (StateM σ)} {environment : String → Option String}
  {now before opened after : σ} {args paths : List String} {sources : List Source} {o : RunOptions}

theorem loadAll_length {language : String} {folder : Option String}
    (loaded : (loadAll host language folder paths).run before = (.ok sources, after)) :
    sources.length = paths.length := by
  induction paths generalizing before sources with
  | nil =>
    cases loaded
    rfl
  | cons path rest ih =>
    cases found : (host.loadSource path language).run before with
    | mk answer between =>
      rw [loadAll, run_bind_of found] at loaded
      cases answer with
      | error f => cases loaded
      | ok s =>
        dsimp only at loaded
        cases later : (loadAll host language folder rest).run between with
        | mk answer last =>
          rw [run_bind_of later] at loaded
          cases answer with
          | error e => cases loaded
          | ok ss =>
            cases loaded
            exact congrArg (· + 1) (ih later)

def countLine (os : List Outcome) : String :=
  s!"\n{succeededCount os}/{os.length} files modernized\n"

theorem conclude_output (output : String) (os : List Outcome) :
    (conclude output os).output = output ++ countLine os := by
  unfold conclude
  dsimp only
  split <;> rfl

theorem conclude_exit (output : String) (os : List Outcome) :
    (conclude output os).exit = 0 ↔ failures os = [] := by
  rw [← List.length_eq_zero_iff, failures_length]
  unfold conclude
  dsimp only
  split
  · rename_i clean
    exact iff_of_true rfl clean
  · rename_i unclean
    exact iff_of_false Nat.one_ne_zero unclean

/-- How the output of a run ends, and with what left behind: there is the count, unless the report was
wanted and refused. -/
inductive Ending (host : Host (StateM σ)) (o : RunOptions) (lines text count : String) (stored : σ) :
    (output : String) → (after : σ) → Prop
  | unreported (unwanted : o.report = none) :
      Ending host o lines text count stored (lines ++ count) stored
  | reported (path after) (wanted : o.report = some path)
      (reported : (host.writeText path text).run stored = (.ok (), after)) :
      Ending host o lines text count stored
        (lines ++ s!"  [→] Report written to: {path}\n" ++ count) after
  | refused (path r after) (wanted : o.report = some path)
      (refused : (host.writeText path text).run stored = (.error r, after)) :
      Ending host o lines text count stored lines after

/-- The last step of a run, when the files have been written. -/
def close (host : Host (StateM σ)) (o : RunOptions) (c : Config) (w : Writing) : StateM σ Reply := do
  let output := greeting c ++ fileLines w
  match o.report with
  | none => return conclude output w.outcomes
  | some path =>
    match ← host.writeText path (report o c w.outcomes) with
    | .error r => return .failed output s!"writing report {path}: {r.message}"
    | .ok () =>
      return conclude (output ++ s!"  [→] Report written to: {path}\n") w.outcomes

theorem runOptions_close {batch : Batch} {between stored : σ} {w : Writing}
    (loaded : (loadAll host o.language o.folder o.files).run now = (.ok sources, opened))
    (ran : (Batch.process (host.recorded (o.config environment).responses) (o.config environment)
      sources).run opened = (batch, between))
    (wrote : (Writing.writeAll host o.out [] batch.outcomes).run between = (w, stored)) :
    (runOptions host environment o).run now = (close host o (o.config environment) w).run stored := by
  unfold RunOptions.config at ran
  rw [runOptions]
  dsimp only at ran ⊢
  rw [run_bind_of loaded]
  dsimp only
  rw [run_bind_of ran, run_bind_of wrote]
  rfl

theorem close_ending (host : Host (StateM σ)) (o : RunOptions) (c : Config) (w : Writing) (stored : σ) :
    let text := report o c w.outcomes
    ∃ r after, (close host o c w).run stored = (r, after) ∧
      Ending host o (greeting c ++ fileLines w) text (countLine w.outcomes) stored r.output after ∧
      (r.exit = 0 ↔ failures w.outcomes = [] ∧
        ∀ path, o.report = some path → ((host.writeText path text).run stored).1 = .ok ()) := by
  intro text
  rw [close]
  cases wanted : o.report with
  | none =>
    refine ⟨_, _, rfl, ?_, ?_⟩
    · rw [conclude_output]
      exact .unreported wanted
    · rw [conclude_exit]
      simp
  | some path =>
    dsimp only
    cases answer : (host.writeText path text).run stored with
    | mk verdict after =>
      rw [run_bind_of answer]
      cases verdict with
      | ok u =>
        refine ⟨_, _, rfl, ?_, ?_⟩
        · rw [conclude_output]
          exact .reported path after wanted answer
        · rw [conclude_exit]
          simp [answer]
      | error r =>
        refine ⟨_, _, rfl, .refused path r after wanted answer, ?_⟩
        simp [Reply.failed, answer]

/-- The text of a report is read back as what it was made from. -/
theorem decode_report (o : RunOptions) (c : Config) (os : List Outcome) :
    RunReport.decode (report o c os) = .ok (.ofOutcomes c.model os) := by
  apply RunReport.decode_written (RunReport.ofOutcomes_inTenths c.model os)
  unfold report
  dsimp only
  split
  · exact .inl rfl
  · exact .inr rfl

/-- A run that left `w` of its sources and replied `r` tells one story of them: every file has its line, and
the count and the exit agree with the lines, and so does `feedback`, which is what the text of the report is
read back as. -/
structure Consistent (host : Host (StateM σ)) (o : RunOptions) (c : Config) (sources : List Source)
    (w : Writing) (stored : σ) (text : String) (feedback : RunReport) (r : Reply) (after : σ) : Prop where
  complete : w.outcomes.map (·.source) = sources
  readable : RunReport.decode text = .ok feedback
  model : feedback.model = c.model
  told : Writing.Told host o.out w.outcomes w.written (failures w.outcomes) feedback.files
  written : w.written.length = succeededCount w.outcomes
  bounded : succeededCount w.outcomes ≤ sources.length
  failed : (failures w.outcomes).length = sources.length - succeededCount w.outcomes
  processed : feedback.processed.Holds sources.length
  succeeded : feedback.succeeded.Holds (succeededCount w.outcomes)
  output : Ending host o
    (s!"Relic v0.1.0\nModel: {c.model}\n" ++
      (String.join (w.written.map fun x => s!"  [✓] {x.source} -> {x.base} ({x.files} files)\n") ++
        String.join ((failures w.outcomes).map fun f => s!"  [✗] {f.1.path}: {f.2.message}\n")))
    text s!"\n{succeededCount w.outcomes}/{sources.length} files modernized\n" stored r.output after
  exit : r.exit = 0 ↔ failures w.outcomes = [] ∧
    ∀ path, o.report = some path → ((host.writeText path text).run stored).1 = .ok ()

theorem close_consistent {os : List Outcome} {between stored : σ} {w : Writing} (c : Config)
    (documented : ∀ x ∈ os, ∀ a, x.result = .ok a → a.Documented)
    (batch : os.map (·.source) = sources)
    (wrote : (Writing.writeAll host o.out [] os).run between = (w, stored)) :
    ∃ text feedback r after, (close host o c w).run stored = (r, after) ∧
      Consistent host o c sources w stored text feedback r after := by
  have course := Writing.writeAll_course host o.out [] os between
  rw [wrote] at course
  have told := course.told documented
  have complete : w.outcomes.map (·.source) = sources := by
    rw [Writing.sources_of_settled course.settled, batch]
  have size : w.outcomes.length = sources.length := by
    rw [← complete, List.length_map]
  obtain ⟨r, after, closed, ending, exit⟩ := close_ending host o c w stored
  rw [countLine, size] at ending
  exact ⟨report o c w.outcomes, .ofOutcomes c.model w.outcomes, r, after, closed, {
    complete
    readable := decode_report o c w.outcomes
    model := rfl
    told
    written := told.written_length
    bounded := size ▸ List.countP_le_length
    failed := by rw [failures_length, size]
    processed := size ▸ Count.of_holds _
    succeeded := Count.of_holds _
    output := ending
    exit }⟩

/-- When its sources can be read, a run tells the same of every one of them in its lines, by its exit and in
its report. A line says of each whether it has been written or has failed, and there are as many lines of
either kind as the count says, and the report, which can be read back from its text. -/
theorem run_consistent (environment : String → Option String)
    (command : Command.ofArguments args = some (.run o))
    (loaded : (loadAll host o.language o.folder o.files).run now = (.ok sources, opened)) :
    let c := o.config environment
    sources.length = o.files.length ∧ ∃ batch between w stored text feedback r after,
      (Batch.process (host.recorded c.responses) c sources).run opened = (batch, between) ∧
      (Writing.writeAll host o.out [] batch.outcomes).run between = (w, stored) ∧
      (reply host environment args).run now = (r, after) ∧
      Consistent host o c sources w stored text feedback r after := by
  intro c
  refine ⟨loadAll_length loaded, ?_⟩
  cases ran : (Batch.process (host.recorded c.responses) c sources).run opened with
  | mk batch between =>
    cases wrote : (Writing.writeAll host o.out [] batch.outcomes).run between with
    | mk w stored =>
      have documented := Batch.documented (host.recorded c.responses) c sources opened
      have complete := Batch.process_sources (host.recorded c.responses) c sources opened
      rw [ran] at documented complete
      obtain ⟨text, feedback, r, after, closed, consistent⟩ :=
        close_consistent c documented complete wrote
      have run : (reply host environment args).run now = (r, after) := by
        rw [reply_eq command, runOptions_close loaded ran wrote, closed]
      exact ⟨batch, between, w, stored, text, feedback, r, after, rfl, wrote, run, consistent⟩

/-- Two files, and what the model said about the first. -/
def shelf : Disk where
  nodes := [(["a.py"], .file (some "pass")), (["b.py"], .file (some "pass")), (["rec"], .directory),
    (["rec", "a.py.analysis.json"], .file (some "[\"\",\"\",\"\",\"\",[[\"m\",\"class\",\"\"]]]")),
    (["rec", "a.py.modernization.json"], .file (some "pass"))]
  current := []

def shelfWords : List String :=
  ["run", "a.py", "b.py", "-l", "python", "--responses", "rec", "--report", "r.json"]

def shelfOptions : RunOptions :=
  ⟨["a.py", "b.py"], "python", some "rec", none, ".", none, some "r.json", false⟩

def shelfSources : List Source := [.ofFile "a.py" "python" "pass", .ofFile "b.py" "python" "pass"]

theorem shelf_consistent :
    Command.ofArguments shelfWords = some (.run shelfOptions) ∧
      (loadAll Disk.host "python" none ["a.py", "b.py"]).run shelf = (.ok shelfSources, shelf) ∧
      let c := shelfOptions.config fun _ => none
      shelfSources.length = 2 ∧ ∃ batch between w stored text feedback r after,
        (Batch.process (Disk.host.recorded c.responses) c shelfSources).run shelf = (batch, between) ∧
        (Writing.writeAll Disk.host "." [] batch.outcomes).run between = (w, stored) ∧
        (reply Disk.host (fun _ => none) shelfWords).run shelf = (r, after) ∧
        Consistent Disk.host shelfOptions c shelfSources w stored text feedback r after := by
  have command : Command.ofArguments shelfWords = some (.run shelfOptions) := by decide +kernel
  have loaded : (loadAll Disk.host "python" none ["a.py", "b.py"]).run shelf = (.ok shelfSources, shelf) := by
    rfl
  exact ⟨command, loaded, run_consistent (fun _ => none) command loaded⟩

end Execution

end Retrofit
