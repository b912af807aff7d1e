import Retrofit.Command.Execution
import Retrofit.Disk.Tree
import Retrofit.Proofs.Disk.Writing

/-! The sources of a run are read before anything else. If one of them cannot be read, the run ends there:
the model has not been asked, nothing has been written, and the first such source is named. -/
namespace Retrofit

inductive Access where
  | read (path : RawPath)
  | look (path : String)
  | make (path : String)
  | write (path content : String)
  deriving DecidableEq

namespace Host

variable {σ : Type}

def noted {α : Type} (access : Access) (act : StateM σ α) : StateM (σ × List Access) α :=
  fun (now, log) => ((act.run now).1, ((act.run now).2, log ++ [access]))

/-- The same system, and a log of what is asked of it. -/
def traced (host : Host (StateM σ)) : Host (StateM (σ × List Access)) where
  readText path := noted (.read path) (host.readText path)
  isDirectory path := noted (.look path) (host.isDirectory path)
  makeDirectory path := noted (.make path) (host.makeDirectory path)
  writeText path content := noted (.write path content) (host.writeText path content)

variable {host : Host (StateM σ)} {now before between after : σ} {paths earlier : List String}
  {path : String} {r : Refusal}

/-- Reading leaves everything as it is. -/
def Quiet (host : Host (StateM σ)) : Prop :=
  ∀ path now, ((host.readText path).run now).2 = now

def Unreadable (host : Host (StateM σ)) (now : σ) (path : String) : Prop :=
  ∃ r, ((host.readText path).run now).1 = .error r

/-- Files are read one after the other up to one that is refused. -/
inductive Stopped (host : Host (StateM σ)) :
    (before : σ) → (paths earlier : List String) → (path : String) → Refusal → (after : σ) → Prop
  | here (before : σ) (path : String) (rest r after)
      (refused : (host.readText path).run before = (.error r, after)) :
      Stopped host before (path :: rest) [] path r after
  | behind (before : σ) (first : String) (code between rest earlier path r after)
      (found : (host.readText first).run before = (.ok code, between))
      (stopped : Stopped host between rest earlier path r after) :
      Stopped host before (first :: rest) (first :: earlier) path r after

theorem Quiet.stopped (quiet : host.Quiet) (unreadable : ∃ path ∈ paths, host.Unreadable now path) :
    ∃ earlier, ∃ path : String, ∃ rest r, paths = earlier ++ path :: rest ∧
      (∀ p ∈ earlier, ¬ host.Unreadable now p) ∧ ((host.readText path).run now).1 = .error r ∧
      host.Stopped now paths earlier path r now := by
  induction paths with
  | nil =>
    obtain ⟨path, member, -⟩ := unreadable
    cases member
  | cons first rest ih =>
    have unchanged := quiet first now
    cases answer : ((host.readText first).run now).1 with
    | error r =>
      have refused : (host.readText first).run now = (.error r, now) := Prod.ext answer unchanged
      exact ⟨[], first, rest, r, rfl, by simp, answer, .here now first rest r now refused⟩
    | ok code =>
      have found : (host.readText first).run now = (.ok code, now) := Prod.ext answer unchanged
      have readable : ¬ host.Unreadable now first := by
        rintro ⟨r, refused⟩
        rw [answer] at refused
        cases refused
      have later : ∃ path ∈ rest, host.Unreadable now path := by
        obtain ⟨path, member, bad⟩ := unreadable
        rcases List.mem_cons.mp member with rfl | member
        · exact absurd bad readable
        · exact ⟨path, member, bad⟩
      obtain ⟨earlier, path, behind, r, rfl, fine, refused, stopped⟩ := ih later
      refine ⟨first :: earlier, path, behind, r, rfl, ?_, refused, ?_⟩
      · exact List.forall_mem_cons.mpr ⟨readable, fine⟩
      · exact .behind now first code now _ earlier path r now found stopped

theorem traced_readText {answer : Except Refusal String}
    (found : (host.readText path).run before = (answer, after)) (log : List Access) :
    (host.traced.readText path).run (before, log) = (answer, (after, log ++ [.read path])) := by
  have run : (host.traced.readText path).run (before, log) =
      (((host.readText path).run before).1, (((host.readText path).run before).2, log ++ [.read path])) :=
    rfl
  rw [run, found]

theorem Stopped.traced (stopped : host.Stopped before paths earlier path r after) (log : List Access) :
    host.traced.Stopped (before, log) paths earlier path r
      (after, log ++ (earlier ++ [path]).map fun p => .read p) := by
  induction stopped generalizing log with
  | here before path rest r after refused =>
    exact .here _ _ _ _ _ (traced_readText refused log)
  | behind before first code between rest earlier path r after found stopped ih =>
    have later := ih (log ++ [.read first])
    rw [List.append_assoc] at later
    exact .behind _ _ _ _ _ _ _ _ _ (traced_readText found log) later

end Host

/-- How the model is asked in a run: as the environment says, unless an option says otherwise. -/
def RunOptions.config (environment : String → Option String) (o : RunOptions) : Config :=
  let c := (Config.ofEnvironment environment).1
  { c with
    responses := o.responses.getD c.responses
    model := o.model.getD c.model }

namespace Execution

variable {σ : Type} {host : Host (StateM σ)} {environment : String → Option String}
  {now before after : σ} {args paths earlier : List String} {path : String} {r : Refusal} {o : RunOptions}

theorem loadSource_refused (language : String)
    (refused : (host.readText path).run before = (.error r, after)) :
    (host.loadSource path language).run before = (.error (.ofRefusal r), after) := by
  rw [Host.loadSource, run_bind_of refused]
  rfl

theorem loadSource_found {code : String} (language : String)
    (found : (host.readText path).run before = (.ok code, after)) :
    (host.loadSource path language).run before = (.ok (.ofFile path language code), after) := by
  rw [Host.loadSource, run_bind_of found]
  rfl

theorem loadAll_stopped (language : String) (folder : Option String)
    (stopped : host.Stopped before paths earlier path r after) :
    (loadAll host language folder paths).run before = (.error (path, .ofRefusal r), after) := by
  induction stopped with
  | here before path rest r after refused =>
    rw [loadAll, run_bind_of (loadSource_refused language refused)]
    rfl
  | behind before first code between rest earlier path r after found stopped ih =>
    rw [loadAll, run_bind_of (loadSource_found language found)]
    dsimp only
    rw [run_bind_of ih]
    rfl

theorem reply_eq (command : Command.ofArguments args = some (.run o)) :
    reply host environment args = runOptions host environment o := by
  rw [reply, command]
  rfl

theorem reply_stopped (environment : String → Option String)
    (command : Command.ofArguments args = some (.run o))
    (stopped : host.Stopped before o.files earlier path r after) :
    (reply host environment args).run before =
      (.failed (greeting (o.config environment)) s!"reading {path}: {(Failure.ofRefusal r).message}",
        after) := by
  rw [reply_eq command, runOptions]
  dsimp only
  rw [run_bind_of (loadAll_stopped o.language o.folder stopped)]
  rfl

/-- If a source of a run cannot be read, the run fails and names the first such source. Nothing has changed
by then, and nothing has been asked of the system but the texts of the sources up to that one: no recorded
answer of the model has been looked for, nothing has been written. -/
theorem unreadable_stops (quiet : host.Quiet) (environment : String → Option String)
    (command : Command.ofArguments args = some (.run o))
    (unreadable : ∃ path ∈ o.files, host.Unreadable now path) :
    ∃ earlier, ∃ path : String, ∃ rest r, o.files = earlier ++ path :: rest ∧
      (∀ p ∈ earlier, ¬ host.Unreadable now p) ∧ ((host.readText path).run now).1 = .error r ∧
      let failed := Reply.failed (greeting (o.config environment))
        s!"reading {path}: {(Failure.ofRefusal r).message}"
      failed.exit = 1 ∧ (reply host environment args).run now = (failed, now) ∧
        (reply host.traced environment args).run (now, []) =
          (failed, (now, (earlier ++ [path]).map fun p => .read p)) := by
  obtain ⟨earlier, path, rest, r, files, fine, refused, stopped⟩ := quiet.stopped unreadable
  refine ⟨earlier, path, rest, r, files, fine, refused, rfl, ?_, ?_⟩
  · exact reply_stopped environment command stopped
  · exact reply_stopped environment command (stopped.traced [])

/-- A file, a file that is no text, and a directory. -/
def attic : Disk where
  nodes := [(["a.py"], .file (some "pass")), (["b.py"], .file none), (["lib"], .directory)]
  current := []

/-- Of four sources only the first can be read. -/
def atticFiles : List String := ["a.py", "b.py", "gone.py", "lib"]

theorem attic_stops :
    Disk.host.Quiet ∧
      Command.ofArguments ("run" :: atticFiles ++ ["-l", "python", "--report", "r.json"]) =
        some (.run ⟨atticFiles, "python", none, none, ".", none, some "r.json", false⟩) ∧
      (∃ path ∈ atticFiles, Disk.host.Unreadable attic path) ∧
      ∃ earlier, ∃ path : String, ∃ rest r, atticFiles = earlier ++ path :: rest ∧
        (∀ p ∈ earlier, ¬ Disk.host.Unreadable attic p) ∧
        ((Disk.host.readText path).run attic).1 = .error r ∧
        let failed := Reply.failed "Relic v0.1.0\nModel: mistralai/devstral-2512:free\n"
          s!"reading {path}: {(Failure.ofRefusal r).message}"
        failed.exit = 1 ∧
          (reply Disk.host (fun _ => none)
            ("run" :: atticFiles ++ ["-l", "python", "--report", "r.json"])).run attic =
              (failed, attic) ∧
          (reply Disk.host.traced (fun _ => none)
            ("run" :: atticFiles ++ ["-l", "python", "--report", "r.json"])).run (attic, []) =
              (failed, (attic, (earlier ++ [path]).map fun p => .read p)) := by
  have quiet : Disk.host.Quiet := fun _ _ => rfl
  have command : Command.ofArguments ("run" :: atticFiles ++ ["-l", "python", "--report", "r.json"]) =
      some (.run ⟨atticFiles, "python", none, none, ".", none, some "r.json", false⟩) := by
    decide +kernel
  have refused : attic.readText "b.py" = .error .notText := by rfl
  have unreadable : ∃ path ∈ atticFiles, Disk.host.Unreadable attic path :=
    ⟨"b.py", by decide, .notText, refused⟩
  exact ⟨quiet, command, unreadable, unreadable_stops quiet (fun _ => none) command unreadable⟩

end Execution

end Retrofit
