import Mathlib.Data.List.Forall2
import Retrofit.Proofs.Json.Members
import Retrofit.Run.Batch

/-! What a run asks the model and what becomes of each file. The files of a batch do not touch each other:
if the model answers like requests alike, the results of a batch are those of its files, one after the
other, and so are the requests that it sees. -/
namespace Retrofit

variable {σ : Type}

theorem run_bind_of {α β : Type} {step : StateM σ α} {next : α → StateM σ β} {before between : σ} {x : α}
    (run : step.run before = (x, between)) : (step >>= next).run before = (next x).run between := by
  rw [StateT.run_bind, run]
  rfl

namespace Model

/-- The same model, and a log of what it is asked. -/
def traced (model : Model (StateM σ)) : Model (StateM (σ × List Request)) :=
  fun r (now, log) => (((model r).run now).1, (((model r).run now).2, log ++ [r]))

/-- The answers are a function of the requests, whatever else comes of asking. -/
def Answers (model : Model (StateM σ)) (answer : Request → Except Failure String) : Prop :=
  ∀ r now, ((model r).run now).1 = answer r

end Model

namespace FileRun

section Ask

variable {α : Type} {answer : Except Failure String} {read : String → Except Failure α}

/-- There is an answer, and it is read as `x`. -/
def Served (answer : Except Failure String) (read : String → Except Failure α) (x : α) : Prop :=
  ∃ raw, answer = .ok raw ∧ read raw = .ok x

theorem understand_ok_iff {stage : Stage} {x : α} :
    understand stage read answer = .ok x ↔ Served answer read x := by
  unfold understand Served
  cases answer with
  | error f => simp
  | ok raw => cases got : read raw <;> simp [got]

theorem ask_run (model : Model (StateM σ)) (r : Request) (read : String → Except Failure α) (now : σ) :
    (ask model r read).run now = (understand r.stage read ((model r).run now).1, ((model r).run now).2) :=
  rfl

theorem ask_traced {model : Model (StateM σ)} {r : Request} {before after : σ}
    {x : Except StageFailure α} (asked : (ask model r read).run before = (x, after))
    (log : List Request) : (ask model.traced r read).run (before, log) = (x, (after, log ++ [r])) := by
  rw [ask_run] at asked ⊢
  rw [← (Prod.mk.inj asked).1, ← (Prod.mk.inj asked).2]
  rfl

end Ask

variable {model : Model (StateM σ)} {c : Config} {s : Source} {p : Project} {before between after : σ}

theorem process_of_error {f : StageFailure}
    (asked : (ask model (.analysis c s) Project.ofResponse).run before = (.error f, after)) :
    (process model c s).run before = (⟨[.analyzing s.path], .error f⟩, after) := by
  rw [process, run_bind_of asked]
  rfl

theorem process_of_ok {rest : FileRun}
    (asked : (ask model (.analysis c s) Project.ofResponse).run before = (.ok p, between))
    (ran : (modernize model c s p).run between = (rest, after)) :
    (process model c s).run before = (⟨.analyzing s.path :: rest.events, rest.result⟩, after) := by
  rw [process, run_bind_of asked]
  dsimp only
  rw [run_bind_of ran]
  rfl

theorem modernize_of_error {f : StageFailure}
    (asked : (ask model (.modernization c s p) Modernization.ofResponse).run before = (.error f, after)) :
    (modernize model c s p).run before =
      (⟨[.analyzed s.path p.modules.length p.functionCount p.debts.length, .modernizing s.path], .error f⟩,
        after) := by
  rw [modernize, run_bind_of asked]
  rfl

theorem modernize_of_ok {modern : Modernization}
    (asked : (ask model (.modernization c s p) Modernization.ofResponse).run before =
      (.ok modern, after)) :
    ∃ events, (modernize model c s p).run before = (⟨events, .ok (.of s p modern)⟩, after) := by
  rw [modernize, run_bind_of asked]
  exact ⟨_, rfl⟩

/-! What is asked -/

/-- What the model is asked about one file: for an analysis, and right after it for modern code if, and
only if, the answer to the first request describes a project. -/
inductive Asked (c : Config) (s : Source) (answer : Except Failure String) : List Request → Prop
  | once (first : Request) (wanted : first = .analysis c s) (stage : first.stage = .analysis)
      (unusable : ∀ p, ¬ Served answer Project.ofResponse p) : Asked c s answer [first]
  | twice (first second : Request) (p : Project)
      (wanted : first = .analysis c s ∧ second = .modernization c s p)
      (stages : first.stage = .analysis ∧ second.stage = .modernization)
      (usable : Served answer Project.ofResponse p) : Asked c s answer [first, second]

theorem modernize_traced {run : FileRun} (ran : (modernize model c s p).run before = (run, after))
    (log : List Request) :
    (modernize model.traced c s p).run (before, log) =
      (run, (after, log ++ [Request.modernization c s p])) := by
  cases asked : (ask model (.modernization c s p) Modernization.ofResponse).run before with
  | mk answer last =>
    rw [modernize, run_bind_of asked] at ran
    rw [modernize, run_bind_of (ask_traced asked log)]
    cases answer with
    | error f =>
      cases ran
      rfl
    | ok modern =>
      cases ran
      rfl

theorem process_traced {run : FileRun} (ran : (process model c s).run before = (run, after))
    (log : List Request) :
    ∃ asked, Asked c s ((model (.analysis c s)).run before).1 asked ∧
      (process model.traced c s).run (before, log) = (run, (after, log ++ asked)) := by
  cases asked : (ask model (.analysis c s) Project.ofResponse).run before with
  | mk answer between =>
    have understood := asked
    rw [ask_run, Prod.mk.injEq] at understood
    have traced := ask_traced asked log
    cases answer with
    | error f =>
      refine ⟨_, .once _ rfl rfl ?_, ?_⟩
      · intro p usable
        rw [understand_ok_iff.mpr usable] at understood
        cases understood.1
      · rw [process_of_error asked] at ran
        cases ran
        exact process_of_error traced
    | ok p =>
      cases modern : (modernize model c s p).run between with
      | mk rest last =>
        refine ⟨_, .twice _ _ p ⟨rfl, rfl⟩ ⟨rfl, rfl⟩ (understand_ok_iff.mp understood.1), ?_⟩
        rw [process_of_ok asked modern] at ran
        cases ran
        have later := modernize_traced modern (log ++ [Request.analysis c s])
        rw [List.append_assoc] at later
        exact process_of_ok traced later

theorem Asked.stages {answer : Except Failure String} {rs : List Request} (asked : Asked c s answer rs) :
    ∀ r ∈ rs, r.stage ≠ .output := by
  cases asked with
  | once first wanted stage unusable =>
    rw [List.forall_mem_singleton, stage]
    exact nofun
  | twice first second p wanted stages usable =>
    rw [List.forall_mem_cons, List.forall_mem_singleton, stages.1, stages.2]
    exact ⟨nofun, nofun⟩

theorem stages_of_asked {answer : Source → Except Failure String} {xs : List Source}
    {asked : List (List Request)} (each : List.Forall₂ (fun s => Asked c s (answer s)) xs asked) :
    ∀ r ∈ asked.flatten, r.stage ≠ .output := by
  induction each with
  | nil => exact List.forall_mem_nil _
  | cons here rest ih =>
    rw [List.flatten_cons, List.forall_mem_append]
    exact ⟨here.stages, ih⟩

/-! What comes of it -/

/-- The result depends on the answers to two requests, of which the second is made if the first comes to
something. -/
theorem process_result (model : Model (StateM σ)) (c : Config) (s : Source) (now : σ) :
    ((process model c s).run now).1.result =
      (understand .analysis Project.ofResponse ((model (.analysis c s)).run now).1 >>= fun p =>
        (understand .modernization Modernization.ofResponse
          ((model (.modernization c s p)).run ((model (.analysis c s)).run now).2).1).map (.of s p)) := by
  cases asked : (ask model (.analysis c s) Project.ofResponse).run now with
  | mk answer between =>
    have understood := asked
    rw [ask_run, Prod.mk.injEq] at understood
    obtain ⟨understood, rfl⟩ := understood
    change understand .analysis Project.ofResponse _ = answer at understood
    rw [understood]
    cases answer with
    | error f =>
      rw [process_of_error asked]
      rfl
    | ok p =>
      change _ = (understand .modernization Modernization.ofResponse _).map (Artifacts.of s p)
      cases modern : (ask model (.modernization c s p) Modernization.ofResponse).run
          ((model (.analysis c s)).run now).2 with
      | mk answer after =>
        have understood := modern
        rw [ask_run, Prod.mk.injEq] at understood
        change understand .modernization Modernization.ofResponse _ = answer ∧ _ at understood
        rw [understood.1]
        cases answer with
        | error f => rw [process_of_ok asked (modernize_of_error modern), Except.map]
        | ok m =>
          obtain ⟨events, ran⟩ := modernize_of_ok modern
          rw [process_of_ok asked ran, Except.map]

theorem process_result_ok_iff {now : σ} {a : Artifacts} :
    ((process model c s).run now).1.result = .ok a ↔
      ∃ p m, Served ((model (.analysis c s)).run now).1 Project.ofResponse p ∧
        Served ((model (.modernization c s p)).run ((model (.analysis c s)).run now).2).1
          Modernization.ofResponse m ∧
        a = .of s p m := by
  rw [process_result, Json.bind_ok_iff]
  simp only [Json.map_ok_iff, understand_ok_iff, exists_and_left, eq_comm (a := a)]

theorem process_functional {answer : Request → Except Failure String} (functional : model.Answers answer)
    (now start : σ) :
    ((process model c s).run now).1.result = ((process model c s).run start).1.result := by
  rw [process_result, process_result]
  simp only [functional _ _]

end FileRun

namespace Batch

variable {model : Model (StateM σ)} {c : Config} {before between after : σ}

theorem processFrom_cons {total n : Nat} {s : Source} {rest : List Source} {run : FileRun} {later : Batch}
    (ran : (FileRun.process model c s).run before = (run, between))
    (went : (processFrom model c total (n + 1) rest).run between = (later, after)) :
    (processFrom model c total n (s :: rest)).run before =
      (⟨⟨s, run.result⟩ :: later.outcomes,
        run.events ++ closing n total s run.result :: later.events⟩, after) := by
  rw [processFrom, run_bind_of ran, run_bind_of went]
  rfl

/-- Every file comes out, in its place, as it would by itself from some state. -/
theorem processFrom_each (model : Model (StateM σ)) (c : Config) (total n : Nat) (xs : List Source)
    (now : σ) :
    List.Forall₂ (fun s o => ∃ start, o = ⟨s, ((FileRun.process model c s).run start).1.result⟩) xs
      ((processFrom model c total n xs).run now).1.outcomes := by
  induction xs generalizing n now with
  | nil => exact .nil
  | cons s xs ih =>
    cases ran : (FileRun.process model c s).run now with
    | mk run between =>
      cases went : (processFrom model c total (n + 1) xs).run between with
      | mk later after =>
        have each := ih (n + 1) between
        rw [went] at each
        rw [processFrom_cons ran went]
        exact .cons ⟨now, by rw [ran]⟩ each

/-- The requests about each file stand together, in the order of the files. -/
theorem processFrom_traced (total n : Nat) (xs : List Source) {b : Batch}
    (went : (processFrom model c total n xs).run before = (b, after)) (log : List Request) :
    ∃ asked,
      List.Forall₂ (fun s => fun rs => ∃ now, FileRun.Asked c s ((model (.analysis c s)).run now).1 rs) xs asked ∧
      (processFrom model.traced c total n xs).run (before, log) = (b, (after, log ++ asked.flatten)) := by
  induction xs generalizing n before b log with
  | nil =>
    cases went
    exact ⟨[], .nil, by rw [List.flatten_nil, List.append_nil]; rfl⟩
  | cons s xs ih =>
    cases ran : (FileRun.process model c s).run before with
    | mk run between =>
      cases rest : (processFrom model c total (n + 1) xs).run between with
      | mk later last =>
        rw [processFrom_cons ran rest] at went
        cases went
        obtain ⟨rs, here, traced⟩ := FileRun.process_traced ran log
        obtain ⟨asked, each, behind⟩ := ih (n + 1) rest (log ++ rs)
        refine ⟨rs :: asked, .cons ⟨before, here⟩ each, ?_⟩
        rw [List.append_assoc] at behind
        exact processFrom_cons traced behind

theorem process_run (model : Model (StateM σ)) (c : Config) (xs : List Source) (now : σ) :
    (process model c xs).run now =
      let (b, after) := (processFrom model c xs.length 1 xs).run now
      ({ b with events := b.events ++ [.finished (succeededCount b.outcomes) xs.length] }, after) :=
  rfl

theorem process_each (model : Model (StateM σ)) (c : Config) (xs : List Source) (now : σ) :
    List.Forall₂ (fun s o => ∃ start, o = ⟨s, ((FileRun.process model c s).run start).1.result⟩) xs
      ((process model c xs).run now).1.outcomes :=
  processFrom_each model c xs.length 1 xs now

theorem process_outcomes {answer : Request → Except Failure String} (functional : model.Answers answer)
    (c : Config) (xs : List Source) (now start : σ) :
    ((process model c xs).run now).1.outcomes =
      xs.map fun s => ⟨s, ((FileRun.process model c s).run start).1.result⟩ := by
  have each := process_each model c xs now
  generalize ((process model c xs).run now).1.outcomes = os at each
  induction each with
  | nil => rfl
  | cons here rest ih =>
    obtain ⟨start', rfl⟩ := here
    rw [List.map_cons, ih, FileRun.process_functional functional start' start]

/-- If its answers are a function of the requests, the model keeps files apart: they come out in order, each
as it does by itself, and the requests about one are seen after those about another: one for an analysis,
and right after it one for modern code if the answer describes a project. There are no others. -/
theorem process_isolated {answer : Request → Except Failure String} (functional : model.Answers answer)
    (c : Config) (xs ys : List Source) :
    let files (zs : List Source) (now : σ) := ((process model c zs).run now).1.outcomes
    (∀ now start, files xs now =
      xs.map fun s => ⟨s, ((FileRun.process model c s).run start).1.result⟩) ∧
    (∀ now start later, files (xs ++ ys) now = files xs start ++ files ys later) ∧
    ∀ now log, ∃ asked,
      List.Forall₂ (fun s => FileRun.Asked c s (answer (.analysis c s))) xs asked ∧
      (∀ r ∈ asked.flatten, r.stage ≠ .output) ∧
      (process model.traced c xs).run (now, log) =
        (((process model c xs).run now).1, (((process model c xs).run now).2, log ++ asked.flatten)) := by
  intro files
  refine ⟨process_outcomes functional c xs, ?_, ?_⟩
  · intro now start later
    simp only [files]
    rw [process_outcomes functional c _ now now, process_outcomes functional c _ start now,
      process_outcomes functional c _ later now, List.map_append]
  · intro now log
    cases went : (processFrom model c xs.length 1 xs).run now with
    | mk b after =>
      obtain ⟨asked, each, traced⟩ := processFrom_traced xs.length 1 xs went log
      have each : List.Forall₂ (fun s => FileRun.Asked c s (answer (.analysis c s))) xs asked := by
        refine each.imp ?_
        rintro s rs ⟨start, here⟩
        rwa [functional] at here
      refine ⟨asked, each, FileRun.stages_of_asked each, ?_⟩
      rw [process_run, process_run, traced, went]

/-- What is known of one file, and of no other. -/
def reply (r : Request) : Except Failure String :=
  match r.stage, r.source with
  | .analysis, "a.cbl" => .ok "[\"\",\"\",\"\",\"\",[[\"m\",\"class\",\"\"]]]"
  | .modernization, "a.cbl" => .ok "pass"
  | _, source => .error (.model s!"no answer for {source}")

/-- A model that counts what it is asked. -/
def counting : Model (StateM Nat) := fun r n => (reply r, n + 1)

theorem counting_isolated :
    let a : Source := ⟨"a.cbl", none, "COBOL", "STOP RUN."⟩
    let b : Source := ⟨"b.cbl", none, "COBOL", ""⟩
    let files (zs : List Source) (now : Nat) := ((process counting .default zs).run now).1.outcomes
    counting.Answers reply ∧
      files [b, a] 0 = [b, a].map (fun s => ⟨s, ((FileRun.process counting .default s).run 7).1.result⟩) ∧
      files ([b] ++ [a]) 0 = files [b] 2 ++ files [a] 5 ∧
      (∃ asked,
        List.Forall₂ (fun s => FileRun.Asked .default s (reply (.analysis .default s))) [b, a] asked ∧
        ((process counting.traced .default [b, a]).run (0, [])).2.2 = asked.flatten) ∧
      ((process counting.traced .default [b, a]).run (0, [])).2.2.map (fun r => (r.stage, r.source)) =
        [(.analysis, "b.cbl"), (.analysis, "a.cbl"), (.modernization, "a.cbl")] := by
  intro a b files
  have functional : counting.Answers reply := fun r now => rfl
  obtain ⟨alone, -, log⟩ := process_isolated functional .default [b, a] []
  obtain ⟨asked, each, -, traced⟩ := log 0 []
  refine ⟨functional, alone 0 7, (process_isolated functional .default [b] [a]).2.1 0 2 5,
    ⟨asked, each, ?_⟩, by decide +kernel⟩
  rw [traced]
  exact List.nil_append _

end Batch

end Retrofit
