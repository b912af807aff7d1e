import Retrofit.Proofs.Project.Validity
import Retrofit.Proofs.Run.Batch

/-! Which stage a failure is put down to. A stage fails where its request was not served: the model
refused, or its answer could not be read. An analysis is read strictly, modern code is not: text that holds
no JSON is the code. -/
namespace Retrofit

theorem Response.payload_error {raw : String} {f : Failure} (failed : Response.payload raw = .error f) :
    ∃ message, f = .malformedFrom message raw := by
  unfold Response.payload at failed
  dsimp only at failed
  split at failed
  · cases failed
  · exact ⟨_, (Except.error.inj failed).symm⟩

namespace Project

theorem validateFrom_error {raw payload : String} {f : Failure}
    (failed : validateFrom raw payload = .error f) :
    ∃ message, f = .malformedFrom message raw ∨ f = .schemaFrom message raw := by
  unfold validateFrom at failed
  split at failed
  · have same := Except.error.inj failed
    split at same
    · exact ⟨_, .inr same.symm⟩
    · exact ⟨_, .inl same.symm⟩
  · split at failed
    · exact ⟨_, .inr (Except.error.inj failed).symm⟩
    · cases failed

theorem ofResponse_error {raw : String} {f : Failure} (failed : Project.ofResponse raw = .error f) :
    ∃ message, f = .malformedFrom message raw ∨ f = .schemaFrom message raw := by
  unfold Project.ofResponse at failed
  cases read : Response.payload raw with
  | error f' =>
    rw [read] at failed
    obtain ⟨message, rfl⟩ := Response.payload_error read
    exact ⟨message, .inl (Except.error.inj failed).symm⟩
  | ok payload =>
    rw [read] at failed
    exact validateFrom_error failed

end Project

namespace Modernization

/-- What a value is called that should have been the code. Nothing is said of what counts as absent. -/
def wrongKind? : Json.Value → Option String
  | .null | .text _ => none
  | .bool _ => some "a boolean"
  | .number _ => some "a number"
  | .array _ => some "an array"
  | .object _ => some "an object"

/-- Why a JSON value holds no code, and how that is reported. -/
inductive Codeless (raw : String) : Json.Value → Failure → Prop
  | shapeless (v) (other : ∀ ms, v ≠ .object ms) : Codeless raw v (.missing "modernized_code")
  | absent (ms) (absent : Json.lastMember? "modernized_code" ms = none) :
      Codeless raw (.object ms) (.missing "modernized_code")
  | null (ms) (null : Json.lastMember? "modernized_code" ms = some .null) :
      Codeless raw (.object ms) (.missing "modernized_code")
  | mistyped (ms v found) (member : Json.lastMember? "modernized_code" ms = some v)
      (kind : wrongKind? v = some found) : Codeless raw (.object ms) (notText found raw)

variable {raw : String}

theorem ofMembers_error_iff {ms : List (String × Json.Value)} {f : Failure} :
    ofMembers raw ms = .error f ↔ Codeless raw (.object ms) f := by
  unfold ofMembers
  refine ⟨?_, ?_⟩
  · intro rejected
    split at rejected
    · rename_i absent
      cases rejected
      exact .absent ms absent
    · rename_i null
      cases rejected
      exact .null ms null
    · cases rejected
    all_goals
      rename_i member
      cases rejected
      exact .mistyped ms _ _ member rfl
  · intro codeless
    cases codeless with
    | shapeless _ other => exact absurd rfl (other ms)
    | absent _ absent => rw [absent]
    | null _ null => rw [null]
    | mistyped _ v found member kind =>
      rw [member]
      cases v with
      | null | text _ => cases kind
      | bool _ | number _ | array _ | object _ =>
        cases kind
        rfl

theorem ofResponse_of_prose (prose : ∀ v, Json.parse (Response.unfenced raw) ≠ .ok v) :
    ofResponse raw = .ok (unstructured (Response.unfenced raw)) := by
  cases parsed : Json.parse (Response.unfenced raw) with
  | error fault => simp only [ofResponse, parsed]
  | ok v => exact absurd parsed (prose v)

theorem ofResponse_error_iff {f : Failure} :
    ofResponse raw = .error f ↔
      ∃ v, Json.parse (Response.unfenced raw) = .ok v ∧ Codeless raw v f := by
  cases parsed : Json.parse (Response.unfenced raw) with
  | error fault =>
    have prose : ∀ v, Json.parse (Response.unfenced raw) ≠ .ok v := by simp [parsed]
    simp [ofResponse_of_prose prose]
  | ok v =>
    simp only [Except.ok.injEq, exists_eq_left']
    cases v with
    | object ms =>
      simp only [ofResponse, parsed]
      exact ofMembers_error_iff
    | null | bool _ | number _ | text _ | array _ =>
      simp only [ofResponse, parsed]
      refine ⟨?_, ?_⟩
      · intro rejected
        cases rejected
        exact .shapeless _ (fun ms same => by cases same)
      · intro codeless
        cases codeless
        rfl

/-- The reader of modern code complains of a missing member or of one that is no text, and of no syntax. -/
theorem ofResponse_error {f : Failure} (rejected : ofResponse raw = .error f) :
    f = .missing "modernized_code" ∨ ∃ message, f = .schemaFrom message raw := by
  obtain ⟨v, -, codeless⟩ := ofResponse_error_iff.mp rejected
  cases codeless with
  | shapeless _ _ | absent _ _ | null _ _ => exact .inl rfl
  | mistyped _ _ found _ _ => exact .inr ⟨_, rfl⟩

end Modernization

namespace FileRun

section Ask

variable {α : Type} {answer : Except Failure String} {read : String → Except Failure α}

/-- An answer that comes to nothing: the failure is the model's own, or that of the reader. -/
inductive Unserved (answer : Except Failure String) (read : String → Except Failure α) (f : Failure) : Prop
  | refused (refusal : answer = .error f)
  | rejected (raw) (answered : answer = .ok raw) (unreadable : read raw = .error f)

theorem understand_error_iff {stage : Stage} {e : StageFailure} :
    understand stage read answer = .error e ↔ e.stage = stage ∧ Unserved answer read e.failure := by
  obtain ⟨place, f⟩ := e
  unfold understand
  refine ⟨?_, ?_⟩
  · intro failed
    split at failed
    · cases failed
      exact ⟨rfl, .refused rfl⟩
    · split at failed
      · rename_i unreadable
        cases failed
        exact ⟨rfl, .rejected _ rfl unreadable⟩
      · cases failed
  · rintro ⟨rfl, unserved⟩
    cases unserved with
    | refused refusal => simp only [refusal]
    | rejected raw answered unreadable => simp only [answered, unreadable]

end Ask

variable {σ : Type} {model : Model (StateM σ)} {c : Config} {s : Source} {now : σ}

/-- The two stages of a file that can fail before it is written: if the first does, there is no second. -/
theorem process_result_error_iff {e : StageFailure} :
    ((process model c s).run now).1.result = .error e ↔
      (e.stage = .analysis ∧
          Unserved ((model (.analysis c s)).run now).1 Project.ofResponse e.failure) ∨
        ∃ p, Served ((model (.analysis c s)).run now).1 Project.ofResponse p ∧ e.stage = .modernization ∧
          Unserved ((model (.modernization c s p)).run ((model (.analysis c s)).run now).2).1
            Modernization.ofResponse e.failure := by
  rw [process_result, Json.bind_error_iff]
  simp only [Json.map_error_iff, understand_error_iff, understand_ok_iff]

theorem process_analysis_error_iff {f : Failure} :
    ((process model c s).run now).1.result = .error ⟨.analysis, f⟩ ↔
      Unserved ((model (.analysis c s)).run now).1 Project.ofResponse f := by
  rw [process_result_error_iff]
  refine ⟨?_, fun unserved => .inl ⟨rfl, unserved⟩⟩
  rintro (⟨-, unserved⟩ | ⟨p, -, impossible, -⟩)
  · exact unserved
  · cases impossible

theorem process_modernization_error_iff {f : Failure} :
    ((process model c s).run now).1.result = .error ⟨.modernization, f⟩ ↔
      ∃ p, Served ((model (.analysis c s)).run now).1 Project.ofResponse p ∧
        Unserved ((model (.modernization c s p)).run ((model (.analysis c s)).run now).2).1
          Modernization.ofResponse f := by
  rw [process_result_error_iff]
  refine ⟨?_, fun ⟨p, served, unserved⟩ => .inr ⟨p, served, rfl, unserved⟩⟩
  rintro (⟨impossible, -⟩ | ⟨p, served, -, unserved⟩)
  · cases impossible
  · exact ⟨p, served, unserved⟩

theorem process_not_output (f : Failure) :
    ((process model c s).run now).1.result ≠ .error ⟨.output, f⟩ := by
  intro failed
  rw [process_result_error_iff] at failed
  rcases failed with ⟨impossible, -⟩ | ⟨p, -, impossible, -⟩
  · cases impossible
  · cases impossible

theorem process_usable {a : Artifacts} (ok : ((process model c s).run now).1.result = .ok a) :
    a.project.Usable := by
  obtain ⟨p, m, ⟨raw, -, described⟩, -, rfl⟩ := process_result_ok_iff.mp ok
  obtain ⟨payload, -, -, usable⟩ := Project.ofResponse_ok described
  exact usable

/-- A file fails at the analysis if and only if that request is not served, and at the modernization if and
only if the first request is served and the second is not; otherwise it succeeds, with a project that is
usable. What the readers complain of is the text or its form, for modern code its form alone; and text
that holds no JSON makes no file fail. -/
theorem process_attributed (model : Model (StateM σ)) (c : Config) (s : Source) (now : σ) :
    let result := ((process model c s).run now).1.result
    let first := (model (.analysis c s)).run now
    let second (p : Project) := (model (.modernization c s p)).run first.2
    let analyzed := Served first.1 Project.ofResponse
    (∀ f, result = .error ⟨.analysis, f⟩ ↔ Unserved first.1 Project.ofResponse f) ∧
    (∀ f, result = .error ⟨.modernization, f⟩ ↔
      ∃ p, analyzed p ∧ Unserved (second p).1 Modernization.ofResponse f) ∧
    (∀ a, result = .ok a ↔
      ∃ p m, analyzed p ∧ Served (second p).1 Modernization.ofResponse m ∧ a = .of s p m) ∧
    (∀ f, result ≠ .error ⟨.output, f⟩) ∧
    (∀ a, result = .ok a → a.project.Usable) ∧
    (∀ raw f, Project.ofResponse raw = .error f →
      ∃ message, f = .malformedFrom message raw ∨ f = .schemaFrom message raw) ∧
    (∀ raw f, Modernization.ofResponse raw = .error f →
      f = .missing "modernized_code" ∨ ∃ message, f = .schemaFrom message raw) ∧
    ∀ p answer, analyzed p → (second p).1 = .ok answer →
      (∀ v, Json.parse (Response.unfenced answer) ≠ .ok v) →
        result = .ok (.of s p (.unstructured (Response.unfenced answer))) := by
  intro result first second analyzed
  refine ⟨fun f => process_analysis_error_iff, fun f => process_modernization_error_iff,
    fun a => process_result_ok_iff, process_not_output, fun a => process_usable,
    fun raw f => Project.ofResponse_error, fun raw f => Modernization.ofResponse_error, ?_⟩
  intro p answer served answered prose
  have read := Modernization.ofResponse_of_prose prose
  exact process_result_ok_iff.mpr ⟨p, _, served, ⟨answer, answered, read⟩, rfl⟩

end FileRun

end Retrofit
