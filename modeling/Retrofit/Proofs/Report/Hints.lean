import Retrofit.Proofs.Json.Depth
import Retrofit.Proofs.Json.Wording
import Retrofit.Proofs.Project.Acceptance
import Retrofit.Proofs.Report.Advice

/-! The advice on a violation of the schema. It is meant to go by the cause of the violation, but it goes by
phrases of the message, and the message repeats texts of the response. -/
namespace Retrofit

open Json (Breach)

/-- What is wrong with a response that is JSON and no project: something in its value, or something about the
project that it describes. -/
inductive Violation where
  | breach (c : Json.Cause)
  | defect (d : Project.Defect)

/-- The response violates the schema of a project in this way, and this is what is found first. -/
inductive Violates (raw : String) : Violation → Prop
  | breach (text v c) (read : Response.payload raw = .ok text) (parsed : Json.parse text = .ok v)
      (breach : Breach Project.shape v c) (course : c.isMismatch = true) : Violates raw (.breach c)
  | defect (text p d) (read : Response.payload raw = .ok text) (decoded : Project.decode text = .ok p)
      (found : Project.defect? p = some d) : Violates raw (.defect d)

namespace Violation

/-- The hint is on violations of this kind. -/
def Calls : Violation → Hint → Prop
  | .breach c, h => c.Calls h
  | .defect _, _ => False

/-- The texts of the response that the message repeats. -/
def echo : Violation → List String
  | .breach c => c.echo
  | .defect .noModules => []
  | .defect (.blankDescription _ _ name) => [name]

end Violation

def Hint.advice : Hint → String
  | .absent => "Add the required field named in the message"
  | .unlisted => "Use one of the allowed enum values listed in the message"
  | .kind => "Sequences must be JSON arrays and names must be strings"

variable {h : Hint}

theorem Hint.contains_iff (h : Hint) (s : String) : Text.contains s h.phrase = true ↔ h.In s.toList :=
  Chars.occurs_iff _ _

theorem Hint.advised_iff (h : Hint) (message snippet : String) (stage : Option Stage) :
    (Diagnostic.ofFailure (.schema message snippet) stage).Advises h.advice ↔ h.In message.toList := by
  have perm := (Suggestion.sort_perm (Failure.schema message snippet).advice).map (·.message)
  rw [← contains_iff]
  refine perm.mem_iff.trans ?_
  simp only [Failure.advice]
  cases absent : Text.contains message "missing field" <;>
    cases unlisted : Text.contains message "unknown variant" <;>
      cases kind : Text.contains message "invalid type" <;>
        cases h <;> simp only [phrase, absent, unlisted, kind] <;> decide

theorem Project.Defect.hint_in_message (d : Defect) :
    h.In d.message.toList ↔ ∃ s ∈ (Violation.defect d).echo, h.In s.toList := by
  cases d with
  | noModules =>
    have text : Defect.noModules.message = "'modules' must contain at least one entry" := rfl
    have literal : ¬ h.In "'modules' must contain at least one entry".toList := by cases h <;> decide
    rw [text]
    exact iff_of_false literal (by simp [Violation.echo])
  | blankDescription m f name =>
    have text : (Defect.blankDescription m f name).message =
      s!"modules[{m}].functions[{f}] ('" ++ name ++ "'): 'description' must not be empty" := rfl
    have split : (Defect.blankDescription m f name).message.toList = "modules".toList ++
        '[' :: (Nat.toDigits 10 m ++ ']' :: (".functions".toList ++ '[' :: (Nat.toDigits 10 f ++
          ']' :: (" ".toList ++ '(' :: '\'' :: (name.toList ++
            '\'' :: "): 'description' must not be empty".toList))))) := by
      simp [text, Text.toString_same]
    have front : ¬ h.In "modules".toList := by cases h <;> decide
    have middle : ¬ h.In ".functions".toList := by cases h <;> decide
    have space : ¬ h.In " ".toList := by cases h <;> decide
    have behind : ¬ h.In "): 'description' must not be empty".toList := by cases h <;> decide
    rw [split]
    repeat rw [Hint.in_append_cons (by decide) (by decide)]
    rw [Hint.in_cons (by cases h <;> decide), Hint.in_append_cons (by decide) (by decide), or_iff_right front,
      or_iff_right (Hint.not_in_digits m), or_iff_right middle, or_iff_right (Hint.not_in_digits f),
      or_iff_right space, or_iff_left behind]
    simp [Violation.echo]

namespace Project

variable {raw : String} {f : Failure}

/-- The schema itself uses none of the phrases. -/
theorem foreign_wordings (h : Hint) : ∀ text ∈ Project.shape.wordings, ¬ h.In text.toList := by
  have silent : ∀ text ∈ Project.shape.wordings, ∀ phrase ∈ [Hint.absent.phrase, Hint.unlisted.phrase,
      Hint.kind.phrase], Text.contains text phrase = false := by
    decide +kernel
  intro text listed within
  have phrase : h.phrase ∈ [Hint.absent.phrase, Hint.unlisted.phrase, Hint.kind.phrase] := by
    cases h <;> decide
  rw [← h.contains_iff, silent text listed _ phrase] at within
  cases within

theorem hint_in_breach {v : Json.Value} {c : Json.Cause} (breach : Breach Project.shape v c)
    (course : c.isMismatch = true) {fault : Json.Fault} (cause : fault.cause = c) (text : String) :
    h.In (fault.message text).toList ↔ c.Calls h ∨ ∃ s ∈ c.echo, h.In s.toList := by
  subst cause
  rw [fault.hint_in_message]
  exact Json.Cause.hint_in_message course
    fun used listed => foreign_wordings h used (breach.wordings used listed)

/-- A failure to satisfy the schema is about a violation, and its message holds the phrases that the violation
brings along. -/
theorem violates_of_schema (failed : ofResponse raw = .error f) (kind : f.kind = "SchemaViolation") :
    ∃ w message, Violates raw w ∧ f = .schemaFrom message raw ∧
      ∀ h : Hint, h.In message.toList ↔ w.Calls h ∨ ∃ s ∈ w.echo, h.In s.toList := by
  have broken (message : String) (same : f = .malformedFrom message raw) : False := by
    subst same
    exact absurd kind (by simp [Failure.kind, Failure.malformedFrom])
  cases read : Response.payload raw with
  | error f' =>
    obtain ⟨message, rfl⟩ := Response.payload_error read
    rw [ofResponse, read] at failed
    exact (broken message (Except.error.inj failed).symm).elim
  | ok text =>
    obtain ⟨v, parsed⟩ := payload_parsed read
    have agrees := Json.decode_interprets Project.shape (Json.parse_spells parsed)
    rw [ofResponse_of_payload read] at failed
    cases decoded : Project.decode text with
    | error fault =>
      simp only [validateFrom, decoded] at failed
      cases course : fault.cause.isMismatch with
      | false =>
        rw [course] at failed
        exact (broken _ (Except.error.inj failed).symm).elim
      | true =>
        rw [course] at failed
        rw [Project.decode, Json.map_error_iff] at decoded
        rw [decoded] at agrees
        have breach : Breach Project.shape v fault.cause := Json.breach_iff.mpr agrees.symm
        exact ⟨.breach fault.cause, fault.message text, .breach text v _ read parsed breach course,
          (Except.error.inj failed).symm, fun h => hint_in_breach breach course rfl text⟩
    | ok p =>
      rw [validateFrom_of_decode raw decoded] at failed
      cases found : p.defect? with
      | none =>
        rw [found] at failed
        cases failed
      | some d =>
        rw [found] at failed
        exact ⟨.defect d, d.message, .defect text p d read decoded found, (Except.error.inj failed).symm,
          fun h => d.hint_in_message.trans (or_iff_right (fun called => called)).symm⟩

/-- A value that breaches the schema describes no project. -/
theorem not_decoded_of_breach {text : String} {v : Json.Value} {c : Json.Cause} {p : Project}
    (parsed : Json.parse text = .ok v) (breach : Breach Project.shape v c) :
    Project.decode text ≠ .ok p := by
  intro decoded
  have agrees := Json.decode_interprets Project.shape (Json.parse_spells parsed)
  obtain ⟨x, content, -⟩ := Json.map_ok_iff.mp decoded
  rw [content, breach.refused] at agrees
  cases agrees

theorem violation_unique {w w' : Violation} (one : Violates raw w) (other : Violates raw w') : w = w' := by
  cases one with
  | breach text v c read parsed breach course =>
    cases other with
    | breach text' v' c' read' parsed' breach' course' =>
      cases read.symm.trans read'
      cases parsed.symm.trans parsed'
      rw [breach.unique breach']
    | defect text' p d read' decoded found =>
      cases read.symm.trans read'
      exact absurd decoded (not_decoded_of_breach parsed breach)
  | defect text p d read decoded found =>
    cases other with
    | breach text' v' c' read' parsed' breach' course' =>
      cases read.symm.trans read'
      exact absurd decoded (not_decoded_of_breach parsed' breach')
    | defect text' p' d' read' decoded' found' =>
      cases read.symm.trans read'
      cases decoded.symm.trans decoded'
      cases found.symm.trans found'
      rfl

/-- The advice on a violation of the schema. There is just one violation that is found first, and a hint is
given if it is on violations of that kind, and also if its phrase stands in a text of the response that the
message repeats. So the hints go by the cause exactly if no such text holds the phrase of another hint. -/
theorem hint_advised_iff (failed : ofResponse raw = .error f) (kind : f.kind = "SchemaViolation")
    (stage : Option Stage) :
    let d := Diagnostic.ofFailure f stage
    ∃ w, (∀ w', Violates raw w' ↔ w' = w) ∧
      (∀ h : Hint, d.Advises h.advice ↔
        w.Calls h ∨ ∃ s ∈ w.echo, Text.contains s h.phrase = true) ∧
      ((∀ h : Hint, d.Advises h.advice ↔ w.Calls h) ↔
        ∀ h : Hint, ¬ w.Calls h → ∀ s ∈ w.echo, Text.contains s h.phrase = false) := by
  obtain ⟨w, message, violates, rfl, phrases⟩ := violates_of_schema failed kind
  have advised (h : Hint) : (Diagnostic.ofFailure (.schemaFrom message raw) stage).Advises h.advice ↔
      w.Calls h ∨ ∃ s ∈ w.echo, Text.contains s h.phrase = true := by
    rw [Failure.schemaFrom, h.advised_iff, phrases h]
    simp only [h.contains_iff]
  refine ⟨w, ?_, advised, ?_⟩
  · intro w'
    refine ⟨fun other => violation_unique other violates, ?_⟩
    rintro rfl
    exact violates
  · refine forall_congr' fun h => ?_
    rw [advised h]
    simp only [or_iff_left_iff_imp, ← Bool.not_eq_true]
    refine ⟨?_, ?_⟩
    · intro only other s repeated holds
      exact other (only ⟨s, repeated, holds⟩)
    · intro silent held
      by_contra other
      obtain ⟨s, repeated, holds⟩ := held
      exact silent other s repeated holds

/-- An object without members. -/
def hollowObject : Failure :=
  .schemaFrom "missing field `language` at line 1 column 2" "\x7b\x7d"

theorem hint_advised_hollow :
    let d := Diagnostic.ofFailure hollowObject (some .analysis)
    ofResponse "\x7b\x7d" = .error hollowObject ∧ hollowObject.kind = "SchemaViolation" ∧
      ∃ w, (∀ w', Violates "\x7b\x7d" w' ↔ w' = w) ∧
        (∀ h : Hint, d.Advises h.advice ↔
          w.Calls h ∨ ∃ s ∈ w.echo, Text.contains s h.phrase = true) ∧
        ((∀ h : Hint, d.Advises h.advice ↔ w.Calls h) ↔
          ∀ h : Hint, ¬ w.Calls h → ∀ s ∈ w.echo, Text.contains s h.phrase = false) := by
  have failed : ofResponse "\x7b\x7d" = .error hollowObject := by decide +kernel
  exact ⟨failed, rfl, hint_advised_iff failed rfl (some .analysis)⟩

/-- A module whose type is none, and sounds like a complaint. -/
def misnamed : Json.Value :=
  .object [("modules", .array [.object [("type", .text "invalid type")]])]

def misnamedFailure : Failure :=
  .schemaFrom ("unknown variant `invalid type`, expected one of `class`, `module`, `interface`, " ++
    "`abstract_class` at line 1 column 34") (Json.compact misnamed)

theorem misnamed_violates :
    Violates (Json.compact misnamed) (.breach (.unknownTag "invalid type" ModuleKind.tags)) := by
  have legible : misnamed.Legible := by
    simp [misnamed, Json.Value.Legible, Json.LegibleItems, Json.LegibleMembers]
  have shallow : misnamed.depth ≤ Json.deepest := by
    simp [misnamed, Json.Value.depth, Json.depthItems, Json.depthMembers, Json.deepest]
  have parsed : Json.parse (Json.compact misnamed) = .ok misnamed :=
    Json.parse_of_spells (Json.compact_spells misnamed legible) shallow
  have read : Response.payload (Json.compact misnamed) = .ok (Json.compact misnamed) := by decide +kernel
  have admits (fields : Json.Fields) : fields.Admits [] := (Json.Fields.admits_iff fields []).mpr ⟨_, rfl⟩
  have tag : Breach (.choice ModuleKind.tags) (.text "invalid type")
      (.unknownTag "invalid type" ModuleKind.tags) :=
    .unlisted _ _ (by decide)
  have module : Breach Module.shape (.object [("type", .text "invalid type")])
      (.unknownTag "invalid type" ModuleKind.tags) :=
    .member _ _ [] "type" _ [] _ _ (admits _) rfl rfl tag
  exact .breach _ misnamed _ read parsed (.member _ _ [] "modules" _ [] _ _ (admits _) rfl rfl
    (.item _ [] _ [] _ (List.forall_mem_nil _) module)) rfl

/-- The advice on a value of the wrong kind is given, though what is wrong is a tag that is not listed. -/
theorem hint_advised_misnamed :
    ofResponse (Json.compact misnamed) = .error misnamedFailure ∧ misnamedFailure.kind = "SchemaViolation" ∧
      ∃ w, (∀ w', Violates (Json.compact misnamed) w' ↔ w' = w) ∧ w.Calls .unlisted ∧ ¬ w.Calls .kind ∧
        (Diagnostic.ofFailure misnamedFailure none).Advises Hint.kind.advice := by
  refine ⟨by decide +kernel, rfl, .breach (.unknownTag "invalid type" ModuleKind.tags), ?_, trivial, ?_, ?_⟩
  · intro w'
    refine ⟨fun violates => violation_unique violates misnamed_violates, ?_⟩
    rintro rfl
    exact misnamed_violates
  · exact fun called => called
  · rw [misnamedFailure, Failure.schemaFrom, Hint.advised_iff]
    decide +kernel

end Project

end Retrofit
