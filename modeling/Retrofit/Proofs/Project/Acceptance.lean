import Retrofit.Proofs.Json.Acceptance
import Retrofit.Proofs.Json.Derailment
import Retrofit.Proofs.Project.Validity

/-! Which documents are accepted as projects, and how the others are refused. -/
namespace Retrofit.Project

open Json

theorem decode_ok {text : String} {p : Project} (ok : Project.decode text = .ok p) :
    ∃ t x, Spells text t ∧ Project.shape.interpret t = .ok x ∧ Project.ofContent x = p := by
  obtain ⟨x, decoded, same⟩ := map_ok_iff.mp ok
  obtain ⟨t, spelled, interpreted⟩ := (decode_ok_iff Project.shape text x).mp decoded
  exact ⟨t, x, spelled, interpreted, same⟩

theorem decode_of_spells {text : String} {t : Sketch} (spelled : Spells text t)
    {x : Project.shape.Content} (interpreted : Project.shape.interpret t = .ok x) :
    Project.decode text = .ok (Project.ofContent x) := by
  have decoded := (decode_ok_iff Project.shape text x).mpr ⟨t, spelled, interpreted⟩
  rw [Project.decode, decoded]
  rfl

/-- How a document that spells a value is judged. -/
inductive Verdict (raw text : String) (t : Sketch) : Prop
  | accepted (x) (content : Project.shape.interpret t = .ok x)
      (decoded : Project.decode text = .ok (ofContent x)) (usable : (ofContent x).Usable)
      (given : validateFrom raw text = .ok (ofContent x))
  | unusable (x message) (content : Project.shape.interpret t = .ok x)
      (decoded : Project.decode text = .ok (ofContent x)) (unusable : ¬ (ofContent x).Usable)
      (given : validateFrom raw text = .error (.schemaFrom message raw))
  | mismatch (c message) (refused : Project.shape.interpret t = .error c)
      (course : c.isMismatch = true)
      (given : validateFrom raw text = .error (.schemaFrom message raw))
  | derailed (c message) (refused : Project.shape.interpret t = .error c)
      (course : c.isMismatch = false)
      (given : validateFrom raw text = .error (.malformedFrom message raw))

theorem verdict (raw : String) {text : String} {t : Sketch} (spelled : Spells text t) :
    Verdict raw text t := by
  cases content : Project.shape.interpret t with
  | ok x =>
    have decoded := decode_of_spells spelled content
    have judged := validateFrom_of_decode raw decoded
    cases found : (ofContent x).defect? with
    | none =>
      rw [found] at judged
      exact .accepted x content decoded ((defect_none_iff _).mp found) judged
    | some d =>
      rw [found] at judged
      refine .unusable x d.message content decoded ?_ judged
      intro usable
      rw [(defect_none_iff _).mpr usable] at found
      cases found
  | error c =>
    have agrees := decode_interprets Project.shape spelled
    rw [content] at agrees
    cases decoded : Project.shape.decode text with
    | ok x =>
      rw [decoded] at agrees
      cases agrees
    | error f =>
      rw [decoded] at agrees
      have same : f.cause = c := Except.error.inj agrees
      have failed : Project.decode text = .error f := by
        rw [Project.decode, decoded]
        rfl
      have judged : validateFrom raw text = .error (if f.cause.isMismatch then
          .schemaFrom (f.message text) raw else .malformedFrom (f.message text) raw) := by
        simp only [validateFrom, failed]
      rw [same] at judged
      cases course : c.isMismatch with
      | true =>
        rw [course] at judged
        exact .mismatch c _ content course judged
      | false =>
        rw [course] at judged
        exact .derailed c _ content course judged

/-- A document that is read without a schema is taken for broken text exactly when it derails the
schema. -/
theorem validateFrom_malformed_iff (raw : String) {text : String} {v : Value}
    (parsed : parse text = .ok v) :
    (∃ message, validateFrom raw text = .error (.malformedFrom message raw)) ↔
      Project.shape.Derails v.sketch := by
  rw [Shape.derails_iff Project.shape ⟨v, rfl⟩]
  cases verdict raw (parse_spells parsed) with
  | accepted x content decoded usable given =>
    rw [content, given]
    refine iff_of_false ?_ (astray_ok x)
    intro malformed
    rcases malformed with ⟨message, impossible⟩
    cases impossible
  | unusable x message content decoded unusable given =>
    rw [content, given]
    refine iff_of_false ?_ (astray_ok x)
    intro malformed
    rcases malformed with ⟨other, impossible⟩
    cases impossible
  | mismatch c message refused course given =>
    rw [refused, given, astray_error, course]
    refine iff_of_false ?_ Bool.noConfusion
    intro malformed
    rcases malformed with ⟨other, impossible⟩
    cases impossible
  | derailed c message refused course given =>
    rw [refused, given, astray_error, course]
    exact iff_of_true ⟨message, rfl⟩ rfl

theorem validateFrom_on_course (raw : String) {text : String} {v : Value}
    (parsed : parse text = .ok v) (course : ¬ Project.shape.Derails v.sketch) :
    (∃ p, Project.decode text = .ok p ∧ p.Usable ∧ validateFrom raw text = .ok p) ∨
      ∃ message, validateFrom raw text = .error (.schemaFrom message raw) := by
  cases verdict raw (parse_spells parsed) with
  | accepted x content decoded usable given => exact .inl ⟨_, decoded, usable, given⟩
  | unusable x message content decoded unusable given => exact .inr ⟨message, given⟩
  | mismatch c message refused course' given => exact .inr ⟨message, given⟩
  | derailed c message refused _ given =>
    exact absurd ((validateFrom_malformed_iff raw parsed).mp ⟨message, given⟩) course

theorem validateFrom_usable (raw : String) {text : String} {p : Project}
    (decoded : Project.decode text = .ok p) (usable : p.Usable) :
    validateFrom raw text = .ok p := by
  rw [validateFrom_of_decode raw decoded, (defect_none_iff p).mpr usable]

theorem payload_parsed {raw text : String} (ok : Response.payload raw = .ok text) :
    ∃ v, parse text = .ok v :=
  (Response.payload_ok_iff.mp ok).2

/-- A response that is JSON is reported as broken text exactly when its value derails the schema, and is
otherwise a project or refused as a violation of the schema. -/
theorem ofResponse_classified {raw text : String} (ok : Response.payload raw = .ok text) :
    ∃ v, parse text = .ok v ∧
      ((∃ message, Project.ofResponse raw = .error (.malformedFrom message raw)) ↔
        Project.shape.Derails v.sketch) ∧
      (¬ Project.shape.Derails v.sketch →
        (∃ p, Project.ofResponse raw = .ok p) ∨
          ∃ message, Project.ofResponse raw = .error (.schemaFrom message raw)) := by
  obtain ⟨v, parsed⟩ := payload_parsed ok
  have same : Project.ofResponse raw = validateFrom raw text := by
    rw [Project.ofResponse, ok]
    rfl
  rw [same]
  refine ⟨v, parsed, validateFrom_malformed_iff raw parsed, ?_⟩
  intro course
  rcases validateFrom_on_course raw parsed course with ⟨p, -, -, accepted⟩ | refused
  · exact .inl ⟨p, accepted⟩
  · exact .inr refused

/-- A number where the kind of a module should be. -/
def numberedKind : String := "\x7b\"modules\":[\x7b\"type\":5\x7d]\x7d"

theorem numberedKind_payload : Response.payload numberedKind = .ok numberedKind := by
  decide +kernel

theorem numberedKind_classified :
    Response.payload numberedKind = .ok numberedKind ∧
      ∃ v, parse numberedKind = .ok v ∧
        ((∃ message, Project.ofResponse numberedKind =
            .error (.malformedFrom message numberedKind)) ↔ Project.shape.Derails v.sketch) ∧
        (¬ Project.shape.Derails v.sketch →
          (∃ p, Project.ofResponse numberedKind = .ok p) ∨
            ∃ message, Project.ofResponse numberedKind =
              .error (.schemaFrom message numberedKind)) :=
  ⟨numberedKind_payload, ofResponse_classified numberedKind_payload⟩

/-- JSON that violates the schema, and yet is reported as no JSON at all. -/
theorem numberedKind_malformed :
    Response.payload numberedKind = .ok numberedKind ∧
      Project.ofResponse numberedKind =
        .error (.malformed "expected value at line 1 column 21" numberedKind) := by
  decide +kernel

/-! The forms that are accepted -/

theorem fits_of_validated {payload : String} {p : Project}
    (ok : Project.validate payload = .ok p) {t : Sketch} (spelled : Spells payload t) :
    Project.shape.Fits t := by
  obtain ⟨x, decoded, -⟩ := map_ok_iff.mp (validateFrom_ok ok).1
  have agrees := decode_interprets Project.shape spelled
  rw [decoded] at agrees
  exact (Shape.fits_iff Project.shape t).mpr ⟨x, agrees.symm⟩

/-- Neither a list nor an object derails the schema of a project, or has a content by it. -/
theorem object_or_array {v : Value}
    (taken : Project.shape.Derails v.sketch ∨ Project.shape.Fits v.sketch) :
    (∃ ms, v = .object ms) ∨ ∃ vs, v = .array vs := by
  cases v with
  | object ms => exact .inl ⟨ms, rfl⟩
  | array vs => exact .inr ⟨vs, rfl⟩
  | null | bool _ | number _ | text _ =>
    simp only [Shape.Derails, Shape.Fits, Value.sketch] at taken
    obtain (⟨_, _, _, _, impossible, -⟩ | ⟨_, impossible, -⟩) |
      (⟨_, impossible, -⟩ | ⟨_, impossible, -⟩) := taken <;> cases impossible

/-- What is not an object is refused as a violation of the schema, unless it is a list that derails the
schema or makes a usable project. -/
theorem validate_not_object {payload : String} {v : Value} (parsed : parse payload = .ok v)
    (other : ∀ ms, v ≠ .object ms) :
    ((∃ message, Project.validate payload = .error (.schemaFrom message payload)) ↔
        ¬ Project.shape.Derails v.sketch ∧ ∀ p, Project.decode payload = .ok p → ¬ p.Usable) ∧
      ((∀ vs, v ≠ .array vs) →
        ∃ message, Project.validate payload = .error (.schemaFrom message payload)) := by
  have refused_iff :
      (∃ message, Project.validate payload = .error (.schemaFrom message payload)) ↔
        ¬ Project.shape.Derails v.sketch ∧ ∀ p, Project.decode payload = .ok p → ¬ p.Usable := by
    refine ⟨?_, ?_⟩
    · intro given
      rcases given with ⟨message, refused⟩
      refine ⟨?_, ?_⟩
      · intro derails
        obtain ⟨other, malformed⟩ := (validateFrom_malformed_iff payload parsed).mpr derails
        rw [Project.validate, malformed] at refused
        cases refused
      · intro p decoded usable
        rw [Project.validate, validateFrom_usable payload decoded usable] at refused
        cases refused
    · intro given
      rcases given with ⟨course, unusable⟩
      obtain ⟨p, decoded, usable, -⟩ | refused :=
        validateFrom_on_course payload parsed course
      · exact absurd usable (unusable p decoded)
      · exact refused
  refine ⟨refused_iff, ?_⟩
  intro scalar
  have neither (taken : Project.shape.Derails v.sketch ∨ Project.shape.Fits v.sketch) : False := by
    rcases object_or_array taken with ⟨ms, same⟩ | ⟨vs, same⟩
    · exact other ms same
    · exact scalar vs same
  refine refused_iff.mpr ⟨fun derails => neither (.inl derails), ?_⟩
  intro p decoded usable
  have accepted := validateFrom_usable payload decoded usable
  exact neither (.inr (fits_of_validated accepted (parse_spells parsed)))

/-- Whatever is accepted has the form of a project at every place, up to records that are written as
lists and tags that are written as objects; and only a list is accepted besides objects. -/
theorem validate_forms (payload : String) :
    (∀ p, Project.validate payload = .ok p →
      (∃ t, Spells payload t) ∧ ∀ t, Spells payload t →
        (∀ s u, Position Project.shape t s u → s.Fits u) ∧
        ((∀ s u, Position Project.shape t s u → s.Proper u) ↔
          ∀ s u, Position Project.shape t s u → ¬ s.Improper u)) ∧
    ∀ v, parse payload = .ok v → (∀ ms, v ≠ .object ms) →
      ((∃ message, Project.validate payload = .error (.schemaFrom message payload)) ↔
          ¬ Project.shape.Derails v.sketch ∧ ∀ p, Project.decode payload = .ok p → ¬ p.Usable) ∧
        ((∀ vs, v ≠ .array vs) →
          ∃ message, Project.validate payload = .error (.schemaFrom message payload)) := by
  refine ⟨?_, fun v parsed other => validate_not_object parsed other⟩
  intro p ok
  obtain ⟨t, x, spelled, -⟩ := decode_ok (validateFrom_ok ok).1
  refine ⟨⟨t, spelled⟩, ?_⟩
  intro t spelled
  have fits (s : Shape) (u : Sketch) (place : Position Project.shape t s u) : s.Fits u :=
    place.fits (fits_of_validated ok spelled)
  refine ⟨fits, ?_⟩
  refine ⟨?_, ?_⟩
  · intro proper s u place
    exact (Shape.proper_or_improper (fits s u place)).mp (proper s u place)
  · intro proper s u place
    exact (Shape.proper_or_improper (fits s u place)).mpr (proper s u place)

/-- A project as the list of its fields, and a module likewise, with its kind as an object. -/
def listed : String := "[\"l\",\"o\",\"s\",\"sum\",[[\"m\",\x7b\"class\":null\x7d,\"d\"]]]"

theorem listed_validated : ∃ p, Project.validate listed = .ok p := by
  have accepted : (Project.validate listed).isOk = true := by decide +kernel
  cases ok : Project.validate listed with
  | error f =>
    rw [ok] at accepted
    cases accepted
  | ok p => exact ⟨p, rfl⟩

def isList : Except Fault Value → Bool
  | .ok (.array _) => true
  | _ => false

theorem listed_parsed : ∃ vs, parse listed = .ok (.array vs) := by
  have list : isList (parse listed) = true := by decide +kernel
  cases parsed : parse listed with
  | error f =>
    rw [parsed] at list
    cases list
  | ok v =>
    rw [parsed] at list
    cases v with
    | array vs => exact ⟨vs, rfl⟩
    | _ => cases list

/-- A list is accepted as a project. -/
theorem listed_accepted :
    (∃ p, Project.validate listed = .ok p) ∧ ∃ vs, parse listed = .ok (.array vs) :=
  ⟨listed_validated, listed_parsed⟩

/-- It fits at every place, but is not an object where it should be one. -/
theorem listed_forms :
    ∃ p t, Project.validate listed = .ok p ∧ Spells listed t ∧
      (∀ s u, Position Project.shape t s u → s.Fits u) ∧
      ¬ ∀ s u, Position Project.shape t s u → s.Proper u := by
  obtain ⟨p, ok⟩ := listed_validated
  obtain ⟨vs, parsed⟩ := listed_parsed
  have spelled := parse_spells parsed
  obtain ⟨fits, proper_iff⟩ := ((validate_forms listed).1 p ok).2 _ spelled
  refine ⟨p, _, ok, spelled, fits, ?_⟩
  rw [proper_iff]
  intro never
  exact never _ _ (.top _ _) ⟨sketchItems vs, rfl⟩

end Retrofit.Project
