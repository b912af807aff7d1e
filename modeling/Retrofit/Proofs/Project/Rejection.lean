import Retrofit.Proofs.Json.Flaw
import Retrofit.Proofs.Project.Acceptance
import Retrofit.Proofs.Project.RoundTrip

/-! Documents of a project in which one thing is wrong. They are all refused as violations of the schema,
wherever the fault is and however the document is written. -/
namespace Retrofit.Project

open Json

/-- The project with another description of function `j` of module `i`. -/
def redescribe (p : Project) (i j : Nat) (description : String) : Project :=
  { p with modules := p.modules.modify i fun m =>
      { m with functions := m.functions.modify j fun f => { f with description } } }

/-- One fault in the document of a project: in its form, or in what the form does not say. -/
inductive Flawed (p : Project) : Value → Prop
  | form (w) (flawed : Json.Flawed Project.shape p.toValue w) : Flawed p w
  | undescribed (i j f description) (place : p.function? i j = some f)
      (blank : Text.trim description = "") : Flawed p (p.redescribe i j description).toValue
  | emptied : Flawed p { p with modules := [] }.toValue

theorem interpret_toValue (p : Project) : Project.shape.interpret p.toValue.sketch = .ok p.content :=
  Project.shape.interpret_toValue p.content shape_faithful

theorem toValue_fits (p : Project) : Project.shape.Fits p.toValue.sketch :=
  (Shape.fits_iff _ _).mpr ⟨p.content, p.interpret_toValue⟩

/-- To give a member of a document again is a fault, wherever it is and wherever it is given again. -/
theorem flawed_of_repeats {p : Project} {w : Value} (repeats : Repeats Project.shape p.toValue w) :
    p.Flawed w :=
  .form w (repeats.flawed p.toValue_fits)

theorem function_redescribe {p : Project} {i j : Nat} {f : Function}
    (place : p.function? i j = some f) (description : String) :
    (p.redescribe i j description).function? i j = some { f with description } := by
  unfold function? at place
  obtain ⟨m, here, inside⟩ := Option.bind_eq_some_iff.mp place
  simp [function?, redescribe, here, inside]

theorem not_usable_redescribe {p : Project} {i j : Nat} {f : Function} {description : String}
    (place : p.function? i j = some f) (blank : Text.trim description = "") :
    ¬ (p.redescribe i j description).Usable := by
  intro usable
  obtain ⟨m, module, place'⟩ := Option.bind_eq_some_iff.mp (function_redescribe place description)
  exact usable.described m (List.mem_of_getElem? module) _ (List.mem_of_getElem? place') blank

/-- A document of a project is accepted if the project is usable, and otherwise refused. -/
theorem validate_spelled {p : Project} {text : String} (spelled : Spells text p.toValue.sketch) :
    (p.Usable ∧ validate text = .ok p) ∨
      (¬ p.Usable ∧ ∃ message, validate text = .error (.schemaFrom message text)) := by
  have decoded : Project.decode text = .ok p := by
    rw [decode_of_spells spelled p.interpret_toValue, p.ofContent_content]
  have judged := validateFrom_of_decode text decoded
  cases found : p.defect? with
  | none =>
    rw [found] at judged
    exact .inl ⟨(defect_none_iff p).mp found, judged⟩
  | some d =>
    rw [found] at judged
    refine .inr ⟨?_, d.message, judged⟩
    rw [← defect_none_iff, found]
    exact nofun

theorem validate_unusable {p : Project} {text : String} (spelled : Spells text p.toValue.sketch)
    (unusable : ¬ p.Usable) : ∃ message, validate text = .error (.schemaFrom message text) := by
  rcases validate_spelled spelled with ⟨usable, -⟩ | ⟨-, refused⟩
  · exact absurd usable unusable
  · exact refused

theorem validate_mismatch {text : String} {t : Sketch} {c : Cause} (spelled : Spells text t)
    (refused : Project.shape.interpret t = .error c) (mismatch : c.isMismatch = true) :
    ∃ message, validate text = .error (.schemaFrom message text) := by
  cases verdict text spelled with
  | accepted x content decoded usable given => cases refused.symm.trans content
  | unusable x message content decoded unusable given => cases refused.symm.trans content
  | mismatch c' message refused' course given => exact ⟨message, given⟩
  | derailed c' message refused' course given =>
    cases refused.symm.trans refused'
    rw [mismatch] at course
    cases course

theorem Flawed.refused {p : Project} {w : Value} (flawed : p.Flawed w) {text : String}
    (spelled : Spells text w.sketch) :
    ∃ message, validate text = .error (.schemaFrom message text) := by
  cases flawed with
  | form w flawed =>
    obtain ⟨c, refused, mismatch⟩ := (flawed.contradicts p.toValue_fits).mismatch w.held
    exact validate_mismatch spelled refused mismatch
  | undescribed i j f description place blank =>
    exact validate_unusable spelled (not_usable_redescribe place blank)
  | emptied => exact validate_unusable spelled fun usable => usable.inhabited rfl

/-- The documents of a usable project are accepted, and with one fault anywhere they are violations of the
schema: never projects, and never taken for broken text. -/
theorem flawed_refused {p : Project} {w : Value} (usable : p.Usable) (flawed : p.Flawed w) :
    (∀ text, Spells text p.toValue.sketch → validate text = .ok p) ∧
      (∀ text, Spells text w.sketch →
        ∃ message, validate text = .error (.schemaFrom message text)) ∧
      (w.Legible → ∀ text, text = Json.compact w ∨ text = Json.pretty w →
        ∃ message, validate text = .error (.schemaFrom message text)) := by
  refine ⟨?_, fun text => flawed.refused, ?_⟩
  · intro text spelled
    rcases validate_spelled spelled with ⟨-, accepted⟩ | ⟨unusable, -⟩
    · exact accepted
    · exact absurd usable unusable
  · rintro legible text (rfl | rfl)
    · exact flawed.refused (compact_spells w legible)
    · exact flawed.refused (pretty_spells w legible)

/-- One module with one function with one input. -/
def brief : Project :=
  ⟨"COBOL", "a.cbl", "a.py", "",
    [⟨"m", .module, "", [],
      [⟨"f", "adds", [⟨"x", "int", none⟩], [], [], [], [], [], [], none⟩], [], []⟩], [], [], []⟩

/-- The same with an input that has no type. -/
def untyped : Value :=
  .object [("language", .text "COBOL"), ("original_filename", .text "a.cbl"),
    ("suggested_filename", .text "a.py"), ("summary", .text ""),
    ("modules", .array [.object [("name", .text "m"), ("type", .text "module"),
      ("description", .text ""), ("imports", .array []),
      ("functions", .array [.object [("name", .text "f"), ("description", .text "adds"),
        ("inputs", .array [.object [("name", .text "x"), ("description", .null)]]),
        ("outputs", .array []), ("modifiers", .array []), ("side_effects", .array []),
        ("decisions", .array []), ("exceptions", .array []), ("dependencies", .array []),
        ("business_logic", .null)]]),
      ("attributes", .array []), ("design_patterns", .array [])]]),
    ("technical_debt", .array []), ("dependencies", .array []),
    ("modernization_priority", .array [])]

theorem untyped_flawed : brief.Flawed untyped := by
  have input : Json.Flawed Parameter.shape
      (.object ([("name", .text "x")] ++ ("type", .text "int") :: [("description", .null)]))
      (.object ([("name", .text "x")] ++ [("description", .null)])) :=
    .missing _ _ _ _ _ _ (by simp [Fields.Requires])
  refine .form _ (.member _ _ [("language", _), ("original_filename", _), ("suggested_filename", _),
    ("summary", _)] "modules" _ _ _ _ rfl (.item _ [] _ _ [] ?_))
  refine .member _ _ [("name", _), ("type", _), ("description", _), ("imports", _)] "functions" _ _ _ _
    rfl (.item _ [] _ _ [] ?_)
  exact .member _ _ [("name", _), ("description", _)] "inputs" _ _ _ _ rfl (.item _ [] _ _ [] input)

/-- A fault in the innermost record is found. -/
theorem untyped_refused :
    brief.Usable ∧ brief.Flawed untyped ∧ untyped.Legible ∧
      validate (Json.compact brief.toValue) = .ok brief ∧
      ∃ message, validate (Json.compact untyped) =
        .error (.schemaFrom message (Json.compact untyped)) := by
  have usable : brief.Usable := (defect_none_iff brief).mp (by decide)
  have legible : untyped.Legible := by simp [untyped, Value.Legible, LegibleItems, LegibleMembers]
  obtain ⟨accepted, -, refused⟩ := flawed_refused usable untyped_flawed
  exact ⟨usable, untyped_flawed, legible,
    accepted _ (compact_spells brief.toValue brief.toValue_legible), refused legible _ (.inl rfl)⟩

end Retrofit.Project
