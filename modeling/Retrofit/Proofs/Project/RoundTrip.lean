import Retrofit.Proofs.Json.Content
import Retrofit.Proofs.Project.Validity
import Retrofit.Proofs.Run.Batch
import Retrofit.Proofs.Run.Layout

/-! A project that is printed and validated again is the same project, or it was not usable. -/
namespace Retrofit

open Json

theorem ModuleKind.ofIndex_index (k : ModuleKind) : ModuleKind.ofIndex k.index = k := by
  cases k <;> rfl

theorem DebtCategory.ofIndex_index (c : DebtCategory) : DebtCategory.ofIndex c.index = c := by
  cases c <;> rfl

theorem Severity.ofIndex_index (s : Severity) : Severity.ofIndex s.index = s := by
  cases s <;> rfl

section Contents

theorem Parameter.ofContent_content (p : Parameter) : Parameter.ofContent p.content = p :=
  rfl

theorem Decision.ofContent_content (d : Decision) : Decision.ofContent d.content = d :=
  rfl

theorem Function.ofContent_content (f : Function) : Function.ofContent f.content = f := by
  unfold Function.ofContent Function.content
  simp only [map_back Parameter.ofContent_content, map_back Decision.ofContent_content]

theorem Module.ofContent_content (m : Module) : Module.ofContent m.content = m := by
  unfold Module.ofContent Module.content
  simp only [map_back Parameter.ofContent_content, map_back Function.ofContent_content,
    ModuleKind.ofIndex_index]

theorem Debt.ofContent_content (d : Debt) : Debt.ofContent d.content = d := by
  unfold Debt.ofContent Debt.content
  simp only [DebtCategory.ofIndex_index, Severity.ofIndex_index]

theorem Project.ofContent_content (p : Project) : Project.ofContent p.content = p := by
  unfold Project.ofContent Project.content
  simp only [map_back Module.ofContent_content, map_back Debt.ofContent_content]

end Contents

namespace Project

theorem shape_faithful : Project.shape.isFaithful = true := by
  decide

theorem shape_textual : Project.shape.isTextual = true := by
  decide

theorem toValue_legible (p : Project) : p.toValue.Legible :=
  Project.shape.toValue_legible p.content (Project.shape.legible_of_textual p.content shape_textual)

/-- The two ways in which a project is written down. -/
def Written (p : Project) (text : String) : Prop :=
  text = p.compact ∨ text = p.pretty

theorem decode_written {p : Project} {text : String} (written : p.Written text) :
    Project.decode text = .ok p := by
  have decoded : Project.shape.decode text = .ok p.content := by
    rcases written with rfl | rfl
    · exact decode_compact shape_faithful p.content p.toValue_legible
    · exact decode_pretty shape_faithful p.content p.toValue_legible
  unfold Project.decode
  rw [decoded]
  exact congrArg Except.ok p.ofContent_content

theorem validate_written {p : Project} {text : String} (written : p.Written text) :
    Project.validate text =
      match p.defect? with
      | some d => .error (.schemaFrom d.message text)
      | none => .ok p :=
  validateFrom_of_decode text (decode_written written)

theorem validate_written_ok_iff {p : Project} {text : String} (written : p.Written text) :
    Project.validate text = .ok p ↔ p.Usable := by
  rw [validate_written written, ← defect_none_iff]
  cases p.defect? <;> simp

/-- A project that does not pass is refused for want of modules, or for the first function that is not
described. -/
theorem validate_written_error {p : Project} {text : String} (written : p.Written text)
    (inhabited : p.modules ≠ []) (unusable : ¬ p.Usable) :
    ∃ i j f, p.FirstUndescribed i j f ∧ Project.validate text =
      .error (.schemaFrom (Defect.blankDescription i j f.name).message text) := by
  cases found : p.defect? with
  | none => exact absurd ((defect_none_iff p).mp found) unusable
  | some d =>
    rcases defect_some found with ⟨empty, -⟩ | ⟨i, j, f, first, -, rfl⟩
    · exact absurd empty inhabited
    · refine ⟨i, j, f, first, ?_⟩
      rw [validate_written written, found]

theorem usable_of_validated {raw : String} {p : Project}
    (ok : Project.validate raw = .ok p ∨ Project.ofResponse raw = .ok p) : p.Usable := by
  rcases ok with ok | ok
  · exact (validateFrom_ok ok).2
  · obtain ⟨payload, -, -, usable⟩ := ofResponse_ok ok
    exact usable

/-- A project that is printed and validated again comes back, if it is usable; every project that is
accepted is usable; so the document stored for a file describes the very project the file gave. -/
theorem round_trip :
    (∀ (p : Project) (text : String), p.Written text →
      (Project.validate text = .ok p ↔ p.Usable) ∧
      (p.modules = [] → Project.validate text =
        .error (.schemaFrom "'modules' must contain at least one entry" text)) ∧
      (p.modules ≠ [] → ¬ p.Usable → ∃ i j f, p.FirstUndescribed i j f ∧
        Project.validate text = .error (.schemaFrom
          ("modules[" ++ toString i ++ "].functions[" ++ toString j ++ "] ('" ++ f.name ++
            "'): 'description' must not be empty") text))) ∧
    (∀ (raw : String) (p : Project),
      Project.validate raw = .ok p ∨ Project.ofResponse raw = .ok p → p.Usable) ∧
    ∀ (σ : Type) (model : Model (StateM σ)) (c : Config) (s : Source) (base : String) (now : σ)
      (a : Artifacts), ((FileRun.process model c s).run now).1.result = .ok a →
        ∃ text, (Layout.files base s a).lookup s!"{base}/analysis/ir.json" = some text ∧
          Project.validate text = .ok a.project := by
  refine ⟨?_, fun raw p => usable_of_validated, ?_⟩
  · intro p text written
    refine ⟨validate_written_ok_iff written, ?_, validate_written_error written⟩
    intro empty
    have found : p.defect? = some .noModules := by simp [defect?, empty]
    rw [validate_written written, found]
    rfl
  · intro σ model c s base now a ok
    obtain ⟨p, m, ⟨raw, -, read⟩, -, rfl⟩ := FileRun.process_result_ok_iff.mp ok
    refine ⟨p.pretty, Layout.project_stored base s _, ?_⟩
    exact (validate_written_ok_iff (.inr rfl)).mpr (usable_of_validated (.inr read))

/-- One module, written as briefly as it can be. -/
def briefest : String := "[\"\",\"\",\"\",\"\",[[\"m\",\"class\",\"\"]]]"

/-- A model that finds the same project in every file, and turns it into the same code. -/
def monotonous : Model (StateM Unit) := fun r =>
  match r.stage with
  | .analysis => return .ok briefest
  | .modernization | .output => return .ok "pass"

/-- A file whose project is stored comes back, and a function that nothing describes does not. -/
theorem round_trip_monotonous :
    let s : Source := ⟨"a.cbl", none, "COBOL", ""⟩
    (∃ a, ((FileRun.process monotonous .default s).run ()).1.result = .ok a ∧
      ∃ text, (Layout.files "out/a" s a).lookup
          ("out/a" ++ "/analysis/ir.json") = some text ∧
        Project.validate text = .ok a.project) ∧
    let p : Project := ⟨"", "", "", "", [⟨"m", .module, "", [],
      [⟨"f", "\t", [], [], [], [], [], [], [], none⟩], [], []⟩], [], [], []⟩
    p.modules ≠ [] ∧ ¬ p.Usable ∧ ∃ i j f, p.FirstUndescribed i j f ∧
      Project.validate p.compact = .error (.schemaFrom
        ("modules[" ++ toString i ++ "].functions[" ++ toString j ++ "] ('" ++ f.name ++
          "'): 'description' must not be empty") p.compact) := by
  intro s
  refine ⟨?_, ?_⟩
  · have succeeds : ((FileRun.process monotonous .default s).run ()).1.result.isOk = true := by
      decide +kernel
    cases ok : ((FileRun.process monotonous .default s).run ()).1.result with
    | error f =>
      rw [ok] at succeeds
      cases succeeds
    | ok a => exact ⟨a, rfl, round_trip.2.2 Unit monotonous .default s "out/a" () a ok⟩
  · intro p
    have inhabited : p.modules ≠ [] := by simp [p]
    have unusable : ¬ p.Usable := by
      intro usable
      exact usable.described _ List.mem_cons_self _ List.mem_cons_self (by decide)
    exact ⟨inhabited, unusable, (round_trip.1 p p.compact (.inl rfl)).2.2 inhabited unusable⟩

end Project

end Retrofit
