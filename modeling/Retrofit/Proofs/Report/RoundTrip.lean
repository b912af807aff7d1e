import Retrofit.Proofs.Json.Content
import Retrofit.Proofs.Json.Line
import Retrofit.Proofs.Report.Advice
import Retrofit.Report.Feedback

/-! A report that is written to a file can be read back whole. -/
namespace Retrofit

open Json

theorem Level.ofIndex_index (l : Level) : Level.ofIndex l.index = l := by
  cases l <;> rfl

theorem Stage.ofIndex_index (s : Stage) : Stage.ofIndex s.index = s := by
  cases s <;> rfl

section Contents

theorem Suggestion.ofContent_content (s : Suggestion) : Suggestion.ofContent s.content = s :=
  rfl

theorem Diagnostic.ofContent_content (d : Diagnostic) : Diagnostic.ofContent d.content = d := by
  have stage : (d.stage.map (·.index)).map Stage.ofIndex = d.stage :=
    option_map_back Stage.ofIndex_index d.stage
  have suggestions : (d.suggestions.map (·.content)).map Suggestion.ofContent = d.suggestions :=
    map_back Suggestion.ofContent_content d.suggestions
  change Diagnostic.mk d.code (Level.ofIndex d.level.index) d.kind d.message
    ((d.stage.map (·.index)).map Stage.ofIndex) d.snippet
    ((d.suggestions.map (·.content)).map Suggestion.ofContent) = d
  rw [Level.ofIndex_index, stage, suggestions]

theorem Stats.ofContent_content (st : Stats) : Stats.ofContent st.content = st :=
  rfl

theorem FileReport.ofContent_content (f : FileReport) : FileReport.ofContent f.content = f := by
  unfold FileReport.ofContent FileReport.content
  simp only [map_back Diagnostic.ofContent_content, option_map_back Stats.ofContent_content]

theorem RunReport.ofContent_content (r : RunReport) : RunReport.ofContent r.content = r := by
  unfold RunReport.ofContent RunReport.content
  simp only [map_back FileReport.ofContent_content]

end Contents

/-! Suggestions are made with confidences that can be read back. -/

/-- The confidence is a number of tenths below one. -/
def Suggestion.InTenths (s : Suggestion) : Prop :=
  ∃ k < 10, s.confidence = .tenths k

namespace Suggestion

theorem inTenths_inTenths (message : String) {k : Nat} (below : k < 10) :
    (inTenths message k).InTenths :=
  ⟨k, below, rfl⟩

end Suggestion

theorem Failure.suggestIf_inTenths {s : Suggestion} (tenths : s.InTenths) (condition : Bool) :
    ∀ t ∈ suggestIf condition s, t.InTenths := by
  unfold suggestIf
  split
  · exact List.forall_mem_singleton.mpr tenths
  · exact List.forall_mem_nil _

theorem Failure.advice_inTenths (f : Failure) : ∀ s ∈ f.advice, s.InTenths := by
  have tenths (message : String) (k : Nat) (below : k < 10) :=
    Suggestion.inTenths_inTenths message below
  cases f with
  | malformed message snippet =>
    simp only [advice, List.forall_mem_append, List.forall_mem_cons]
    exact ⟨⟨tenths _ 8 (by decide), tenths _ 5 (by decide), List.forall_mem_nil _⟩,
      suggestIf_inTenths (tenths _ 9 (by decide)) _⟩
  | schema message snippet =>
    simp only [advice, List.cons_append, List.forall_mem_append, List.forall_mem_cons]
    exact ⟨tenths _ 6 (by decide),
      ⟨suggestIf_inTenths (tenths _ 9 (by decide)) _, suggestIf_inTenths (tenths _ 9 (by decide)) _⟩,
      suggestIf_inTenths (tenths _ 7 (by decide)) _⟩
  | missing field => exact List.forall_mem_singleton.mpr (tenths _ 9 (by decide))
  | model message =>
    simp only [advice, List.forall_mem_cons]
    exact ⟨tenths _ 7 (by decide), tenths _ 4 (by decide), List.forall_mem_nil _⟩
  | io message => exact List.forall_mem_singleton.mpr (tenths _ 7 (by decide))

/-! Reports -/

/-- All confidences in the report are numbers of tenths. -/
def RunReport.InTenths (r : RunReport) : Prop :=
  ∀ f ∈ r.files, ∀ d ∈ f.diagnostics, ∀ s ∈ d.suggestions, s.InTenths

theorem Suggestion.content_legible {s : Suggestion} (tenths : s.InTenths) :
    Suggestion.shape.Legible s.content := by
  obtain ⟨k, below, same⟩ := tenths
  have confidence : (Number.real s.confidence).Legible := by
    rw [same]
    exact tenths_legible below
  exact ⟨trivial, confidence, trivial⟩

theorem Diagnostic.content_legible {d : Diagnostic} (tenths : ∀ s ∈ d.suggestions, s.InTenths) :
    Diagnostic.shape.Legible d.content := by
  have suggestions : ∀ x ∈ d.suggestions.map (·.content), Suggestion.shape.Legible x := by
    rw [List.forall_mem_map]
    exact fun s member => Suggestion.content_legible (tenths s member)
  exact ⟨trivial, trivial, fun _ _ => trivial, trivial, fun _ _ => trivial, fun _ _ => trivial,
    suggestions, trivial⟩

theorem Stats.content_legible (st : Stats) : Stats.shape.Legible st.content :=
  ⟨trivial, trivial, trivial, trivial, trivial, trivial, trivial, trivial⟩

theorem FileReport.content_legible {f : FileReport}
    (tenths : ∀ d ∈ f.diagnostics, ∀ s ∈ d.suggestions, s.InTenths) :
    FileReport.shape.Legible f.content := by
  have diagnostics : ∀ x ∈ f.diagnostics.map (·.content), Diagnostic.shape.Legible x := by
    rw [List.forall_mem_map]
    exact fun d member => Diagnostic.content_legible (tenths d member)
  have stats : ∀ x, f.stats.map (·.content) = some x → Stats.shape.Legible x := by
    intro x counted
    obtain ⟨st, -, rfl⟩ := Option.map_eq_some_iff.mp counted
    exact st.content_legible
  exact ⟨trivial, trivial, diagnostics, stats, fun _ _ => trivial, trivial⟩

namespace RunReport

theorem shape_faithful : RunReport.shape.isFaithful = true := by
  decide

theorem toValue_legible {r : RunReport} (tenths : r.InTenths) : r.toValue.Legible := by
  have files : ∀ x ∈ r.files.map (·.content), FileReport.shape.Legible x := by
    rw [List.forall_mem_map]
    exact fun f member => FileReport.content_legible (tenths f member)
  have content : RunReport.shape.Legible r.content := ⟨trivial, trivial, trivial, files, trivial⟩
  exact RunReport.shape.toValue_legible r.content content

/-- The two ways in which a report is written down. -/
def Written (r : RunReport) (text : String) : Prop :=
  text = r.compact ∨ text = r.pretty

theorem decode_written {r : RunReport} (tenths : r.InTenths) {text : String}
    (written : r.Written text) : decode text = .ok r := by
  have legible := toValue_legible tenths
  have decoded : RunReport.shape.decode text = .ok r.content := by
    rcases written with rfl | rfl
    · exact decode_compact shape_faithful r.content legible
    · exact decode_pretty shape_faithful r.content legible
  rw [decode, decoded]
  exact congrArg Except.ok r.ofContent_content

theorem compact_uncontrolled (r : RunReport) : Chars.Uncontrolled r.compact.toList := by
  rw [compact, Json.compact, String.toList_ofList]
  exact compactValue_uncontrolled r.toValue

/-- No report is so empty that it would be written as an object without members. -/
theorem ne_empty_of_decoded {r : RunReport} {text : String} (decoded : decode text = .ok r) :
    text ≠ "\x7b\x7d" := by
  rintro rfl
  have refused : (decode "\x7b\x7d").isOk = false := by decide +kernel
  rw [decoded] at refused
  cases refused

end RunReport

/-! The reports of runs -/

theorem Diagnostic.ofFailure_inTenths (f : Failure) (stage : Option Stage) :
    ∀ s ∈ (Diagnostic.ofFailure f stage).suggestions, s.InTenths :=
  fun s member => f.advice_inTenths s ((Suggestion.sort_perm f.advice).mem_iff.mp member)

theorem FileReport.ofOutcome_inTenths (o : Outcome) :
    ∀ d ∈ (FileReport.ofOutcome o).diagnostics, ∀ s ∈ d.suggestions, s.InTenths := by
  unfold FileReport.ofOutcome
  split
  · dsimp only
    split
    · exact List.forall_mem_nil _
    · exact List.forall_mem_singleton.mpr (List.forall_mem_nil _)
  · exact List.forall_mem_singleton.mpr (Diagnostic.ofFailure_inTenths _ _)

theorem RunReport.ofOutcomes_inTenths (model : String) (os : List Outcome) :
    (ofOutcomes model os).InTenths :=
  List.forall_mem_map.mpr fun o _ => FileReport.ofOutcome_inTenths o

/-- The report on a run comes back whole from either of its written forms, of which the compact one is a
single line; neither form is an empty object. -/
theorem RunReport.ofOutcomes_read_back (model : String) (os : List Outcome) :
    let r := ofOutcomes model os
    decode r.pretty = .ok r ∧ decode r.compact = .ok r ∧
      '\n' ∉ r.compact.toList ∧ '\r' ∉ r.compact.toList ∧
      r.pretty ≠ "\x7b\x7d" ∧ r.compact ≠ "\x7b\x7d" := by
  intro r
  have tenths := ofOutcomes_inTenths model os
  have pretty : decode r.pretty = .ok r := decode_written tenths (.inr rfl)
  have compact : decode r.compact = .ok r := decode_written tenths (.inl rfl)
  have solid := r.compact_uncontrolled
  refine ⟨pretty, compact, ?_, ?_, ne_empty_of_decoded pretty, ne_empty_of_decoded compact⟩
  · intro member
    exact absurd (solid _ member) (by decide)
  · intro member
    exact absurd (solid _ member) (by decide)

end Retrofit
