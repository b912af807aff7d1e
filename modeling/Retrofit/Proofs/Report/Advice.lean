import Mathlib.Data.List.Perm.Basic
import Retrofit.Proofs.Response.Analysis
import Retrofit.Report.Diagnostic

/-! The advice on broken text. The advice to try again is meant for an empty response, but all that is looked
at is the part of the response that the failure quotes. -/
namespace Retrofit

namespace Suggestion

theorem insert_perm (s : Suggestion) (ts : List Suggestion) : (insert s ts).Perm (s :: ts) := by
  induction ts with
  | nil => rfl
  | cons t ts ih =>
    unfold insert
    split
    · rfl
    · exact (ih.cons t).trans (List.Perm.swap s t ts)

theorem sort_perm (ss : List Suggestion) : (sort ss).Perm ss := by
  have gathered (sorted : List Suggestion) :
      (ss.foldl (fun sorted s => insert s sorted) sorted).Perm (ss ++ sorted) := by
    induction ss generalizing sorted with
    | nil => rfl
    | cons s ss ih =>
      have first : (ss ++ insert s sorted).Perm (ss ++ s :: sorted) := (insert_perm s sorted).append_left ss
      exact (ih _).trans (first.trans List.perm_middle)
  have whole := gathered []
  rwa [List.append_nil] at whole

end Suggestion

namespace Failure

def retryAdvice : String := "The response was empty; retry the model call"

/-- What is advised against broken text, the most promising first. -/
theorem malformed_advice (message snippet : String) (stage : Option Stage) :
    (Diagnostic.ofFailure (.malformed message snippet) stage).suggestions.map (·.message) =
      (if Text.isBlank snippet then [retryAdvice] else []) ++
        ["Return a single JSON object with no prose around it",
          "Remove comments and trailing commas from the JSON"] := by
  simp only [Diagnostic.ofFailure, advice]
  cases Text.isBlank snippet <;> decide +kernel

end Failure

/-- The diagnostic gives this advice. -/
def Diagnostic.Advises (d : Diagnostic) (text : String) : Prop :=
  text ∈ d.suggestions.map (·.message)

/-- As many blanks as a failure quotes stand in front, and something else stands behind them. -/
def BlankFront (raw : String) : Prop :=
  ∃ front rest, raw.toList = front ++ rest ∧ front.length = Failure.snippetLength ∧
    (∀ c ∈ front, Chars.isBlank c = true) ∧ ∃ c ∈ rest, Chars.isBlank c = false

/-- The quoted part is blank also where the response is not. -/
theorem isBlank_snippet_iff (raw : String) :
    Text.isBlank (Text.takeChars Failure.snippetLength raw) = true ↔
      Text.isBlank raw = true ∨ BlankFront raw := by
  simp only [Text.isBlank, Text.takeChars, String.toList_ofList, List.all_eq_true]
  refine ⟨?_, ?_⟩
  · intro quoted
    by_cases unquoted : ∀ c ∈ raw.toList.drop Failure.snippetLength, Chars.isBlank c = true
    · left
      rw [← List.take_append_drop Failure.snippetLength raw.toList, List.forall_mem_append]
      exact ⟨quoted, unquoted⟩
    · right
      push Not at unquoted
      obtain ⟨c, member, solid⟩ := unquoted
      have long : Failure.snippetLength < raw.toList.length := by
        by_contra short
        rw [List.drop_eq_nil_of_le (Nat.le_of_not_lt short)] at member
        exact List.not_mem_nil member
      exact ⟨_, _, (List.take_append_drop _ _).symm, List.length_take_of_le (Nat.le_of_lt long), quoted, c,
        member, Bool.eq_false_iff.mpr solid⟩
  · rintro (blank | ⟨front, rest, split, length, blank, -⟩)
    · exact fun c member => blank c (List.mem_of_mem_take member)
    · rw [split, List.take_left' length]
      exact blank

theorem not_blank_of_blankFront {raw : String} (front : BlankFront raw) : Text.isBlank raw = false := by
  obtain ⟨front, rest, split, -, -, c, member, solid⟩ := front
  rw [Bool.eq_false_iff]
  intro blank
  have inside : c ∈ raw.toList := split ▸ List.mem_append_right front member
  exact Bool.eq_false_iff.mp solid (Response.blank_of_isBlank blank c inside)

namespace Project

variable {raw : String} {f : Failure}

theorem ofResponse_malformed (failed : ofResponse raw = .error f) (kind : f.kind = "MalformedPayload") :
    ∃ message, f = .malformedFrom message raw := by
  obtain ⟨message, rfl | rfl⟩ := ofResponse_error failed
  · exact ⟨message, rfl⟩
  · exact absurd kind (by simp [Failure.kind, Failure.schemaFrom])

theorem ofResponse_unread (unread : (Json.parse (Response.unfenced raw)).isOk = false) :
    ∃ f, ofResponse raw = .error f ∧ f.kind = "MalformedPayload" := by
  cases read : Response.payload raw with
  | error f =>
    obtain ⟨message, rfl⟩ := Response.payload_error read
    exact ⟨_, congrArg (Except.bind · (validateFrom raw)) read, rfl⟩
  | ok text =>
    obtain ⟨rfl, v, parsed⟩ := Response.payload_ok_iff.mp read
    rw [parsed] at unread
    cases unread

/-- There is no value in a response that is blank. -/
theorem ofResponse_blank (blank : Text.isBlank raw = true) :
    ∃ f, ofResponse raw = .error f ∧ f.kind = "MalformedPayload" := by
  have empty : Chars.trim raw.toList = [] :=
    (Chars.trim_eq_nil_iff _).mpr (Response.blank_of_isBlank blank)
  have bare : ¬ Response.fence <+: Chars.trim raw.toList := by
    rw [empty]
    decide
  apply ofResponse_unread
  rw [Response.unfenced, Response.unfencedChars_bare bare, empty]
  decide +kernel

theorem advises_retry_iff (message raw : String) (stage : Option Stage) :
    (Diagnostic.ofFailure (.malformedFrom message raw) stage).Advises Failure.retryAdvice ↔
      Text.isBlank raw = true ∨ BlankFront raw := by
  rw [Diagnostic.Advises, Failure.malformedFrom, Failure.malformed_advice, ← isBlank_snippet_iff]
  cases Text.isBlank (Text.takeChars Failure.snippetLength raw) <;> decide

/-- The advice to try again goes with the broken responses that are blank, and it stands first there. It also
goes with those that only begin with as many blanks as are quoted, though they are not empty, and with no
others. -/
theorem retry_advised_iff (failed : ofResponse raw = .error f) (kind : f.kind = "MalformedPayload")
    (stage : Option Stage) :
    let d := Diagnostic.ofFailure f stage
    (d.Advises Failure.retryAdvice ↔ Text.isBlank raw = true ∨ BlankFront raw) ∧
      (d.Advises Failure.retryAdvice →
        d.suggestions.head?.map (·.message) = some Failure.retryAdvice) ∧
      ((d.Advises Failure.retryAdvice ↔ Text.isBlank raw = true) ↔ ¬ BlankFront raw) := by
  obtain ⟨message, rfl⟩ := ofResponse_malformed failed kind
  have advised := advises_retry_iff message raw stage
  refine ⟨advised, ?_, ?_⟩
  · rw [advised, ← isBlank_snippet_iff]
    intro blank
    rw [← List.head?_map, Failure.malformedFrom, Failure.malformed_advice, blank]
    rfl
  · rw [advised]
    refine ⟨?_, fun none => or_iff_left none⟩
    intro only front
    have blank := only.mp (.inr front)
    rw [not_blank_of_blankFront front] at blank
    cases blank

theorem retry_advised_blank :
    ∃ f, ofResponse " \n" = .error f ∧ f.kind = "MalformedPayload" ∧
      let d := Diagnostic.ofFailure f (some .analysis)
      (d.Advises Failure.retryAdvice ↔ Text.isBlank " \n" = true ∨ BlankFront " \n") ∧
      (d.Advises Failure.retryAdvice →
        d.suggestions.head?.map (·.message) = some Failure.retryAdvice) ∧
      ((d.Advises Failure.retryAdvice ↔ Text.isBlank " \n" = true) ↔ ¬ BlankFront " \n") := by
  obtain ⟨f, failed, kind⟩ := ofResponse_blank (show Text.isBlank " \n" = true by decide)
  exact ⟨f, failed, kind, retry_advised_iff failed kind (some .analysis)⟩

/-- Text that is not JSON behind as many blanks as a failure quotes. -/
def buried : String := String.ofList (List.replicate Failure.snippetLength ' ' ++ ['x'])

theorem isBlank_of_mem_spaces (n : Nat) : ∀ c ∈ List.replicate n ' ', Chars.isBlank c = true := by
  intro c member
  rw [List.eq_of_mem_replicate member]
  rfl

theorem blankFront_buried : BlankFront buried :=
  ⟨_, ['x'], String.toList_ofList, List.length_replicate, isBlank_of_mem_spaces _, 'x',
    List.mem_singleton.mpr rfl, rfl⟩

theorem unfenced_buried : Response.unfenced buried = "x" := by
  have text : Chars.trim buried.toList = ['x'] := by
    rw [buried, String.toList_ofList, Chars.trim_blank_append (isBlank_of_mem_spaces _)]
    decide
  have bare : ¬ Response.fence <+: Chars.trim buried.toList := by
    rw [text]
    decide
  rw [Response.unfenced, Response.unfencedChars_bare bare, text]

/-- A response that is not empty is said to have been. -/
theorem retry_advised_buried :
    ∃ f, ofResponse buried = .error f ∧ f.kind = "MalformedPayload" ∧ Text.isBlank buried = false ∧
      (Diagnostic.ofFailure f none).Advises Failure.retryAdvice := by
  have unread : (Json.parse (Response.unfenced buried)).isOk = false := by
    rw [unfenced_buried]
    decide +kernel
  obtain ⟨f, failed, kind⟩ := ofResponse_unread unread
  obtain ⟨message, rfl⟩ := ofResponse_malformed failed kind
  exact ⟨_, failed, kind, not_blank_of_blankFront blankFront_buried,
    (advises_retry_iff _ _ _).mpr (.inr blankFront_buried)⟩

end Project

end Retrofit
