import Mathlib.Tactic.SplitIfs
import Retrofit.Proofs.Text.Words
import Retrofit.Skeleton.Indented

/-! Literals between three quotes. A text that has been escaped neither ends its literal nor leaves its
line, and the escapes in it can be undone. -/
namespace Retrofit.Skeleton

/-- What stands in a literal behind its opening quotes, and what follows the literal. A backslash takes the
next character with it, and the first three quotes in a row that are left end the literal. -/
def literalBody : List Char → Option (List Char × List Char)
  | '"' :: '"' :: '"' :: rest => some ([], rest)
  | '\\' :: c :: cs => (literalBody cs).map fun (body, rest) => ('\\' :: c :: body, rest)
  | ['\\'] => none
  | c :: cs => (literalBody cs).map fun (body, rest) => (c :: body, rest)
  | [] => none

/-- Reads a literal from its opening quotes on. -/
def literal : List Char → Option (List Char × List Char)
  | '"' :: '"' :: '"' :: cs => literalBody cs
  | _ => none

/-- A backslash in front of a backslash or a quote is dropped. -/
def unescaped : List Char → List Char
  | '\\' :: '\\' :: cs => '\\' :: unescaped cs
  | '\\' :: '"' :: cs => '"' :: unescaped cs
  | c :: cs => c :: unescaped cs
  | [] => []

/-- Puts other characters in the place of one, wherever it occurs. -/
def substituted (c : Char) (other : List Char) (cs : List Char) : List Char :=
  cs.flatMap fun d => if d = c then other else [d]

theorem escapeQuotes_cases (c : Char) :
    (c = '\\' ∧ escapeQuotes c = ['\\', '\\']) ∨ (c = '"' ∧ escapeQuotes c = ['\\', '"']) ∨
      (c ≠ '\\' ∧ c ≠ '"' ∧ escapeQuotes c = [c]) := by
  unfold escapeQuotes
  split_ifs with backslash quote
  · exact .inl ⟨backslash, rfl⟩
  · exact .inr (.inl ⟨quote, rfl⟩)
  · exact .inr (.inr ⟨backslash, quote, rfl⟩)

/-- Escaping is two substitutions one after the other, that of the backslashes first. -/
theorem escaped_eq_substituted (cs : List Char) :
    cs.flatMap escapeQuotes =
      substituted '"' ['\\', '"'] (substituted '\\' ['\\', '\\'] cs) := by
  unfold substituted
  rw [List.flatMap_assoc]
  congr 1
  funext c
  rcases escapeQuotes_cases c with ⟨rfl, escaped⟩ | ⟨rfl, escaped⟩ | ⟨backslash, quote, escaped⟩
  · rw [escaped]
    rfl
  · rw [escaped]
    rfl
  · simp [escaped, backslash, quote]

section Plain

variable {c : Char}

theorem literalBody_plain (quote : c ≠ '"') (backslash : c ≠ '\\') (cs : List Char) :
    literalBody (c :: cs) = (literalBody cs).map fun (body, rest) => (c :: body, rest) := by
  rw [literalBody.eq_def]
  split <;> simp_all

theorem unescaped_plain (backslash : c ≠ '\\') (cs : List Char) :
    unescaped (c :: cs) = c :: unescaped cs := by
  rw [unescaped.eq_def]
  split <;> simp_all

end Plain

/-- Escaped text is passed over, whatever follows it. -/
theorem literalBody_escaped (cs behind : List Char) :
    literalBody (cs.flatMap escapeQuotes ++ behind) =
      (literalBody behind).map fun (body, rest) => (cs.flatMap escapeQuotes ++ body, rest) := by
  induction cs with
  | nil => simp
  | cons c cs ih =>
    rw [List.flatMap_cons, List.append_assoc]
    rcases escapeQuotes_cases c with ⟨rfl, escaped⟩ | ⟨rfl, escaped⟩ | ⟨backslash, quote, escaped⟩
    · simp [escaped, literalBody, ih, Function.comp_def]
    · simp [escaped, literalBody, ih, Function.comp_def]
    · simp [escaped, literalBody_plain quote backslash, ih, Function.comp_def]

theorem unescaped_escaped (cs : List Char) : unescaped (cs.flatMap escapeQuotes) = cs := by
  induction cs with
  | nil => rfl
  | cons c cs ih =>
    rw [List.flatMap_cons]
    rcases escapeQuotes_cases c with ⟨rfl, escaped⟩ | ⟨rfl, escaped⟩ | ⟨backslash, -, escaped⟩
    · simp [escaped, unescaped, ih]
    · simp [escaped, unescaped, ih]
    · simp [escaped, unescaped_plain backslash, ih]

/-- No line break is left in the text of a literal, as no white space but the space itself is. -/
theorem space_of_mem_docText {t : String} {c : Char} (member : c ∈ (docText t).toList)
    (blank : Chars.isBlank c = true) : c = ' ' := by
  rw [docText, String.toList_ofList, List.mem_flatMap] at member
  obtain ⟨d, source, inside⟩ := member
  rcases escapeQuotes_cases d with ⟨rfl, escaped⟩ | ⟨rfl, escaped⟩ | ⟨-, -, escaped⟩
  · rw [escaped] at inside
    simp only [List.mem_cons, List.not_mem_nil, or_false, or_self] at inside
    subst inside
    cases blank
  · rw [escaped] at inside
    simp only [List.mem_cons, List.not_mem_nil, or_false] at inside
    rcases inside with rfl | rfl <;> cases blank
  · rw [escaped, List.mem_singleton] at inside
    subst inside
    exact Text.space_of_mem_oneLine source blank

/-- A literal around the text that is made of `t` ends where it was closed, whatever follows it; the text
stays on its line, and without its escapes it is the words of `t`. -/
theorem docText_closed (t : String) :
    (∀ c ∈ (docText t).toList, Chars.isBlank c = true → c = ' ') ∧
      (∀ rest, literal ((docQuotes ++ docText t ++ docQuotes).toList ++ rest) =
        some ((docText t).toList, rest)) ∧
      unescaped (docText t).toList = (Text.oneLine t).toList := by
  refine ⟨fun c => space_of_mem_docText, ?_, ?_⟩
  · intro rest
    have opened : literal ((docQuotes ++ docText t ++ docQuotes).toList ++ rest) =
        literalBody ((docText t).toList ++ ('"' :: '"' :: '"' :: rest)) := by
      simp [docQuotes, literal]
    have closed : literalBody ('"' :: '"' :: '"' :: rest) = some ([], rest) := by
      simp [literalBody]
    rw [opened, docText, String.toList_ofList, literalBody_escaped, closed]
    simp
  · rw [docText, String.toList_ofList, unescaped_escaped]

/-- Quotes at the end, a line break and a backslash are all the same to the literal. -/
theorem docText_closed_quoted :
    let t := "calls \"\"\"\n\tC:\\old\""
    ' ' ∈ (docText t).toList ∧ Chars.isBlank ' ' = true ∧
      literal ((docQuotes ++ docText t ++ docQuotes).toList ++ ['\n']) =
        some ("calls \\\"\\\"\\\" C:\\\\old\\\"".toList, ['\n']) ∧
      unescaped (docText t).toList = "calls \"\"\" C:\\old\"".toList := by
  intro t
  have escaped : (docText t).toList = "calls \\\"\\\"\\\" C:\\\\old\\\"".toList := by
    decide +kernel
  have words : (Text.oneLine t).toList = "calls \"\"\" C:\\old\"".toList := by
    decide +kernel
  obtain ⟨-, closed, kept⟩ := docText_closed t
  rw [escaped] at closed
  refine ⟨by rw [escaped]; decide, rfl, closed _, kept.trans words⟩

/-- The three lines on a module, with a line break before and behind each. -/
def preambleWords (p : Project) (m : Module) : String :=
  "\n" ++ Text.oneLine m.description ++ "\nOriginal: " ++ Text.oneLine p.legacyName ++
    "\nSuggested: " ++ Text.oneLine p.modernName ++ "\n"

theorem toList_pythonPreamble (p : Project) (m : Module) :
    (render .python (pythonPreamble p m)).toList =
      '"' :: '"' :: '"' :: ((preambleWords p m).toList.flatMap escapeQuotes ++
        ['"', '"', '"', '\n', '\n']) := by
  have legacy : "\nOriginal: ".toList.flatMap escapeQuotes = "\nOriginal: ".toList := by decide
  have modern : "\nSuggested: ".toList.flatMap escapeQuotes = "\nSuggested: ".toList := by decide
  have line : escapeQuotes '\n' = ['\n'] := by decide
  simp only [preambleWords, String.toList_append, List.flatMap_append, legacy, modern]
  simp [render, pythonPreamble, Skeleton.line, Line.chars, docQuotes, docText, Text.toString_same, line]

/-- What is said about a module in front of its declaration is one literal, and its escapes can be undone:
no description and no name of a file ends it early. -/
theorem pythonPreamble_closed (p : Project) (m : Module) :
    ∃ body, literal (render .python (pythonPreamble p m)).toList = some (body, ['\n', '\n']) ∧
      unescaped body = (preambleWords p m).toList := by
  have closed : literalBody ['"', '"', '"', '\n', '\n'] = some ([], ['\n', '\n']) := by
    simp [literalBody]
  refine ⟨(preambleWords p m).toList.flatMap escapeQuotes, ?_, unescaped_escaped _⟩
  rw [toList_pythonPreamble, literal, literalBody_escaped, closed]
  simp

end Retrofit.Skeleton
