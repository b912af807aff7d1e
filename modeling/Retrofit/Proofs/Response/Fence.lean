import Retrofit.Proofs.Text.Trim
import Retrofit.Response.Fence

/-! What is left of a response without its fence. The lines between two fences come back as they are, up to
white space at their ends; only a closing fence on the very last line is ever taken away. -/
namespace Retrofit.Response

open Chars (lines lines_append lines_of_unbroken)

def unlines (ls : List (List Char)) : List Char :=
  ['\n'].intercalate ls

def lastLine (text : List Char) : List Char :=
  (lines text).getLast (Chars.splitWhere_ne_nil _ text)

section Lines

variable {text front : List Char}

theorem unlines_lines (text : List Char) : unlines (lines text) = text :=
  Chars.intercalate_splitWhere (fun _ same => eq_of_beq same) text

theorem drop_lines (unbroken : '\n' ∉ front) (rest : List Char) :
    (lines (front ++ '\n' :: rest)).drop 1 = lines rest := by
  rw [lines_append, lines_of_unbroken unbroken]
  rfl

theorem lastLine_mem (text : List Char) : lastLine text ∈ (lines text).getLast? :=
  List.getLast?_eq_some_getLast _

theorem unlines_concat {ls : List (List Char)} (some : ls ≠ []) (last : List Char) :
    unlines (ls ++ [last]) = unlines ls ++ '\n' :: last := by
  unfold unlines
  induction ls with
  | nil => exact absurd rfl some
  | cons l ls ih =>
    cases ls with
    | nil => simp
    | cons l' ls =>
      rw [List.cons_append, List.cons_append, List.intercalate_cons_cons,
        List.intercalate_cons_cons, ← List.cons_append, ih (List.cons_ne_nil _ _)]
      simp only [List.append_assoc]

/-- Without the last of the lines the beginning of the text is left. -/
theorem unlines_dropLast_prefix (ls : List (List Char)) : unlines ls.dropLast <+: unlines ls := by
  rcases List.eq_nil_or_concat' ls with rfl | ⟨front, last, rfl⟩
  · exact List.prefix_rfl
  · rw [List.dropLast_concat]
    by_cases alone : front = []
    · rw [alone]
      exact List.nil_prefix
    · rw [unlines_concat alone]
      exact List.prefix_append _ _

/-- Without the first of the lines the end of the text is left. -/
theorem unlines_drop_suffix (ls : List (List Char)) : unlines (ls.drop 1) <:+ unlines ls := by
  unfold unlines
  cases ls with
  | nil => exact List.suffix_rfl
  | cons l ls =>
    cases ls with
    | nil => exact List.nil_suffix
    | cons l' ls =>
      rw [List.intercalate_cons_cons]
      exact List.suffix_append _ _

end Lines

section Fences

variable {front behind margin tag : List Char}

theorem exists_tick : ∃ tick, fence = [tick, tick, tick] ∧ Chars.isBlank tick = false :=
  ⟨'\x60', rfl, rfl⟩

theorem trim_fence_append (blank : ∀ c ∈ front, Chars.isBlank c = true) (text : List Char) :
    Chars.trim (front ++ (fence ++ text)) = fence ++ Chars.trimRight text := by
  obtain ⟨tick, three, solid⟩ := exists_tick
  rw [Chars.trim_blank_append blank, three]
  exact (Chars.trim_solid solid _).trans (Chars.trimRight_solid [tick, tick] solid text)

theorem trimRight_append_fence (text : List Char) (blank : ∀ c ∈ behind, Chars.isBlank c = true) :
    Chars.trimRight (text ++ (fence ++ behind)) = text ++ fence := by
  obtain ⟨tick, three, solid⟩ := exists_tick
  have closed := Chars.trimRight_solid (text ++ [tick, tick]) solid behind
  rw [Chars.trimRight_eq_nil blank] at closed
  rw [three]
  simpa using closed

theorem trim_margin_fence (blank : ∀ c ∈ margin, Chars.isBlank c = true) :
    Chars.trim (margin ++ fence) = fence := by
  have alone := trim_fence_append blank []
  simpa [Chars.trimRight] using alone

theorem dropClosing_fence (ls : List (List Char)) (blank : ∀ c ∈ margin, Chars.isBlank c = true) :
    dropClosing (ls ++ [margin ++ fence]) = ls := by
  simp [dropClosing, trim_margin_fence blank]

theorem dropClosing_other {text : List Char} (other : Chars.trim (lastLine text) ≠ fence) :
    dropClosing (lines text) = lines text := by
  have last : (lines text).getLast? = some (lastLine text) := lastLine_mem text
  simp [dropClosing, last, other]

theorem dropClosing_isPrefix (ls : List (List Char)) :
    unlines (dropClosing ls) <+: unlines ls := by
  unfold dropClosing
  split
  · split
    · exact unlines_dropLast_prefix ls
    · exact List.prefix_rfl
  · exact List.prefix_rfl

theorem unfencedChars_of_fence {cs text : List Char} (trimmed : Chars.trim cs = fence ++ text) :
    unfencedChars cs = Chars.trim (unlines (dropClosing ((lines (fence ++ text)).drop 1))) := by
  have opens : fence.isPrefixOf (fence ++ text) = true :=
    List.isPrefixOf_iff_prefix.mpr (List.prefix_append _ _)
  unfold unfencedChars
  simp only [trimmed, opens, if_true]
  rfl

theorem unbroken_fence_append (onLine : '\n' ∉ tag) : '\n' ∉ fence ++ tag := by
  rw [List.mem_append, not_or]
  exact ⟨by decide, onLine⟩

/-- The line that opens a fence leaves nothing behind. -/
theorem unfencedChars_opening (blank : ∀ c ∈ front, Chars.isBlank c = true) (onLine : '\n' ∉ tag)
    (empty : ∀ c ∈ behind, Chars.isBlank c = true) :
    unfencedChars (front ++ (fence ++ (tag ++ behind))) = [] := by
  have trimmed := trim_fence_append blank (tag ++ behind)
  have shorter : '\n' ∉ Chars.trimRight tag :=
    fun member => onLine ((Chars.trimRight_isPrefix tag).subset member)
  rw [Chars.trimRight_append_blank tag empty] at trimmed
  rw [unfencedChars_of_fence trimmed, lines_of_unbroken (unbroken_fence_append shorter)]
  rfl

/-- Behind the line that opens a fence only what closes it can be dropped. -/
theorem unfencedChars_opened (blank : ∀ c ∈ front, Chars.isBlank c = true) (onLine : '\n' ∉ tag)
    (inner : List Char) :
    unfencedChars (front ++ (fence ++ (tag ++ '\n' :: inner))) =
      Chars.trim (unlines (dropClosing (lines (Chars.trimRight inner)))) := by
  by_cases empty : Chars.trimRight inner = []
  · have gap : ∀ c ∈ '\n' :: inner, Chars.isBlank c = true := by
      rw [List.forall_mem_cons]
      exact ⟨rfl, List.rdropWhile_eq_nil_iff.mp empty⟩
    rw [unfencedChars_opening blank onLine gap, empty]
    rfl
  · have kept : Chars.trimRight ('\n' :: inner) = '\n' :: Chars.trimRight inner := by
      rw [Chars.trimRight_cons, if_neg empty]
    have trimmed := trim_fence_append blank (tag ++ '\n' :: inner)
    rw [Chars.trimRight_append, kept, if_neg (List.cons_ne_nil _ _)] at trimmed
    rw [unfencedChars_of_fence trimmed, ← List.append_assoc,
      drop_lines (unbroken_fence_append onLine)]

theorem unfencedChars_closed (blank : ∀ c ∈ front, Chars.isBlank c = true) (onLine : '\n' ∉ tag)
    (body : List Char) (space : ∀ c ∈ margin, Chars.isBlank c = true) (unbroken : '\n' ∉ margin)
    (empty : ∀ c ∈ behind, Chars.isBlank c = true) :
    unfencedChars (front ++ (fence ++ (tag ++ '\n' :: (body ++ '\n' :: (margin ++ (fence ++ behind)))))) =
      Chars.trim body := by
  have inner := trimRight_append_fence (body ++ '\n' :: margin) empty
  have last : '\n' ∉ margin ++ fence := by
    rw [List.mem_append, not_or]
    exact ⟨unbroken, by decide⟩
  simp only [List.append_assoc, List.cons_append] at inner
  rw [unfencedChars_opened blank onLine, inner, lines_append, lines_of_unbroken last,
    dropClosing_fence _ space, unlines_lines]

theorem unfencedChars_hollow (blank : ∀ c ∈ front, Chars.isBlank c = true) (onLine : '\n' ∉ tag)
    (space : ∀ c ∈ margin, Chars.isBlank c = true) (unbroken : '\n' ∉ margin)
    (empty : ∀ c ∈ behind, Chars.isBlank c = true) :
    unfencedChars (front ++ (fence ++ (tag ++ '\n' :: (margin ++ (fence ++ behind))))) = [] := by
  have last : '\n' ∉ margin ++ fence := by
    rw [List.mem_append, not_or]
    exact ⟨unbroken, by decide⟩
  rw [unfencedChars_opened blank onLine, trimRight_append_fence margin empty,
    lines_of_unbroken last, ← List.nil_append [margin ++ fence], dropClosing_fence [] space]
  rfl

theorem unfencedChars_unclosed (blank : ∀ c ∈ front, Chars.isBlank c = true) (onLine : '\n' ∉ tag)
    {body : List Char} (other : Chars.trim (lastLine (Chars.trimRight body)) ≠ fence) :
    unfencedChars (front ++ (fence ++ (tag ++ '\n' :: body))) = Chars.trim body := by
  rw [unfencedChars_opened blank onLine, dropClosing_other other, unlines_lines,
    Chars.trim_trimRight]

theorem unfencedChars_bare {cs : List Char} (bare : ¬ fence <+: Chars.trim cs) :
    unfencedChars cs = Chars.trim cs := by
  have closed : fence.isPrefixOf (Chars.trim cs) = false :=
    Bool.eq_false_iff.mpr fun opens => bare (List.isPrefixOf_iff_prefix.mp opens)
  simp [unfencedChars, closed]

theorem unfencedChars_infix (cs : List Char) : unfencedChars cs <:+: cs := by
  unfold unfencedChars
  dsimp only
  split
  · have inner : unlines ((lines (Chars.trim cs)).drop 1) <:+: Chars.trim cs := by
      have rest := unlines_drop_suffix (lines (Chars.trim cs))
      rw [unlines_lines] at rest
      exact rest.isInfix
    have kept := (dropClosing_isPrefix ((lines (Chars.trim cs)).drop 1)).isInfix
    exact (Chars.trim_infix _).trans (kept.trans (inner.trans (Chars.trim_infix cs)))
  · exact Chars.trim_infix cs

theorem unfencedChars_trimmed (cs : List Char) : Chars.Trimmed (unfencedChars cs) := by
  unfold unfencedChars
  dsimp only
  split
  · exact Chars.trimmed_trim _
  · exact Chars.trimmed_trim cs

end Fences

theorem blank_of_isBlank {s : String} (blank : Text.isBlank s = true) :
    ∀ c ∈ s.toList, Chars.isBlank c = true :=
  List.all_eq_true.mp blank

/-- What stands between two fences is given back, whatever it holds, and so is what stands behind an opening
fence that nothing closes. An opening fence alone, or closed at once, leaves nothing. Text without a fence is
only trimmed. No text is ever made up: the result is a piece of the response without white space around it. -/
theorem unfenced_undoes_fence {front behind margin tag : String} (body raw : String)
    (blank : Text.isBlank front = true) (empty : Text.isBlank behind = true)
    (space : Text.isBlank margin = true) (unbroken : '\n' ∉ margin.toList) (onLine : '\n' ∉ tag.toList) :
    unfenced (front ++ "```" ++ tag ++ "\n" ++ body ++ "\n" ++ margin ++ "```" ++ behind) =
        Text.trim body ∧
      (Chars.trim (lastLine (Chars.trimRight body.toList)) ≠ fence →
        unfenced (front ++ "```" ++ tag ++ "\n" ++ body) = Text.trim body) ∧
      unfenced (front ++ "```" ++ tag ++ behind) = "" ∧
      unfenced (front ++ "```" ++ tag ++ "\n" ++ margin ++ "```" ++ behind) = "" ∧
      (¬ fence <+: Chars.trim raw.toList → unfenced raw = Text.trim raw) ∧
      (unfenced raw).toList <:+: raw.toList ∧ Chars.Trimmed (unfenced raw).toList := by
  have before := blank_of_isBlank blank
  have after := blank_of_isBlank empty
  have aside := blank_of_isBlank space
  have ticks : "```".toList = fence := rfl
  have newline : "\n".toList = ['\n'] := rfl
  unfold unfenced Text.trim
  simp only [String.toList_append, ticks, newline, List.append_assoc, List.cons_append,
    List.nil_append, String.toList_ofList]
  refine ⟨?_, ?_, ?_, ?_, ?_, unfencedChars_infix _, unfencedChars_trimmed _⟩
  · rw [unfencedChars_closed before onLine _ aside unbroken after]
  · intro other
    rw [unfencedChars_unclosed before onLine other]
  · rw [unfencedChars_opening before onLine after]
  · rw [unfencedChars_hollow before onLine aside unbroken after]
  · intro bare
    rw [unfencedChars_bare bare]

/-- A response with a fence of its own inside, whose last line only begins like a fence. -/
def quoting : String := "```\n\x7b\x7d\n```\r\n```end"

theorem quoting_unfenced :
    let front := "\u00a0\n"
    let behind := "\r\n"
    let margin := "\t\u2003"
    let tag := "json```"
    Text.isBlank front = true ∧ Text.isBlank behind = true ∧ Text.isBlank margin = true ∧
      '\n' ∉ margin.toList ∧ '\n' ∉ tag.toList ∧
      Chars.trim (lastLine (Chars.trimRight quoting.toList)) ≠ fence ∧
      ¬ fence <+: Chars.trim "  \x7b\x7d\n```".toList ∧
      unfenced (front ++ "```" ++ tag ++ "\n" ++ quoting ++ "\n" ++ margin ++ "```" ++ behind) =
        Text.trim quoting ∧
      unfenced (front ++ "```" ++ tag ++ "\n" ++ quoting) = Text.trim quoting ∧
      unfenced "  \x7b\x7d\n```" = Text.trim "  \x7b\x7d\n```" := by
  intro front behind margin tag
  have blank : Text.isBlank front = true := by decide
  have empty : Text.isBlank behind = true := by decide
  have space : Text.isBlank margin = true := by decide
  have unbroken : '\n' ∉ margin.toList := by decide
  have onLine : '\n' ∉ tag.toList := by decide
  have other : Chars.trim (lastLine (Chars.trimRight quoting.toList)) ≠ fence := by decide
  have bare : ¬ fence <+: Chars.trim "  \x7b\x7d\n```".toList := by decide
  obtain ⟨closed, unclosed, -, -, unmarked, -⟩ :=
    unfenced_undoes_fence quoting "  \x7b\x7d\n```" blank empty space unbroken onLine
  exact ⟨blank, empty, space, unbroken, onLine, other, bare, closed, unclosed other, unmarked bare⟩

/-- A response that holds the text: alone, or between two fences. In either case there may be white space
around it. -/
inductive Wraps (text : String) : String → Prop
  | padded (front behind : String) (blank : Text.isBlank front = true)
      (empty : Text.isBlank behind = true) : Wraps text (front ++ text ++ behind)
  | fenced (front tag above below margin behind : String) (blank : Text.isBlank front = true)
      (onLine : '\n' ∉ tag.toList) (gap : Text.isBlank above = true) (gap' : Text.isBlank below = true)
      (space : Text.isBlank margin = true) (unbroken : '\n' ∉ margin.toList)
      (empty : Text.isBlank behind = true) :
      Wraps text (front ++ "```" ++ tag ++ "\n" ++ (above ++ text ++ below) ++ "\n" ++ margin ++ "```" ++
        behind)

theorem wraps_self (text : String) : Wraps text text := by
  have alone : Wraps text ("" ++ text ++ "") := .padded "" "" rfl rfl
  rwa [String.empty_append, String.append_empty] at alone

theorem trim_padded {front text behind : List Char} (blank : ∀ c ∈ front, Chars.isBlank c = true)
    (trimmed : Chars.Trimmed text) (empty : ∀ c ∈ behind, Chars.isBlank c = true) :
    Chars.trim (front ++ (text ++ behind)) = text := by
  rw [Chars.trim_blank_append blank, Chars.trim_append_blank _ empty, trimmed.trim_eq]

/-- A text without a fence of its own comes back out of what holds it. -/
theorem Wraps.unfenced_eq {text raw : String} (wraps : Wraps text raw)
    (trimmed : Chars.Trimmed text.toList) (bare : ¬ fence <+: text.toList) : unfenced raw = text := by
  have ticks : "```".toList = fence := rfl
  have newline : "\n".toList = ['\n'] := rfl
  rw [← String.toList_inj, unfenced, String.toList_ofList]
  cases wraps with
  | padded front behind blank empty =>
    have inner := trim_padded (blank_of_isBlank blank) trimmed (blank_of_isBlank empty)
    rw [String.toList_append, String.toList_append, List.append_assoc, unfencedChars_bare, inner]
    rwa [inner]
  | fenced front tag above below margin behind blank onLine gap gap' space unbroken empty =>
    have inner := trim_padded (blank_of_isBlank gap) trimmed (blank_of_isBlank gap')
    have closed := unfencedChars_closed (blank_of_isBlank blank) onLine
      (above.toList ++ (text.toList ++ below.toList)) (blank_of_isBlank space) unbroken
      (blank_of_isBlank empty)
    rw [inner] at closed
    simpa only [String.toList_append, ticks, newline, List.append_assoc, List.cons_append,
      List.nil_append] using closed

end Retrofit.Response
