import Retrofit.Proofs.Text.Words
import Retrofit.Skeleton.Basic

/-! The code of a text: its lines without comments, without white space at their ends, and without those
lines on which nothing is left then. -/
namespace Retrofit

/-- What ends a line: the newline, and possibly other white space, but not the space itself. -/
structure LineBreaks where
  isBreak : Char → Bool
  newline : isBreak '\n' = true
  blank : ∀ c, isBreak c = true → Chars.isBlank c = true
  space : isBreak ' ' = false

namespace Chars

/-- What stands in front of the first two slashes. -/
def uncommented : List Char → List Char
  | '/' :: '/' :: _ => []
  | c :: cs => c :: uncommented cs
  | [] => []

/-- The code on one line. -/
def lineCode (cs : List Char) : List Char :=
  trimRight (uncommented cs)

end Chars

namespace LineBreaks

/-- Only the newline ends a line. -/
def newlines : LineBreaks where
  isBreak c := c == '\n'
  newline := rfl
  blank c same := by
    rw [eq_of_beq same]
    rfl
  space := rfl

/-- All the characters that any notation takes for the end of a line. -/
def all : LineBreaks where
  isBreak c := ['\n', '\x0b', '\x0c', '\r', '\u0085', '\u2028', '\u2029'].contains c
  newline := rfl
  blank c member := by
    simp only [List.contains_eq_mem, decide_eq_true_eq, List.mem_cons, List.not_mem_nil, or_false]
      at member
    rcases member with rfl | rfl | rfl | rfl | rfl | rfl | rfl <;> rfl
  space := rfl

/-- The code on those of the lines that hold any. -/
def kept (lines : List (List Char)) : List (List Char) :=
  (lines.map Chars.lineCode).filter (· ≠ [])

def code (b : LineBreaks) (text : List Char) : List (List Char) :=
  kept (Chars.splitWhere b.isBreak text)

end LineBreaks

/-! One line -/

namespace Chars

theorem uncommented_slashes (cs : List Char) : uncommented ('/' :: '/' :: cs) = [] := by
  simp [uncommented]

theorem uncommented_cons {c : Char} {cs : List Char}
    (further : ∀ rest, c :: cs ≠ '/' :: '/' :: rest) :
    uncommented (c :: cs) = c :: uncommented cs := by
  rw [uncommented.eq_def]
  split
  · rename_i same
    exact absurd same (further _)
  · rename_i same
    cases same
    rfl
  · rename_i same
    cases same

theorem lineCode_slashes (cs : List Char) : lineCode ('/' :: '/' :: cs) = [] := by
  rw [lineCode, uncommented_slashes]
  rfl

theorem lineCode_cons_congr {c : Char} {xs ys : List Char}
    (further : ∀ rest, c :: xs ≠ '/' :: '/' :: rest) (further' : ∀ rest, c :: ys ≠ '/' :: '/' :: rest)
    (same : lineCode xs = lineCode ys) : lineCode (c :: xs) = lineCode (c :: ys) := by
  rw [lineCode, lineCode, uncommented_cons further, uncommented_cons further']
  exact trimRight_cons_congr c same

/-- White space in front of nothing is nothing. -/
theorem lineCode_blank {gap : List Char} (blank : ∀ c ∈ gap, isBlank c = true) {cs : List Char}
    (nothing : lineCode cs = []) : lineCode (gap ++ cs) = [] := by
  induction gap with
  | nil => exact nothing
  | cons c gap ih =>
    rw [List.forall_mem_cons] at blank
    have solid : c ≠ '/' := by
      rintro rfl
      cases blank.1
    have alone : lineCode [c] = [] := by
      rw [lineCode, uncommented_cons (by simp)]
      simp [uncommented, trimRight, blank.1]
    rw [List.cons_append, ← alone]
    exact lineCode_cons_congr (by simp [solid]) (by simp) (ih blank.2)

/-- White space with nothing but a comment behind it adds no code to a line. -/
theorem lineCode_append_gap (xs : List Char) {c : Char} (blank : isBlank c = true) {cs : List Char}
    (nothing : lineCode (c :: cs) = []) : lineCode (xs ++ c :: cs) = lineCode xs := by
  have solid : c ≠ '/' := by
    rintro rfl
    cases blank
  fun_induction uncommented xs with
  | case1 xs => rw [List.cons_append, List.cons_append, lineCode_slashes, lineCode_slashes]
  | case2 x xs further ih =>
    -- The first slash of a comment cannot be the last character of `xs`, as `c` lies between.
    refine lineCode_cons_congr ?_ ?_ ih
    · intro rest same
      cases xs with
      | nil => exact solid (List.cons.inj (List.cons.inj same).2).1
      | cons y ys =>
        cases same
        exact further _ rfl rfl
    · rintro rest ⟨⟩
      exact further _ rfl rfl
  | case3 => exact nothing

end Chars

/-! Lines of a text -/

namespace LineBreaks

theorem kept_append (xs ys : List (List Char)) : kept (xs ++ ys) = kept xs ++ kept ys := by
  simp [kept]

theorem kept_cons_nothing {line : List Char} (nothing : Chars.lineCode line = [])
    (lines : List (List Char)) : kept (line :: lines) = kept lines := by
  simp [kept, nothing]

theorem kept_singleton_congr {line line' : List Char}
    (same : Chars.lineCode line = Chars.lineCode line') : kept [line] = kept [line'] := by
  simp [kept, same]

variable (b : LineBreaks)

/-- Behind a line break the code is counted anew. -/
theorem code_break {c : Char} (ends : b.isBreak c = true) (xs ys : List Char) :
    b.code (xs ++ c :: ys) = b.code xs ++ b.code ys := by
  rw [code, Chars.splitWhere_append ends, kept_append]
  rfl

/-- The code on the lines of a text behind the first. -/
def leak (text : List Char) : List (List Char) :=
  kept (Chars.splitWhere b.isBreak text).tail

theorem leak_unbroken {text : List Char} (unbroken : ∀ c ∈ text, b.isBreak c = false) :
    b.leak text = [] := by
  rw [leak, Chars.splitWhere_of_uncut unbroken]
  rfl

theorem unbroken_of_all {text : List Char} (all : text.all (fun c => !b.isBreak c) = true) :
    ∀ c ∈ text, b.isBreak c = false := by
  simpa only [List.all_eq_true, Bool.not_eq_true'] using all

theorem not_break_of_solid {c : Char} (solid : Chars.isBlank c = false) : b.isBreak c = false := by
  cases here : b.isBreak c with
  | false => rfl
  | true =>
    rw [b.blank c here] at solid
    cases solid

theorem not_break_of_spaced {c : Char} (spaced : Chars.isBlank c = true → c = ' ') :
    b.isBreak c = false := by
  cases blank : Chars.isBlank c with
  | false => exact b.not_break_of_solid blank
  | true =>
    rw [spaced blank]
    exact b.space

theorem not_break_of_mem_oneLine {s : String} {c : Char} (member : c ∈ (Text.oneLine s).toList) :
    b.isBreak c = false :=
  b.not_break_of_spaced (Text.space_of_mem_oneLine member)

/-- What a comment writes behind its leader stays on the line. -/
theorem unbroken_remark (s : String) : ∀ c ∈ ' ' :: (Text.oneLine s).toList, b.isBreak c = false := by
  rw [List.forall_mem_cons]
  exact ⟨b.space, fun c => b.not_break_of_mem_oneLine⟩

theorem leak_cons {c : Char} (onLine : b.isBreak c = false) (text : List Char) :
    b.leak (c :: text) = b.leak text := by
  obtain ⟨first, rest, lines⟩ := Chars.splitWhere_eq_cons b.isBreak text
  rw [leak, leak, Chars.splitWhere_keep onLine lines, lines]
  rfl

/-- A line of nothing but a comment holds no code. -/
theorem code_comment {gap text : List Char} (blank : ∀ c ∈ gap, c = ' ')
    (unbroken : ∀ c ∈ text, b.isBreak c = false) : b.code (gap ++ '/' :: '/' :: text) = [] := by
  have whole : ∀ c ∈ gap ++ '/' :: '/' :: text, b.isBreak c = false := by
    intro c member
    simp only [List.mem_append, List.mem_cons] at member
    rcases member with inside | rfl | rfl | inside
    · rw [blank c inside]
      exact b.space
    · exact b.not_break_of_solid rfl
    · exact b.not_break_of_solid rfl
    · exact unbroken c inside
  have nothing : Chars.lineCode (gap ++ '/' :: '/' :: text) = [] :=
    Chars.lineCode_blank (fun c inside => by rw [blank c inside]; rfl) (Chars.lineCode_slashes text)
  rw [code, Chars.splitWhere_of_uncut whole, kept_cons_nothing nothing]
  rfl

/-- A comment behind a text hides its own first line, and no more. -/
theorem code_append_comment (xs text : List Char) :
    b.code (xs ++ ' ' :: ' ' :: '/' :: '/' :: text) = b.code xs ++ b.leak text := by
  obtain ⟨first, rest, lines⟩ := Chars.splitWhere_eq_cons b.isBreak text
  have slash : b.isBreak '/' = false := b.not_break_of_solid rfl
  have opened : Chars.splitWhere b.isBreak (' ' :: ' ' :: '/' :: '/' :: text) =
      (' ' :: ' ' :: '/' :: '/' :: first) :: rest := by
    simp only [Chars.splitWhere, b.space, slash, lines, Bool.false_eq_true, if_false]
  obtain ⟨front, last, cut, joined⟩ := Chars.splitWhere_joined opened xs
  have spaces : ∀ c ∈ [' ', ' '], Chars.isBlank c = true := by
    simp [Chars.isBlank]
  have nothing : Chars.lineCode (' ' :: ' ' :: '/' :: '/' :: first) = [] :=
    Chars.lineCode_blank spaces (Chars.lineCode_slashes first)
  have hidden : Chars.lineCode (last ++ ' ' :: ' ' :: '/' :: '/' :: first) = Chars.lineCode last :=
    Chars.lineCode_append_gap last rfl nothing
  calc b.code (xs ++ ' ' :: ' ' :: '/' :: '/' :: text)
      = kept (front ++ [last ++ ' ' :: ' ' :: '/' :: '/' :: first] ++ rest) := by
        rw [code, joined, List.append_assoc]
        rfl
    _ = kept (front ++ [last]) ++ kept rest := by
        rw [kept_append, kept_append, kept_append, kept_singleton_congr hidden]
    _ = b.code xs ++ b.leak text := by
        rw [code, leak, cut, lines]
        rfl

end LineBreaks

end Retrofit
