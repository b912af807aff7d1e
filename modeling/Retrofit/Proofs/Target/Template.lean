import Mathlib.Data.List.TakeWhile
import Retrofit.Proofs.Text.Occurrence
import Retrofit.Target.Template

/-! A template has one splitting into pieces, whatever is filled in later. The scan that goes from brace to
brace and fills in slots on its way writes the text of that splitting, and ends after as many rounds as the
template has braces. -/
namespace Retrofit.Template

variable {cs before after : List Char} {c : Char} {s : Slot} {ps : List Piece}

/-! The slot at the front of a text -/

theorem Slot.mark_eq (s : Slot) : ∃ name, s.mark = '{' :: name ∧ '{' ∉ name := by
  cases s <;> exact ⟨_, rfl, by decide⟩

theorem Slot.eq_of_mark_isPrefix {s s' : Slot} (within : s.mark <+: s'.mark) : s = s' := by
  revert within
  cases s <;> cases s' <;> decide

theorem Slot.count_mark (s : Slot) : s.mark.count '{' = 1 := by
  cases s <;> decide

theorem Slot.length_mark_pos (s : Slot) : 0 < s.mark.length := by
  cases s <;> decide

theorem mark_of_slotAt? (found : slotAt? cs = some s) : s.mark <+: cs := by
  unfold slotAt? at found
  have opens := List.find?_some found
  exact List.isPrefixOf_iff_prefix.mp opens

theorem slotAt?_eq_some_iff : slotAt? cs = some s ↔ s.mark <+: cs := by
  refine ⟨mark_of_slotAt?, ?_⟩
  intro opens
  cases found : slotAt? cs with
  | none =>
    have absent := List.find?_eq_none.mp found s (by cases s <;> decide)
    exact absurd (List.isPrefixOf_iff_prefix.mpr opens) absent
  | some s' =>
    rcases List.prefix_or_prefix_of_prefix (mark_of_slotAt? found) opens with shorter | longer
    · rw [Slot.eq_of_mark_isPrefix shorter]
    · rw [Slot.eq_of_mark_isPrefix longer]

theorem slotAt?_eq_none_iff : slotAt? cs = none ↔ ∀ s : Slot, ¬ s.mark <+: cs := by
  rw [Option.eq_none_iff_forall_ne_some]
  exact forall_congr' fun s => not_congr slotAt?_eq_some_iff

theorem slotAt?_plain (plain : c ≠ '{') : slotAt? (c :: cs) = none := by
  rw [slotAt?_eq_none_iff]
  intro s opens
  obtain ⟨name, mark, -⟩ := s.mark_eq
  rw [mark] at opens
  exact plain (List.cons_prefix_cons.mp opens).1.symm

/-- A slot that begins before a brace ends before it. -/
theorem slotAt?_append_brace (c : Char) (before after : List Char) :
    slotAt? (c :: before ++ '{' :: after) = slotAt? (c :: before) := by
  apply Option.ext
  intro s
  rw [slotAt?_eq_some_iff, slotAt?_eq_some_iff]
  obtain ⟨name, mark, single⟩ := s.mark_eq
  rw [mark, List.cons_append, List.cons_prefix_cons, List.cons_prefix_cons,
    Chars.prefix_append_cons single]

/-! The pieces of a template -/

theorem piecesAfter_eq (n : Nat) (cs : List Char) : piecesAfter n cs = pieces (cs.drop n) := by
  induction n generalizing cs with
  | zero => rfl
  | succ n ih =>
    cases cs with
    | nil => rfl
    | cons c cs => exact ih cs

theorem pieces_slot (s : Slot) (after : List Char) :
    pieces (s.mark ++ after) = .slot s :: pieces after := by
  obtain ⟨name, mark, -⟩ := s.mark_eq
  have found : slotAt? ('{' :: (name ++ after)) = some s := by
    rw [slotAt?_eq_some_iff, mark]
    exact List.prefix_append ('{' :: name) after
  rw [mark, List.cons_append, pieces, piecesAfter, found]
  simp only [piecesAfter_eq, mark, List.length_cons, Nat.add_sub_cancel, List.drop_left]

theorem pieces_literal (none : slotAt? (c :: cs) = none) :
    pieces (c :: cs) = .literal c :: pieces cs := by
  rw [pieces, piecesAfter, none]
  rfl

/-- Templates are built up from their end, by a slot or by a character that begins none. -/
@[elab_as_elim]
theorem template_induction {P : List Char → Prop} (nil : P [])
    (slot : ∀ (s : Slot) (after : List Char), P after → P (s.mark ++ after))
    (literal : ∀ (c : Char) (after : List Char), slotAt? (c :: after) = none → P after → P (c :: after))
    (cs : List Char) : P cs := by
  induction length : cs.length using Nat.strong_induction_on generalizing cs with
  | _ n ih =>
    subst length
    cases cs with
    | nil => exact nil
    | cons c cs =>
      cases found : slotAt? (c :: cs) with
      | none => exact literal c cs found (ih _ (Nat.lt_succ_self _) cs rfl)
      | some s =>
        obtain ⟨after, same⟩ := slotAt?_eq_some_iff.mp found
        rw [← same]
        refine slot s after (ih _ ?_ after rfl)
        rw [← same, List.length_append]
        exact Nat.lt_add_of_pos_left s.length_mark_pos

/-- No slot goes across a brace, so a template may be cut before each of them. -/
theorem pieces_append_brace (before after : List Char) :
    pieces (before ++ '{' :: after) = pieces before ++ pieces ('{' :: after) := by
  induction before using template_induction with
  | nil => rfl
  | slot s before ih => rw [List.append_assoc, pieces_slot, pieces_slot, ih, List.cons_append]
  | literal c before none ih =>
    have none' : slotAt? (c :: (before ++ '{' :: after)) = Option.none := by
      rw [← List.cons_append, slotAt?_append_brace, none]
    rw [List.cons_append, pieces_literal none', pieces_literal none, ih, List.cons_append]

/-! Splittings -/

/-- The text that a piece takes up in its template. -/
def Piece.text : Piece → List Char
  | .literal c => [c]
  | .slot .file => "\x7bfile\x7d".toList
  | .slot .language => "\x7blanguage\x7d".toList
  | .slot .version => "\x7bversion\x7d".toList

theorem Piece.text_literal (c : Char) : (Piece.literal c).text = [c] := rfl

theorem Piece.text_slot (s : Slot) : (Piece.slot s).text = s.mark := by
  cases s <;> rfl

/-- The piece stands where the first text ends and the second begins. -/
def Piece.Between (p : Piece) (ps : List Piece) (before after : List Char) : Prop :=
  ∃ front back, ps = front ++ p :: back ∧ front.flatMap Piece.text = before ∧
    back.flatMap Piece.text = after

/-- A splitting keeps the whole template. Wherever the name of a slot stands in it, there is that slot, and
a brace that begins no such name is itself. -/
structure Splits (cs : List Char) (ps : List Piece) : Prop where
  whole : ps.flatMap Piece.text = cs
  slots : ∀ before (s : Slot) after, cs = before ++ (Piece.slot s).text ++ after →
    (Piece.slot s).Between ps before after
  braces : ∀ before after, cs = before ++ '{' :: after →
    (∀ s : Slot, ¬ (Piece.slot s).text <+: '{' :: after) → (Piece.literal '{').Between ps before after

theorem text_pieces (cs : List Char) : (pieces cs).flatMap Piece.text = cs := by
  induction cs using template_induction with
  | nil => rfl
  | slot s after ih => rw [pieces_slot, List.flatMap_cons, ih, Piece.text_slot]
  | literal c after none ih =>
    rw [pieces_literal none, List.flatMap_cons, ih, Piece.text_literal, List.singleton_append]

theorem pieces_splits (cs : List Char) : Splits cs (pieces cs) := by
  refine ⟨text_pieces cs, ?_, ?_⟩
  · rintro before s after rfl
    obtain ⟨name, mark, -⟩ := s.mark_eq
    refine ⟨pieces before, pieces after, ?_, text_pieces before, text_pieces after⟩
    rw [List.append_assoc, Piece.text_slot, mark, List.cons_append, pieces_append_brace,
      ← List.cons_append, ← mark, pieces_slot]
  · rintro before after rfl none
    simp only [Piece.text_slot] at none
    refine ⟨pieces before, pieces after, ?_, text_pieces before, text_pieces after⟩
    rw [pieces_append_brace, pieces_literal (slotAt?_eq_none_iff.mpr none)]

theorem Piece.text_ne_nil (p : Piece) : p.text ≠ [] := by
  cases p with
  | literal c => exact List.cons_ne_nil c []
  | slot s =>
    rw [Piece.text_slot]
    exact List.ne_nil_of_length_pos s.length_mark_pos

theorem eq_nil_of_text (empty : ps.flatMap Piece.text = []) : ps = [] := by
  cases ps with
  | nil => rfl
  | cons p ps =>
    rw [List.flatMap_cons, List.append_eq_nil_iff] at empty
    exact absurd empty.1 p.text_ne_nil

theorem Piece.Between.tail {p q : Piece} (between : q.Between (p :: ps) (p.text ++ before) after) :
    q.Between ps before after := by
  obtain ⟨front, back, split, textBefore, textAfter⟩ := between
  cases front with
  | nil =>
    have empty := (List.append_eq_nil_iff.mp textBefore.symm).1
    exact absurd empty p.text_ne_nil
  | cons p' front =>
    obtain ⟨rfl, rfl⟩ := List.cons.inj split
    rw [List.flatMap_cons] at textBefore
    exact ⟨front, back, rfl, List.append_cancel_left textBefore, textAfter⟩

theorem Splits.tail {p : Piece} {whole : List Char} (splits : Splits whole (p :: ps))
    (opens : whole = p.text ++ cs) : Splits cs ps := by
  subst opens
  refine ⟨?_, ?_, ?_⟩
  · have whole := splits.whole
    rw [List.flatMap_cons] at whole
    exact List.append_cancel_left whole
  · rintro before s after rfl
    exact (splits.slots (p.text ++ before) s after (by simp)).tail
  · rintro before after rfl none
    exact (splits.braces (p.text ++ before) after (by simp) none).tail

/-- A template has no other splitting than its pieces. -/
theorem Splits.eq_pieces (splits : Splits cs ps) : ps = pieces cs := by
  induction cs using template_induction generalizing ps with
  | nil => exact eq_nil_of_text splits.whole
  | slot s after ih =>
    have mark := Piece.text_slot s
    obtain ⟨front, back, rfl, textBefore, -⟩ := splits.slots [] s after (by rw [mark]; rfl)
    rw [eq_nil_of_text textBefore, List.nil_append] at splits ⊢
    rw [pieces_slot, ih (splits.tail (by rw [mark]))]
  | literal c after none ih =>
    cases ps with
    | nil => cases splits.whole
    | cons p ps =>
      have whole := splits.whole
      rw [List.flatMap_cons] at whole
      cases p with
      | literal d =>
        obtain ⟨rfl, -⟩ := List.cons.inj whole
        rw [pieces_literal none, ih (splits.tail rfl)]
      | slot s =>
        rw [Piece.text_slot] at whole
        exact absurd ⟨_, whole⟩ (slotAt?_eq_none_iff.mp none s)

/-! The scan -/

/-- A scan under way: what it has written, and what it has left of the template. -/
structure Scan where
  written : List Char
  rest : List Char

namespace Scan

variable (filename language : String)

/-- A round copies the text before the next brace, and behind it the value of the slot that begins there, or
the brace itself. Without a brace there is no further round. -/
def round? (scan : Scan) : Option Scan :=
  match scan.rest.dropWhile (· ≠ '{') with
  | [] => none
  | brace :: behind =>
    let copied := scan.written ++ scan.rest.takeWhile (· ≠ '{')
    match slotAt? (brace :: behind) with
    | some s =>
      some ⟨copied ++ (s.value filename language).toList, (brace :: behind).drop s.mark.length⟩
    | none => some ⟨copied ++ ['{'], behind⟩

/-- The text of a scan that ends in less than so many rounds. -/
def run? : Nat → Scan → Option (List Char)
  | 0, _ => none
  | n + 1, scan =>
    match scan.round? filename language with
    | some next => run? n next
    | none => some (scan.written ++ scan.rest)

/-- All that a round can do. -/
inductive Round : Scan → Option Scan → Prop
  | stop (written rest) (plain : '{' ∉ rest) : Round ⟨written, rest⟩ none
  | slot (written front) (s : Slot) (after) (plain : '{' ∉ front) :
      Round ⟨written, front ++ (s.mark ++ after)⟩
        (some ⟨written ++ front ++ (s.value filename language).toList, after⟩)
  | brace (written front after) (plain : '{' ∉ front) (other : slotAt? ('{' :: after) = none) :
      Round ⟨written, front ++ '{' :: after⟩ (some ⟨written ++ front ++ ['{'], after⟩)

theorem round?_round (scan : Scan) : Round filename language scan (scan.round? filename language) := by
  obtain ⟨written, rest⟩ := scan
  have plain : '{' ∉ rest.takeWhile (· ≠ '{') := by
    intro member
    simpa using List.mem_takeWhile_imp member
  have opens := List.head?_dropWhile_not (· ≠ '{') rest
  have whole := List.takeWhile_append_dropWhile (p := (· ≠ '{')) (l := rest)
  unfold round?
  dsimp only
  generalize rest.takeWhile (· ≠ '{') = front at plain whole ⊢
  generalize rest.dropWhile (· ≠ '{') = behind at opens whole ⊢
  subst whole
  cases behind with
  | nil =>
    rw [List.append_nil]
    exact .stop written front plain
  | cons brace after =>
    have same : brace = '{' := by simpa using opens
    subst same
    dsimp only
    cases found : slotAt? ('{' :: after) with
    | none => exact .brace written front after plain found
    | some s =>
      obtain ⟨later, same⟩ := mark_of_slotAt? found
      rw [← same]
      dsimp only
      rw [List.drop_left]
      exact .slot written front s later plain

theorem pieces_plain_append (plain : '{' ∉ before) (cs : List Char) :
    pieces (before ++ cs) = before.map Piece.literal ++ pieces cs := by
  induction before with
  | nil => rfl
  | cons c before ih =>
    rw [List.mem_cons, not_or] at plain
    rw [List.cons_append, pieces_literal (slotAt?_plain (Ne.symm plain.1)), ih plain.2, List.map_cons,
      List.cons_append]

@[simp] theorem filled_literal (c : Char) : (Piece.literal c).filled filename language = [c] := rfl

@[simp] theorem filled_slot (s : Slot) :
    (Piece.slot s).filled filename language = (s.value filename language).toList := rfl

theorem filled_literals (cs : List Char) :
    (cs.map Piece.literal).flatMap (·.filled filename language) = cs := by
  induction cs with
  | nil => rfl
  | cons c cs ih => rw [List.map_cons, List.flatMap_cons, ih, filled_literal, List.singleton_append]

/-- What the scan will have written in the end, by the splitting of what it has left. -/
def outcome (scan : Scan) : List Char :=
  scan.written ++ (pieces scan.rest).flatMap (·.filled filename language)

/-- A round leaves the outcome as it is and one brace less. -/
theorem Round.keeps {scan next : Scan} (round : Round filename language scan (some next)) :
    next.outcome filename language = scan.outcome filename language ∧
      scan.rest.count '{' = next.rest.count '{' + 1 := by
  cases round with
  | slot written front s after plain =>
    refine ⟨?_, ?_⟩
    · simp only [outcome, pieces_plain_append plain, pieces_slot, List.flatMap_append,
        filled_literals, List.flatMap_cons, filled_slot, List.append_assoc]
    · simp only [List.count_append, List.count_eq_zero_of_not_mem plain, s.count_mark]
      omega
  | brace written front after plain other =>
    refine ⟨?_, ?_⟩
    · simp only [outcome, pieces_plain_append plain, pieces_literal other, List.flatMap_append,
        filled_literals, List.flatMap_cons, filled_literal, List.append_assoc]
    · rw [List.count_append, List.count_eq_zero_of_not_mem plain, List.count_cons_self, Nat.zero_add]

theorem Round.stops {scan : Scan} (round : Round filename language scan none) :
    scan.outcome filename language = scan.written ++ scan.rest ∧ scan.rest.count '{' = 0 := by
  cases round with
  | stop written rest plain =>
    refine ⟨?_, List.count_eq_zero_of_not_mem plain⟩
    have literals := pieces_plain_append plain []
    rw [List.append_nil] at literals
    simp only [outcome, literals, List.flatMap_append, filled_literals]
    exact congrArg (written ++ ·) (List.append_nil rest)

/-- A scan has its outcome after one round for each brace that is left, and not before. -/
theorem run?_eq (n : Nat) (scan : Scan) :
    run? filename language n scan =
      if scan.rest.count '{' < n then some (scan.outcome filename language) else none := by
  induction n generalizing scan with
  | zero => rw [run?, if_neg (Nat.not_lt_zero _)]
  | succ n ih =>
    have round := round?_round filename language scan
    rw [run?]
    cases taken : scan.round? filename language with
    | none =>
      rw [taken] at round
      obtain ⟨written, empty⟩ := round.stops
      rw [empty, if_pos (Nat.succ_pos n), written]
    | some next =>
      rw [taken] at round
      obtain ⟨same, fewer⟩ := round.keeps
      dsimp only
      rw [ih, same, fewer]
      simp only [Nat.add_lt_add_iff_right]

end Scan

/-- Filling in a template is one substitution for all its slots at once. The splitting into literals and
slots is the template's own; the scan of the template ends after a round for each brace, and writes the
splitting with the values in the place of the slots, whatever the values are. -/
theorem fill_simultaneous (template : String) :
    ∃ ps, (∀ qs, Splits template.toList qs ↔ qs = ps) ∧
      ∀ filename language,
        (fill template filename language).toList =
            ps.flatMap (fun
              | .literal c => [c]
              | .slot .file => filename.toList
              | .slot .language => language.toList
              | .slot .version => (Target.version language).toList) ∧
          ∀ n, Scan.run? filename language n ⟨[], template.toList⟩ =
            if template.toList.count '{' < n then some (fill template filename language).toList
            else none := by
  refine ⟨pieces template.toList, ?_, ?_⟩
  · intro qs
    refine ⟨Splits.eq_pieces, ?_⟩
    rintro rfl
    exact pieces_splits template.toList
  · intro filename language
    rw [fill, String.toList_ofList]
    refine ⟨?_, ?_⟩
    · congr 1
      funext p
      match p with
      | .literal _ | .slot .file | .slot .language | .slot .version => rfl
    · intro n
      rw [Scan.run?_eq]
      rfl

/-- A brace in front of a slot is kept, and so is one at the end; neither the name of a slot in a value nor
a brace that a value could close is taken for a slot. -/
theorem fill_stray_braces :
    let template := "\x7b\x7bfile\x7d\x7bversion\x7d\x7b"
    Splits template.toList [.literal '{', .slot .file, .slot .version, .literal '{'] ∧
      fill template "language\x7d" "\x7bfile\x7d" =
        "\x7blanguage\x7dModern \x7bfile\x7d\x7b" := by
  intro template
  obtain ⟨ps, only, filled⟩ := fill_simultaneous template
  have pieces : ps = [.literal '{', .slot .file, .slot .version, .literal '{'] := by
    rw [← (only _).mp (pieces_splits template.toList)]
    decide
  refine ⟨(only _).mpr pieces.symm, ?_⟩
  rw [← String.toList_inj, (filled _ _).1, pieces]
  decide

end Retrofit.Template
