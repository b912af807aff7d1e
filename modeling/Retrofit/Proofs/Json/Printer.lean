import Retrofit.Proofs.Json.Legible
import Retrofit.Proofs.Json.Reading

/-! A printed document spells the value that it was printed from. White space stands only between tokens,
so both ways of printing are one, with different white space. -/
namespace Retrofit.Json

/-- White space between tokens: before an item or a closing bracket of so many levels, and behind a
colon. -/
structure Spacing where
  line : Nat → List Char
  gap : List Char
  line_blank : ∀ depth, ∀ c ∈ line depth, isSpace c = true
  gap_blank : ∀ c ∈ gap, isSpace c = true

def Spacing.none : Spacing where
  line _ := []
  gap := []
  line_blank _ _ within := by cases within
  gap_blank _ within := by cases within

def Spacing.indented : Spacing where
  line := newLine
  gap := [' ']
  line_blank depth c within := by
    simp only [newLine, List.mem_cons, List.mem_replicate] at within
    rcases within with rfl | ⟨-, rfl⟩ <;> rfl
  gap_blank c within := by
    simp only [List.mem_singleton] at within
    rw [within]
    rfl

mutual

def spacedValue (w : Spacing) (depth : Nat) : Value → List Char
  | .null => ['n', 'u', 'l', 'l']
  | .bool true => ['t', 'r', 'u', 'e']
  | .bool false => ['f', 'a', 'l', 's', 'e']
  | .number n => writtenNumber n
  | .text s => writtenText s
  | .array [] => ['[', ']']
  | .array (v :: vs) =>
    '[' :: w.line (depth + 1) ++ spacedValue w (depth + 1) v ++ spacedItems w depth vs
  | .object [] => ['{', '}']
  | .object ((k, v) :: ms) =>
    '{' :: w.line (depth + 1) ++ writtenText k ++ ':' :: w.gap ++ spacedValue w (depth + 1) v ++
      spacedMembers w depth ms

def spacedItems (w : Spacing) (depth : Nat) : List Value → List Char
  | [] => w.line depth ++ [']']
  | v :: vs =>
    ',' :: w.line (depth + 1) ++ spacedValue w (depth + 1) v ++ spacedItems w depth vs

def spacedMembers (w : Spacing) (depth : Nat) : List (String × Value) → List Char
  | [] => w.line depth ++ ['}']
  | (k, v) :: ms =>
    ',' :: w.line (depth + 1) ++ writtenText k ++ ':' :: w.gap ++ spacedValue w (depth + 1) v ++
      spacedMembers w depth ms

end

mutual

theorem compactValue_eq (depth : Nat) : (v : Value) →
    compactValue v = spacedValue .none depth v
  | .null | .bool true | .bool false | .number _ | .text _ | .array [] | .object [] => by
    simp only [compactValue, spacedValue]
  | .array (v :: vs) => by
    simp only [compactValue, spacedValue]
    rw [compactValue_eq (depth + 1) v, compactItems_eq depth vs]
    rfl
  | .object ((k, v) :: ms) => by
    simp only [compactValue, spacedValue]
    rw [compactValue_eq (depth + 1) v, compactMembers_eq depth ms]
    simp [Spacing.none]

theorem compactItems_eq (depth : Nat) : (vs : List Value) →
    compactItems vs = spacedItems .none depth vs
  | [] => by
    simp only [compactItems, spacedItems]
    rfl
  | v :: vs => by
    simp only [compactItems, spacedItems]
    rw [compactValue_eq (depth + 1) v, compactItems_eq depth vs]
    rfl

theorem compactMembers_eq (depth : Nat) : (ms : List (String × Value)) →
    compactMembers ms = spacedMembers .none depth ms
  | [] => by
    simp only [compactMembers, spacedMembers]
    rfl
  | (k, v) :: ms => by
    simp only [compactMembers, spacedMembers]
    rw [compactValue_eq (depth + 1) v, compactMembers_eq depth ms]
    simp [Spacing.none]

end

mutual

theorem prettyValue_eq (depth : Nat) : (v : Value) →
    prettyValue depth v = spacedValue .indented depth v
  | .null | .bool true | .bool false | .number _ | .text _ | .array [] | .object [] => by
    simp only [prettyValue, spacedValue]
  | .array (v :: vs) => by
    simp only [prettyValue, spacedValue]
    rw [prettyValue_eq (depth + 1) v, prettyItems_eq depth vs]
    rfl
  | .object ((k, v) :: ms) => by
    simp only [prettyValue, spacedValue]
    rw [prettyValue_eq (depth + 1) v, prettyMembers_eq depth ms]
    simp [Spacing.indented]

theorem prettyItems_eq (depth : Nat) : (vs : List Value) →
    prettyItems depth vs = spacedItems .indented depth vs
  | [] => by
    simp only [prettyItems, spacedItems]
    rfl
  | v :: vs => by
    simp only [prettyItems, spacedItems]
    rw [prettyValue_eq (depth + 1) v, prettyItems_eq depth vs]
    rfl

theorem prettyMembers_eq (depth : Nat) : (ms : List (String × Value)) →
    prettyMembers depth ms = spacedMembers .indented depth ms
  | [] => by
    simp only [prettyMembers, spacedMembers]
    rfl
  | (k, v) :: ms => by
    simp only [prettyMembers, spacedMembers]
    rw [prettyValue_eq (depth + 1) v, prettyMembers_eq depth ms]
    simp [Spacing.indented]

end

/-! Texts -/

theorem hexValue_hexDigit : ∀ n < 16, hexValue? (hexDigit n) = some n := by
  decide

theorem hexUnit_controlCharacter (c : Char) (control : c.toNat < 0x20) (r : List Char) :
    hexUnit ('0' :: '0' :: hexDigit (c.toNat / 16) :: hexDigit (c.toNat % 16) :: r) =
      .ok (c.toNat, r) := by
  have zero : hexValue? '0' = some 0 := rfl
  have high := hexValue_hexDigit (c.toNat / 16) (by omega)
  have low := hexValue_hexDigit (c.toNat % 16) (by omega)
  have long : ¬ byteCount
      ('0' :: '0' :: hexDigit (c.toNat / 16) :: hexDigit (c.toNat % 16) :: r) < 4 := by
    have first := Char.utf8Size_pos (hexDigit (c.toNat / 16))
    have second := Char.utf8Size_pos (hexDigit (c.toNat % 16))
    have width : Char.utf8Size '0' = 1 := rfl
    simp only [byteCount, List.foldr_cons, width]
    omega
  unfold hexUnit
  rw [if_neg long]
  simp only [zero, high, low]
  congr 2
  omega

/-- However a character is written, the reader of a text takes it in one step. -/
theorem textBody_writtenChar (c : Char) (n : Nat) (seen r : List Char) :
    textBody (n + 1) seen (writtenChar c ++ r) = textBody n (c :: seen) r := by
  unfold writtenChar
  -- The seven characters that have an escape of their own come first.
  iterate 7
    split
    · rename_i same
      subst same
      rfl
  split
  · rename_i control
    have notLow : isLowSurrogate c.toNat = false := by
      simp only [isLowSurrogate, Bool.and_eq_false_iff, decide_eq_false_iff_not]
      omega
    have notHigh : isHighSurrogate c.toNat = false := by
      simp only [isHighSurrogate, Bool.and_eq_false_iff, decide_eq_false_iff_not]
      omega
    have unit := hexUnit_controlCharacter c control r
    have escaped : escape ('u' :: '0' :: '0' :: hexDigit (c.toNat / 16) ::
        hexDigit (c.toNat % 16) :: r) = .ok (c, r) := by
      simp only [escape, unicodeEscape, unit, if_true, bind, Except.bind, notLow, notHigh,
        Bool.false_eq_true, if_false, Char.ofNat_toNat]
    simp only [List.cons_append, List.nil_append, textBody, Char.reduceEq, if_false, if_true,
      escaped]
  · rename_i quote backslash _ _ _ _ _ visible
    simp only [List.cons_append, List.nil_append, textBody, if_neg quote, if_neg backslash,
      if_neg visible]

theorem textBody_written (cs rest seen : List Char) (n : Nat) (enough : cs.length < n) :
    textBody n seen (cs.flatMap writtenChar ++ '"' :: rest) = .ok (cs.reverse ++ seen, rest) := by
  induction cs generalizing n seen with
  | nil =>
    obtain ⟨n, rfl⟩ : ∃ k, n = k + 1 := ⟨n - 1, by simp at enough; omega⟩
    rfl
  | cons c cs ih =>
    obtain ⟨n, rfl⟩ : ∃ k, n = k + 1 := ⟨n - 1, by omega⟩
    rw [List.length_cons] at enough
    rw [List.flatMap_cons, List.append_assoc, textBody_writtenChar, ih (c :: seen) n (by omega)]
    simp

theorem length_writtenText (s : String) : s.toList.length + 2 ≤ (writtenText s).length := by
  have each (cs : List Char) : cs.length ≤ (cs.flatMap writtenChar).length := by
    induction cs with
    | nil => simp
    | cons c cs ih =>
      have one : 1 ≤ (writtenChar c).length := by
        unfold writtenChar
        split_ifs <;> simp
      rw [List.flatMap_cons, List.length_append, List.length_cons]
      omega
  have body := each s.toList
  simp only [writtenText, List.cons_append, List.length_cons, List.length_append, List.length_nil]
  omega

theorem textTail_written (limit : Nat) (s : String) (rest : List Char)
    (within : s.toList.length ≤ limit) :
    textTail limit (s.toList.flatMap writtenChar ++ '"' :: rest) = .ok (s, rest) := by
  have body := textBody_written s.toList rest [] (limit + 1) (by omega)
  simp [textTail, body, bind, Except.bind, pure, Except.pure]

/-! Values -/

theorem skipSpace_blank {blank : List Char} (spaces : ∀ c ∈ blank, isSpace c = true)
    (r : List Char) : skipSpace (blank ++ r) = skipSpace r :=
  List.dropWhile_append_of_pos spaces

theorem endsNumber_blank {blank r : List Char} (spaces : ∀ c ∈ blank, isSpace c = true)
    (ends : EndsNumber r) : EndsNumber (blank ++ r) := by
  cases blank with
  | nil => exact ends
  | cons c blank => exact .inr (.inr (.inr (spaces c List.mem_cons_self)))

variable {limit : Nat} {w : Spacing}

theorem spacedItems_ends (depth : Nat) (vs : List Value) (rest : List Char) :
    EndsNumber (spacedItems w depth vs ++ rest) := by
  cases vs with
  | nil =>
    rw [spacedItems, List.append_assoc]
    exact endsNumber_blank (w.line_blank depth) (.inr (.inl rfl))
  | cons v vs => exact .inl rfl

theorem spacedMembers_ends (depth : Nat) (ms : List (String × Value)) (rest : List Char) :
    EndsNumber (spacedMembers w depth ms ++ rest) := by
  cases ms with
  | nil =>
    rw [spacedMembers, List.append_assoc]
    exact endsNumber_blank (w.line_blank depth) (.inr (.inr (.inl rfl)))
  | cons m ms => exact .inl rfl

/-- A printed value begins at once, and not with a bracket that closes a list. -/
theorem spacedValue_opens (depth : Nat) (v : Value) (readable : v.Readable) :
    ∃ c r, spacedValue w depth v = c :: r ∧ isSpace c = false ∧ c ≠ ']' := by
  cases v with
  | null => exact ⟨'n', _, rfl, rfl, by decide⟩
  | bool b => cases b <;> exact ⟨_, _, rfl, rfl, by decide⟩
  | number n =>
    obtain ⟨⟨c, r, written, starts⟩, -⟩ := readable n List.mem_cons_self
    refine ⟨c, r, by rw [spacedValue, written], ?_, ?_⟩
    · cases space : isSpace c with
      | false => rfl
      | true =>
        simp only [isSpace, Bool.or_eq_true, beq_iff_eq] at space
        rcases space with ((rfl | rfl) | rfl) | rfl <;> cases starts
    · intro same
      subst same
      cases starts
  | text s => exact ⟨'"', _, rfl, rfl, by decide⟩
  | array vs =>
    cases vs with
    | nil => exact ⟨'[', _, rfl, rfl, by decide⟩
    | cons v vs => exact ⟨'[', _, rfl, rfl, by decide⟩
  | object ms =>
    cases ms with
    | nil => exact ⟨'{', _, rfl, rfl, by decide⟩
    | cons m ms => exact ⟨'{', _, rfl, rfl, by decide⟩

theorem text_sketched (s : String) (rest : List Char)
    (within : (writtenText s ++ rest).length ≤ limit) {inner : Spelling} :
    Front limit inner (writtenText s ++ rest) (.text (.ok s)) rest := by
  have long := length_writtenText s
  rw [List.length_append] at within
  have read := textTail_written limit s rest (by omega)
  have quoted : (s.toList.flatMap writtenChar ++ '"' :: rest).length ≤ limit := by
    simp only [writtenText, List.cons_append, List.length_cons, List.length_append] at within ⊢
    omega
  have begins : Front limit inner _ _ rest :=
    .text _ rest (textTail_skimmed limit _ rest s read quoted)
  rw [reading_ok read] at begins
  simpa [writtenText] using begins

/-- White space in front of a printed value is passed over, and nothing else. -/
theorem skipSpace_spacedValue {blank : List Char} (spaces : ∀ c ∈ blank, isSpace c = true)
    (depth : Nat) (v : Value) (readable : v.Readable) (rest : List Char) :
    skipSpace (blank ++ (spacedValue w depth v ++ rest)) = spacedValue w depth v ++ rest := by
  obtain ⟨c, r, printed, solid, -⟩ := spacedValue_opens (w := w) depth v readable
  rw [skipSpace_blank spaces, printed, List.cons_append, skipSpace_cons solid]

/-- What stands before an item or a key: a comma, unless it is the first. -/
def comma (first : Bool) : List Char :=
  if first then [] else [',']

theorem item_spelled (first : Bool) {blank : List Char} (spaces : ∀ c ∈ blank, isSpace c = true)
    (depth : Nat) (v : Value) (readable : v.Readable) {ts : List Sketch} {behind rest : List Char}
    (value : Sketched limit limit (spacedValue w depth v ++ behind) v.reread.sketch behind)
    (others : Items (Sketched limit limit) false behind ts rest) :
    Items (Sketched limit limit) first
      (comma first ++ (blank ++ (spacedValue w depth v ++ behind))) (v.reread.sketch :: ts) rest := by
  have skipped := skipSpace_spacedValue (w := w) spaces depth v readable behind
  obtain ⟨c, r, printed, solid, open_⟩ := spacedValue_opens (w := w) depth v readable
  refine .more first _ _ _ (spacedValue w depth v ++ behind) behind rest ?_ value others
  rw [printed, List.cons_append] at skipped ⊢
  cases first with
  | true => simp [comma, nextItem, skipped, open_]
  | false => exact nextItem_comma (skipSpace_cons rfl _) skipped open_

theorem member_spelled (first : Bool) {blank : List Char} (spaces : ∀ c ∈ blank, isSpace c = true)
    (k : String) (depth : Nat) (v : Value) (readable : v.Readable) {ms : List _}
    {behind rest : List Char}
    (within : (writtenText k ++ (':' :: (w.gap ++ (spacedValue w depth v ++ behind)))).length ≤ limit)
    (value : Sketched limit limit (spacedValue w depth v ++ behind) v.reread.sketch behind)
    (others : Members limit (Sketched limit limit) false behind ms rest) :
    Members limit (Sketched limit limit) first
      (comma first ++ (blank ++ (writtenText k ++ (':' :: (w.gap ++
        (spacedValue w depth v ++ behind)))))) ((.ok k, v.reread.sketch) :: ms) rest := by
  generalize front : ':' :: (w.gap ++ (spacedValue w depth v ++ behind)) = after at within ⊢
  have long := length_writtenText k
  rw [List.length_append] at within
  have read := textTail_written limit k after (by omega)
  have quoted : (k.toList.flatMap writtenChar ++ '"' :: after).length ≤ limit := by
    simp only [writtenText, List.cons_append, List.length_cons, List.length_append] at within ⊢
    omega
  have key := textTail_skimmed limit _ after k read quoted
  have separator : colon after = .ok (w.gap ++ (spacedValue w depth v ++ behind)) := by
    rw [← front]
    rfl
  have skipped := skipSpace_spacedValue (w := w) w.gap_blank depth v readable behind
  have spelled : Sketched limit limit (w.gap ++ (spacedValue w depth v ++ behind)) v.reread.sketch
      behind := by
    rw [← sketched_skips, skipped]
    exact value
  have written : writtenText k ++ after = '"' :: (k.toList.flatMap writtenChar ++ '"' :: after) := by
    simp [writtenText]
  have next : nextKey first (comma first ++ (blank ++ (writtenText k ++ after))) =
      .ok (.more (k.toList.flatMap writtenChar ++ '"' :: after)) := by
    have skipped : skipSpace (blank ++ (writtenText k ++ after)) =
        '"' :: (k.toList.flatMap writtenChar ++ '"' :: after) := by
      rw [skipSpace_blank spaces, written, skipSpace_cons rfl]
    cases first with
    | true => simp [comma, nextKey, skipped]
    | false => exact nextKey_comma (skipSpace_cons rfl _) skipped
  have begins := Members.more first _ _ _ _ _ _ _ rest next key separator spelled others
  rw [reading_ok read] at begins
  exact begins

theorem sketched_of_front_spaced (depth : Nat) (v : Value) (readable : v.Readable) (rest : List Char)
    (within : (spacedValue w depth v ++ rest).length ≤ limit)
    (front : Front limit (Sketched limit limit) (spacedValue w depth v ++ rest) v.reread.sketch rest) :
    Sketched limit limit (spacedValue w depth v ++ rest) v.reread.sketch rest := by
  apply sketched_deepen limit (limit + 1) limit _ rest _ _ within
  have same := skipSpace_spacedValue (w := w) (List.forall_mem_nil _) depth v readable rest
  rw [List.nil_append] at same
  simp only [Sketched]
  rw [same]
  exact front

mutual

theorem spacedValue_sketched (depth : Nat) (v : Value) (rest : List Char) (readable : v.Readable)
    (ends : EndsNumber rest) (within : (spacedValue w depth v ++ rest).length ≤ limit) :
    Sketched limit limit (spacedValue w depth v ++ rest) v.reread.sketch rest := by
  apply sketched_of_front_spaced depth v readable rest within
  match v, readable, within with
  | .null, _, _ => exact .null _ rest rfl
  | .bool true, _, _ => exact .yes _ rest rfl
  | .bool false, _, _ => exact .no _ rest rfl
  | .number n, readable, _ =>
    obtain ⟨⟨c, r, written, starts⟩, reads⟩ := readable n List.mem_cons_self
    have read := reads rest ends
    have digits := number_skimmed _ rest n.reread read
    simp only [spacedValue, Value.reread, Value.sketch]
    rw [written, List.cons_append] at read digits ⊢
    have begins : Front limit (Sketched limit limit) _ _ rest :=
      .number c (r ++ rest) rest starts digits
    rw [reading_ok read] at begins
    exact begins
  | .text s, _, within =>
    simp only [spacedValue, Value.reread, Value.sketch] at within ⊢
    exact text_sketched s rest within
  | .array [], _, _ => exact .array _ [] rest (.stop true _ rest rfl)
  | .array (v :: vs), readable, within =>
    have parts := List.forall_mem_append.mp readable
    simp only [spacedValue, Value.reread, rereadItems, Value.sketch, sketchItems, List.cons_append,
      List.append_assoc] at within ⊢
    simp only [List.length_cons, List.length_append] at within
    have value := spacedValue_sketched (depth + 1) v _ parts.1
      (spacedItems_ends (w := w) depth vs rest) (by simp only [List.length_append]; omega)
    have others := spacedItems_spelled depth vs rest parts.2
      (by simp only [List.length_append]; omega)
    exact .array _ _ rest
      (item_spelled true (w.line_blank (depth + 1)) (depth + 1) v parts.1 value others)
  | .object [], _, _ => exact .object _ [] rest (.stop true _ rest rfl)
  | .object ((k, v) :: ms), readable, within =>
    have parts := List.forall_mem_append.mp readable
    simp only [spacedValue, Value.reread, rereadMembers, Value.sketch, sketchMembers, List.cons_append,
      List.append_assoc] at within ⊢
    simp only [List.length_cons, List.length_append] at within
    have value := spacedValue_sketched (depth + 1) v _ parts.1
      (spacedMembers_ends (w := w) depth ms rest) (by simp only [List.length_append]; omega)
    have others := spacedMembers_spelled depth ms rest parts.2
      (by simp only [List.length_append]; omega)
    exact .object _ _ rest (member_spelled true (w.line_blank (depth + 1)) k (depth + 1) v
      parts.1 (by simp only [List.length_append, List.length_cons]; omega) value others)

theorem spacedItems_spelled (depth : Nat) (vs : List Value) (rest : List Char)
    (readable : ∀ n ∈ numbersOfItems vs, n.Readable)
    (within : (spacedItems w depth vs ++ rest).length ≤ limit) :
    Items (Sketched limit limit) false (spacedItems w depth vs ++ rest) (sketchItems (rereadItems vs))
      rest := by
  match vs, readable, within with
  | [], _, _ =>
    apply Items.stop
    rw [spacedItems, List.append_assoc, nextItem, skipSpace_blank (w.line_blank depth)]
    rfl
  | v :: vs, readable, within =>
    have parts := List.forall_mem_append.mp readable
    simp only [spacedItems, rereadItems, sketchItems, List.cons_append, List.append_assoc] at within ⊢
    simp only [List.length_cons, List.length_append] at within
    have value := spacedValue_sketched (depth + 1) v _ parts.1
      (spacedItems_ends (w := w) depth vs rest) (by simp only [List.length_append]; omega)
    have others := spacedItems_spelled depth vs rest parts.2
      (by simp only [List.length_append]; omega)
    exact item_spelled false (w.line_blank (depth + 1)) (depth + 1) v parts.1 value others

theorem spacedMembers_spelled (depth : Nat) (ms : List (String × Value)) (rest : List Char)
    (readable : ∀ n ∈ numbersOfMembers ms, n.Readable)
    (within : (spacedMembers w depth ms ++ rest).length ≤ limit) :
    Members limit (Sketched limit limit) false (spacedMembers w depth ms ++ rest)
      (sketchMembers (rereadMembers ms)) rest := by
  match ms, readable, within with
  | [], _, _ =>
    apply Members.stop
    rw [spacedMembers, List.append_assoc, nextKey, skipSpace_blank (w.line_blank depth)]
    rfl
  | (k, v) :: ms, readable, within =>
    have parts := List.forall_mem_append.mp readable
    simp only [spacedMembers, rereadMembers, sketchMembers, List.cons_append, List.append_assoc]
      at within ⊢
    simp only [List.length_cons, List.length_append] at within
    have value := spacedValue_sketched (depth + 1) v _ parts.1
      (spacedMembers_ends (w := w) depth ms rest) (by simp only [List.length_append]; omega)
    have others := spacedMembers_spelled depth ms rest parts.2
      (by simp only [List.length_append]; omega)
    exact member_spelled false (w.line_blank (depth + 1)) k (depth + 1) v parts.1
      (by simp only [List.length_append, List.length_cons]; omega) value others

end

theorem spaced_spells (w : Spacing) (depth : Nat) (v : Value) (readable : v.Readable) :
    Spells (String.ofList (spacedValue w depth v)) v.reread.sketch := by
  have within : (spacedValue w depth v ++ []).length ≤ (spacedValue w depth v).length := by simp
  have begins := spacedValue_sketched depth v [] readable trivial within
  rw [List.append_nil] at begins
  unfold Spells
  rw [String.toList_ofList]
  exact ⟨_, [], begins, rfl⟩

theorem compact_respells (v : Value) (readable : v.Readable) : Spells (compact v) v.reread.sketch := by
  rw [compact, compactValue_eq 0]
  exact spaced_spells .none 0 v readable

theorem pretty_respells (v : Value) (readable : v.Readable) : Spells (pretty v) v.reread.sketch := by
  rw [pretty, prettyValue_eq 0]
  exact spaced_spells .indented 0 v readable

theorem compact_spells (v : Value) (legible : v.Legible) : Spells (compact v) v.sketch := by
  have spelled := compact_respells v (Value.Legible.readable v legible)
  rwa [Value.Legible.reread_eq v legible] at spelled

theorem pretty_spells (v : Value) (legible : v.Legible) : Spells (pretty v) v.sketch := by
  have spelled := pretty_respells v (Value.Legible.readable v legible)
  rwa [Value.Legible.reread_eq v legible] at spelled

end Retrofit.Json
