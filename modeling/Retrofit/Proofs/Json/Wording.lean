import Retrofit.Proofs.Json.Breach
import Retrofit.Proofs.Json.Line
import Retrofit.Proofs.Text.Occurrence

/-! Phrases in the messages of a reader. A message names the cause of a refusal in words of its own, but it
also repeats names of the schema and texts of the document, and a phrase may stand in those as well. -/
namespace Retrofit

/-- The causes that advice is given on. Each has a phrase, which the messages on it begin with. -/
inductive Hint where
  | absent
  | unlisted
  | kind

namespace Hint

def phrase : Hint → String
  | .absent => "missing field"
  | .unlisted => "unknown variant"
  | .kind => "invalid type"

/-- The phrase of the hint stands in the text. -/
def In (h : Hint) (cs : List Char) : Prop :=
  h.phrase.toList <:+: cs

instance (h : Hint) (cs : List Char) : Decidable (h.In cs) :=
  inferInstanceAs (Decidable (h.phrase.toList <:+: cs))

variable {h : Hint} {c : Char} {xs ys cs : List Char}

/-! A phrase is made of small letters and one space, so any other character keeps it to one of its sides -/

theorem not_mem_phrase (h : Hint) (solid : c ≠ ' ') (other : c.isLower = false) : c ∉ h.phrase.toList := by
  have all : h.phrase.toList.all (fun d => d = ' ' || d.isLower) = true := by
    cases h <;> decide
  simp only [List.all_eq_true, Bool.or_eq_true, decide_eq_true_eq] at all
  intro member
  rcases all c member with rfl | lower
  · exact solid rfl
  · rw [other] at lower
    cases lower

theorem in_append_cons (solid : c ≠ ' ') (other : c.isLower = false) :
    h.In (xs ++ c :: ys) ↔ h.In xs ∨ h.In ys :=
  Chars.infix_append_cons (h.not_mem_phrase solid other) xs ys

theorem in_between (solid : c ≠ ' ') (other : c.isLower = false) :
    h.In (xs ++ c :: (cs ++ c :: ys)) ↔ h.In xs ∨ h.In cs ∨ h.In ys := by
  rw [in_append_cons solid other, in_append_cons solid other]

theorem not_in_of_solid (solid : ' ' ∉ cs) : ¬ h.In cs := by
  have spaced : ' ' ∈ h.phrase.toList := by
    cases h <;> decide
  exact fun within => solid (within.subset spaced)

theorem not_in_nil : ¬ h.In [] :=
  not_in_of_solid List.not_mem_nil

theorem in_cons (other : h.phrase.toList.head? ≠ some c) : h.In (c :: ys) ↔ h.In ys := by
  unfold In
  rw [List.infix_cons_iff]
  refine or_iff_right ?_
  rintro ⟨rest, same⟩
  have solid : h.phrase.toList ≠ [] := by
    cases h <;> decide
  apply other
  rw [← List.head?_append_of_ne_nil _ solid, same, List.head?_cons]

theorem not_space_of_digit (digit : c.isDigit = true) : c ≠ ' ' := by
  rintro rfl
  cases digit

theorem not_lower_of_digit (digit : c.isDigit = true) : c.isLower = false := by
  rw [Bool.eq_false_iff]
  intro lower
  have small : c.toNat ≤ 57 := (Char.isDigit_iff_toNat.mp digit).2
  have large : 97 ≤ c.toNat := of_decide_eq_true (Bool.and_eq_true_iff.mp lower).1
  omega

theorem in_append_digits (n : Nat) : h.In (xs ++ (Nat.toDigits 10 n ++ ys)) ↔ h.In xs ∨ h.In ys := by
  refine Chars.infix_append_gap ?_ Nat.toDigits_ne_nil xs ys
  intro c member
  have digit := Nat.isDigit_of_mem_toDigits (by decide) (by decide) member
  exact h.not_mem_phrase (not_space_of_digit digit) (not_lower_of_digit digit)

theorem not_in_digits (n : Nat) : ¬ h.In (Nat.toDigits 10 n) := by
  apply not_in_of_solid
  intro member
  cases Nat.isDigit_of_mem_toDigits (by decide) (by decide) member

theorem not_in_int (n : Int) : ¬ h.In (toString n).toList := by
  cases n with
  | ofNat n =>
    have text : toString (Int.ofNat n) = toString n := rfl
    rw [text, Nat.toString_eq_ofList_toDigits, String.toList_ofList]
    exact not_in_digits n
  | negSucc n =>
    have text : toString (Int.negSucc n) = "-" ++ toString (n + 1) := rfl
    have letters : (toString (Int.negSucc n)).toList = '-' :: Nat.toDigits 10 (n + 1) := by simp [text]
    rw [letters, in_cons (by cases h <;> decide)]
    exact not_in_digits (n + 1)

theorem not_in_real (x : Binary64) : ¬ h.In x.text := by
  apply not_in_of_solid
  intro member
  have marks : ∀ d ∈ ['-', '+', '.', 'e'], d ≠ ' ' := by simp
  have other := Binary64.forall_mem_text (fun _ => not_space_of_digit) marks x
  exact other ' ' member rfl

/-! Quotation. The letters of a phrase are quoted as they are, and no phrase begins inside an escape -/

theorem printable_of_ascii (above : 0x20 ≤ c.toNat) (below : c.toNat < 0x7F) :
    Chars.isUnprintable c = false := by
  have apart : ∀ range ∈ Chars.unprintableRanges, range.2 < 0x20 ∨ 0x7F ≤ range.1 := by decide +kernel
  rw [Chars.isUnprintable, List.any_eq_false]
  intro range listed
  have side := apart range listed
  simp only [Bool.and_eq_true, decide_eq_true_eq]
  omega

theorem quoteChar_of_mem (h : Hint) : ∀ c ∈ h.phrase.toList, Chars.quoteChar c = [c] := by
  intro c member
  have ascii : h.phrase.toList.all (fun d => 0x20 ≤ d.toNat ∧ d.toNat < 0x7F ∧
      d ∉ ['"', '\\', '\n', '\r', '\t', '\x00']) = true := by
    cases h <;> decide
  simp only [List.all_eq_true, decide_eq_true_eq] at ascii
  obtain ⟨above, below, unescaped⟩ := ascii c member
  simp only [List.mem_cons, List.not_mem_nil, or_false, not_or] at unescaped
  simp only [Chars.quoteChar, unescaped, if_false, printable_of_ascii above below, Bool.false_eq_true]

theorem quoteChar_escape (escaped : Chars.quoteChar c ≠ [c]) : ∃ more, Chars.quoteChar c = '\\' :: more := by
  unfold Chars.quoteChar at escaped ⊢
  split_ifs at escaped ⊢ <;> first | exact absurd rfl escaped | exact ⟨_, rfl⟩

theorem prefix_quoted {w : List Char} (own : ∀ d ∈ w, Chars.quoteChar d = [d]) (cs : List Char) :
    w <+: cs.flatMap Chars.quoteChar ↔ w <+: cs := by
  induction cs generalizing w with
  | nil => rfl
  | cons c cs ih =>
    cases w with
    | nil => exact iff_of_true List.nil_prefix List.nil_prefix
    | cons d w =>
      rw [List.forall_mem_cons] at own
      rw [List.flatMap_cons, List.cons_prefix_cons]
      by_cases plain : Chars.quoteChar c = [c]
      · rw [plain, List.singleton_append, List.cons_prefix_cons, ih own.2]
      · obtain ⟨more, escape⟩ := quoteChar_escape plain
        rw [escape, List.cons_append, List.cons_prefix_cons]
        refine iff_of_false ?_ ?_
        · rintro ⟨rfl, -⟩
          cases own.1
        · rintro ⟨rfl, -⟩
          exact plain own.1

theorem space_not_mem_hex (n : Nat) : ' ' ∉ Nat.toDigits 16 n := by
  have solid : ∀ k < 16, ' ' ≠ k.digitChar := by decide
  induction n using Nat.strong_induction_on with
  | _ n ih =>
    rw [Nat.toDigits_eq_if (by decide)]
    split
    · rename_i small
      rw [List.mem_singleton]
      exact solid n small
    · rename_i large
      rw [List.mem_append, List.mem_singleton, not_or]
      exact ⟨ih _ (Nat.div_lt_self (by omega) (by decide)), solid _ (Nat.mod_lt n (by decide))⟩

theorem in_escape (escaped : Chars.quoteChar c ≠ [c]) (ys : List Char) :
    h.In (Chars.quoteChar c ++ ys) ↔ h.In ys := by
  have pair {mark : Char} (other : h.phrase.toList.head? ≠ some mark) :
      h.In (['\\', mark] ++ ys) ↔ h.In ys := by
    rw [List.cons_append, in_cons (by cases h <;> decide), List.singleton_append, in_cons other]
  unfold Chars.quoteChar at escaped ⊢
  split_ifs at escaped ⊢
  · exact pair (by cases h <;> decide)
  · exact pair (by cases h <;> decide)
  · exact pair (by cases h <;> decide)
  · exact pair (by cases h <;> decide)
  · exact pair (by cases h <;> decide)
  · exact pair (by cases h <;> decide)
  · have number : ¬ h.In (Nat.toDigits 16 c.toNat) := not_in_of_solid (space_not_mem_hex c.toNat)
    have split : ['\\', 'u', '{'] ++ Nat.toDigits 16 c.toNat ++ ['}'] ++ ys =
        '\\' :: (['u'] ++ '{' :: (Nat.toDigits 16 c.toNat ++ '}' :: ys)) := by simp
    have front : ¬ h.In ['u'] := not_in_of_solid (by decide)
    rw [split, in_cons (by cases h <;> decide), in_append_cons (by decide) (by decide), or_iff_right front,
      in_append_cons (by decide) (by decide), or_iff_right number]
  · exact absurd rfl escaped

/-- A phrase stands in a quoted text where it stands in the text. -/
theorem in_quoted (cs : List Char) : h.In (cs.flatMap Chars.quoteChar) ↔ h.In cs := by
  induction cs with
  | nil => rfl
  | cons c cs ih =>
    have front := prefix_quoted h.quoteChar_of_mem (c :: cs)
    rw [List.flatMap_cons] at front ⊢
    by_cases plain : Chars.quoteChar c = [c]
    · rw [plain, List.singleton_append] at front ⊢
      unfold In at ih ⊢
      rw [List.infix_cons_iff, List.infix_cons_iff, front, ih]
    · have absent : c ∉ h.phrase.toList := fun member => plain (h.quoteChar_of_mem c member)
      rw [in_escape plain, ih, in_cons]
      intro first
      exact absent (List.mem_of_mem_head? first)

end Hint

namespace Json

/-! The texts that a message repeats -/

def Found.echo : Found → List String
  | .text s => [s]
  | _ => []

/-- The texts of the document that stand in the message on a cause. -/
def Cause.echo : Cause → List String
  | .wrongType found _ => found.echo
  | .unknownTag tag _ => [tag]
  | _ => []

def Expected.wording (e : Expected) : String := " expected " ++ e.message ++ " at line "

def tagWording (tags : List String) : String := " expected " ++ tagList tags ++ " at line "

def lengthWording (name : String) : String := " expected struct " ++ name ++ " with "

/-- What the message on a cause takes from the schema, with the words around it. -/
def Cause.wordings : Cause → List String
  | .wrongType _ e => [e.wording]
  | .unknownTag _ tags => [tagWording tags]
  | .repeatedMember key | .missingMember key => [key]
  | .wrongLength _ name _ => [lengthWording name]
  | _ => []

mutual

def Shape.wordings : Shape → List String
  | .text => [Expected.text.wording]
  | .flag => [Expected.flag.wording]
  | .count => [Expected.count.wording]
  | .real => [Expected.real.wording]
  | .choice tags => [Expected.unit.wording, tagWording tags]
  | .optional item => item.wordings
  | .list item => Expected.sequence.wording :: item.wordings
  | .record name fields => (Expected.record name).wording :: lengthWording name :: fields.wordings

def Fields.wordings : Fields → List String
  | .nil => []
  | .cons key _ shape rest => key :: (shape.wordings ++ rest.wordings)

end

theorem wordings_of_mem_shapes : {fs : Fields} → {shape : Shape} → shape ∈ fs.shapes →
    ∀ text ∈ shape.wordings, text ∈ fs.wordings
  | .cons key _ first rest, shape, member, text, used => by
    rw [Fields.shapes, List.mem_cons] at member
    rw [Fields.wordings, List.mem_cons, List.mem_append]
    rcases member with rfl | behind
    · exact .inr (.inl used)
    · exact .inr (.inr (wordings_of_mem_shapes behind text used))

theorem key_of_field : {fs : Fields} → {key : String} → {shape : Shape} → fs.shape? key = some shape →
    key ∈ fs.wordings
  | .cons k _ first rest, key, shape, field => by
    rw [Fields.wordings, List.mem_cons, List.mem_append]
    unfold Fields.shape? at field
    split at field
    · rename_i same
      exact .inl same
    · exact .inr (.inr (key_of_field field))

theorem key_of_lacks : {fs : Fields} → {ms : Entries} → {key : String} → fs.Lacks ms key →
    key ∈ fs.wordings
  | .cons k _ first rest, ms, key, lacks => by
    rw [Fields.wordings, List.mem_cons, List.mem_append]
    rcases lacks with ⟨same, -⟩ | ⟨-, later⟩
    · exact .inl same
    · exact .inr (.inr (key_of_lacks later))

/-- All that the message on a breach takes from a schema is in the schema. -/
theorem Breach.wordings {s : Shape} {v : Value} {c : Cause} (breach : Breach s v c) :
    ∀ text ∈ c.wordings, text ∈ s.wordings := by
  induction breach with
  | kind s v expected asked other =>
    rw [Cause.wordings, List.forall_mem_singleton]
    cases s <;> cases asked <;> exact List.mem_cons_self
  | negative n outside | noTag tags v other | behindTag tags tag m ms known
  | surplus name fields before v after fit => exact List.forall_mem_nil _
  | unlisted tags tag unknown | unlistedKey tags tag v ms unknown =>
    rw [Cause.wordings, List.forall_mem_singleton]
    exact List.mem_cons_of_mem _ List.mem_cons_self
  | tagged tags tag v ms known solid =>
    rw [Cause.wordings, List.forall_mem_singleton]
    exact List.mem_cons_self
  | present item v c given inside ih => exact ih
  | item item before v after c fit inside ih =>
    intro text used
    exact List.mem_cons_of_mem _ (ih text used)
  | member name fields before key v after shape c admits new field inside ih =>
    intro text used
    have listed := wordings_of_mem_shapes (mem_shapes_of_field field) text (ih text used)
    exact List.mem_cons_of_mem _ (List.mem_cons_of_mem _ listed)
  | again name fields before key v after shape admits old field =>
    rw [Cause.wordings, List.forall_mem_singleton]
    exact List.mem_cons_of_mem _ (List.mem_cons_of_mem _ (key_of_field field))
  | missing name fields ms key admits lacks =>
    rw [Cause.wordings, List.forall_mem_singleton]
    exact List.mem_cons_of_mem _ (List.mem_cons_of_mem _ (key_of_lacks lacks))
  | entry name fields front shape back before v after c order fit inside ih =>
    intro text used
    have member : shape ∈ fields.shapes := order ▸ List.mem_append_right _ List.mem_cons_self
    have listed := wordings_of_mem_shapes member text (ih text used)
    exact List.mem_cons_of_mem _ (List.mem_cons_of_mem _ listed)
  | short name fields vs fit more =>
    rw [Cause.wordings, List.forall_mem_singleton]
    exact List.mem_cons_of_mem _ List.mem_cons_self

/-! The phrases in a message -/

/-- The hint is on a cause of this kind. The unlisted tag may be the key of an object that stands for a tag;
no hint is on an array that is too short for a record, as it lacks no member by name. -/
def Cause.Calls : Cause → Hint → Prop
  | .missingMember _, .absent => True
  | .unknownTag _ _, .unlisted => True
  | .wrongType _ _, .kind => True
  | _, _ => False

variable {h : Hint}

theorem Found.hint_in_message (f : Found) :
    h.In (' ' :: f.message.toList) ↔ ∃ s ∈ f.echo, h.In s.toList := by
  cases f with
  | null | sequence | map => cases h <;> simp [echo] <;> decide
  | bool b => cases h <;> cases b <;> simp [echo] <;> decide
  | integer n =>
    have text : (Found.integer n).message = s!"integer `{n}`" := rfl
    have split : ' ' :: (Found.integer n).message.toList =
        " integer ".toList ++ '`' :: ((toString n).toList ++ '`' :: []) := by
      simp [text, Text.toString_same]
    have front : ¬ h.In " integer ".toList := by cases h <;> decide
    rw [split, Hint.in_between (by decide) (by decide), or_iff_right front, or_iff_left Hint.not_in_nil]
    exact iff_of_false (Hint.not_in_int n) (by simp [echo])
  | real x =>
    have text : (Found.real x).message = s!"floating point `{String.ofList x.text}`" := rfl
    have split : ' ' :: (Found.real x).message.toList =
        " floating point ".toList ++ '`' :: (x.text ++ '`' :: []) := by
      simp [text, Text.toString_same]
    have front : ¬ h.In " floating point ".toList := by cases h <;> decide
    rw [split, Hint.in_between (by decide) (by decide), or_iff_right front, or_iff_left Hint.not_in_nil]
    exact iff_of_false (Hint.not_in_real x) (by simp [echo])
  | text s =>
    have text : (Found.text s).message = s!"string {Text.quoted s}" := rfl
    have split : ' ' :: (Found.text s).message.toList =
        " string ".toList ++ '"' :: (s.toList.flatMap Chars.quoteChar ++ '"' :: []) := by
      simp [text, Text.toString_same, Text.quoted]
    have front : ¬ h.In " string ".toList := by cases h <;> decide
    rw [split, Hint.in_between (by decide) (by decide),
      or_iff_right front, or_iff_left Hint.not_in_nil, Hint.in_quoted]
    simp [echo]

/-- A phrase stands in the message on a mismatch when it names the cause, or when it stands in a text of the
document that the message repeats. -/
theorem Cause.hint_in_message {c : Cause} (course : c.isMismatch = true)
    (foreign : ∀ text ∈ c.wordings, ¬ h.In text.toList) :
    h.In (c.message.toList ++ " at line ".toList) ↔ c.Calls h ∨ ∃ s ∈ c.echo, h.In s.toList := by
  have place : ¬ h.In " at line ".toList := by cases h <;> decide
  cases c with
  | wrongType found expected =>
    have text : (Cause.wrongType found expected).message =
      s!"invalid type: {found.message}, expected {expected.message}" := rfl
    have split : (Cause.wrongType found expected).message.toList ++ " at line ".toList =
        "invalid type".toList ++ ':' ::
          ((' ' :: found.message.toList) ++ ',' :: expected.wording.toList) := by
      simp [text, Text.toString_same, Expected.wording]
    have own : h.In "invalid type".toList ↔ (Cause.wrongType found expected).Calls h := by
      cases h <;> simp [Calls] <;> decide
    have names : ¬ h.In expected.wording.toList := foreign _ List.mem_cons_self
    rw [split, Hint.in_append_cons (by decide) (by decide), Hint.in_append_cons (by decide) (by decide),
      own, found.hint_in_message, or_iff_left names]
    rfl
  | unknownTag tag tags =>
    have text : (Cause.unknownTag tag tags).message =
      s!"unknown variant `{tag}`, expected {tagList tags}" := rfl
    have split : (Cause.unknownTag tag tags).message.toList ++ " at line ".toList =
        "unknown variant ".toList ++ '`' :: (tag.toList ++ '`' :: ',' :: (tagWording tags).toList) := by
      simp [text, Text.toString_same, tagWording]
    have own : h.In "unknown variant ".toList ↔ (Cause.unknownTag tag tags).Calls h := by
      cases h <;> simp [Calls] <;> decide
    have names : ¬ h.In (tagWording tags).toList := foreign _ List.mem_cons_self
    rw [split, Hint.in_between (by decide) (by decide),
      Hint.in_cons (by cases h <;> decide), own, or_iff_left names]
    simp [echo]
  | repeatedMember key =>
    have text : (Cause.repeatedMember key).message = s!"duplicate field `{key}`" := rfl
    have split : (Cause.repeatedMember key).message.toList ++ " at line ".toList =
        "duplicate field ".toList ++ '`' :: (key.toList ++ '`' :: " at line ".toList) := by
      simp [text, Text.toString_same]
    have front : ¬ h.In "duplicate field ".toList := by cases h <;> decide
    have names : ¬ h.In key.toList := foreign _ List.mem_cons_self
    rw [split, Hint.in_between (by decide) (by decide), or_iff_right front, or_iff_left place]
    exact iff_of_false names (by simp [Calls, echo])
  | missingMember key =>
    have text : (Cause.missingMember key).message = s!"missing field `{key}`" := rfl
    have split : (Cause.missingMember key).message.toList ++ " at line ".toList =
        "missing field ".toList ++ '`' :: (key.toList ++ '`' :: " at line ".toList) := by
      simp [text, Text.toString_same]
    have own : h.In "missing field ".toList ↔ (Cause.missingMember key).Calls h := by
      cases h <;> simp [Calls] <;> decide
    have names : ¬ h.In key.toList := foreign _ List.mem_cons_self
    rw [split, Hint.in_between (by decide) (by decide), own, or_iff_left place]
    exact or_congr_right (iff_of_false names (by simp [echo]))
  | wrongLength items name fields =>
    have text : (Cause.wrongLength items name fields).message =
      s!"invalid length {items}, expected struct {name} with {fields} elements" := rfl
    have wording : lengthWording name = " expected struct " ++ name ++ " with " := rfl
    have split : (Cause.wrongLength items name fields).message.toList ++ " at line ".toList =
        "invalid length ".toList ++ (Nat.toDigits 10 items ++ ',' :: ((lengthWording name).toList ++
          (Nat.toDigits 10 fields ++ " elements at line ".toList))) := by
      simp [text, Text.toString_same, wording]
    have front : ¬ h.In "invalid length ".toList := by cases h <;> decide
    have behind : ¬ h.In " elements at line ".toList := by cases h <;> decide
    have names : ¬ h.In (lengthWording name).toList := foreign _ List.mem_cons_self
    rw [split, Hint.in_append_digits, Hint.in_cons (by cases h <;> decide), Hint.in_append_digits,
      or_iff_right front, or_iff_left behind]
    exact iff_of_false names (by simp [Calls, echo])
  | negativeCount n =>
    have text : (Cause.negativeCount n).message = s!"invalid value: integer `{n}`, expected usize" := rfl
    have split : (Cause.negativeCount n).message.toList ++ " at line ".toList =
        "invalid value: integer ".toList ++
          '`' :: ((toString n).toList ++ '`' :: ", expected usize at line ".toList) := by
      simp [text, Text.toString_same]
    have front : ¬ h.In "invalid value: integer ".toList := by cases h <;> decide
    have behind : ¬ h.In ", expected usize at line ".toList := by cases h <;> decide
    rw [split, Hint.in_between (by decide) (by decide), or_iff_right front, or_iff_left behind]
    exact iff_of_false (Hint.not_in_int n) (by simp [Calls, echo])
  | _ => cases course

/-- The place of a fault adds nothing to the phrases of its message. -/
theorem Fault.hint_in_message (f : Fault) (text : String) :
    h.In (f.message text).toList ↔ h.In (f.cause.message.toList ++ " at line ".toList) := by
  let place := placeAfter (byteCount text.toList - f.behind) text.toList 1 0
  have whole : f.message text = s!"{f.cause.message} at line {place.1} column {place.2}" := rfl
  have split : (f.message text).toList = (f.cause.message.toList ++ " at line ".toList) ++
      (Nat.toDigits 10 place.1 ++ (" column ".toList ++ (Nat.toDigits 10 place.2 ++ []))) := by
    simp [whole, Text.toString_same]
  have between : ¬ h.In " column ".toList := by cases h <;> decide
  rw [split, Hint.in_append_digits, Hint.in_append_digits, or_iff_left Hint.not_in_nil, or_iff_left between]

end Json

end Retrofit
