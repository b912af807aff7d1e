import Mathlib.Data.List.Basic
import Retrofit.Proofs.Disk.Rooted

/-! The way along a path: the places that its parts lead to one after the other. Spelling makes no
difference to it, and a path that is taken apart and put together again takes the same way. -/
namespace Retrofit

namespace Path

/-- The places on the way along some parts, from the one where it begins. -/
def trail (place : List String) : List String → List (List String)
  | [] => [place]
  | part :: rest => place :: trail (enter place part) rest

variable {place q : List String}

theorem start_mem_trail (place parts : List String) : place ∈ trail place parts := by
  cases parts <;> exact List.mem_cons_self

theorem mem_trail_append (place xs ys : List String) :
    q ∈ trail place (xs ++ ys) ↔ q ∈ trail place xs ∨ q ∈ trail (xs.foldl enter place) ys := by
  induction xs generalizing place with
  | nil =>
    have begun (same : q ∈ [place]) : q ∈ trail place ys :=
      List.mem_singleton.mp same ▸ start_mem_trail place ys
    exact ⟨.inr, fun there => there.elim begun id⟩
  | cons x xs ih =>
    rw [List.cons_append, trail, trail, List.mem_cons, List.mem_cons, ih, List.foldl_cons, or_assoc]

theorem trail_concat (place parts : List String) (part : String) :
    trail place (parts ++ [part]) = trail place parts ++ [(parts ++ [part]).foldl enter place] := by
  induction parts generalizing place with
  | nil => rfl
  | cons first parts ih => exact congrArg (place :: ·) (ih (enter place first))

theorem end_mem_trail (place parts : List String) : parts.foldl enter place ∈ trail place parts := by
  induction parts generalizing place with
  | nil => exact List.mem_cons_self
  | cons part parts ih => exact List.mem_cons_of_mem _ (ih (enter place part))

theorem enter_still {part : String} (still : part = "" ∨ part = ".") : enter place part = place :=
  if_pos still

/-- Parts that mean nothing make no difference to the way. -/
theorem mem_trail_partsOf (place parts : List String) :
    q ∈ trail place ((partsOf parts).map Part.text) ↔ q ∈ trail place parts := by
  induction parts generalizing place with
  | nil => exact .rfl
  | cons part parts ih =>
    unfold partsOf
    split
    · rename_i still
      have begun : q = place → q ∈ trail place parts := fun same => same ▸ start_mem_trail place parts
      rw [ih, trail, List.mem_cons, enter_still still, or_iff_right_of_imp begun]
    · split
      · rename_i up
        subst up
        rw [List.map_cons, trail, trail, List.mem_cons, List.mem_cons, Part.text, ih]
      · rw [List.map_cons, trail, trail, List.mem_cons, List.mem_cons, Part.text, ih]

theorem enter_normal {name : String} (normal : Normal name) (place : List String) :
    enter place name = place ++ [name] := by
  simp [enter, normal.filled, normal.moves, normal.descends]

/-- Parts that are names lead further down one by one. -/
theorem mem_trail_normal {names : List String} (normal : ∀ name ∈ names, Normal name) :
    q ∈ trail place names ↔ ∃ front, front <+: names ∧ q = place ++ front := by
  induction names generalizing place with
  | nil => simp [trail]
  | cons name names ih =>
    rw [List.forall_mem_cons] at normal
    rw [trail, List.mem_cons, ih normal.2, enter_normal normal.1]
    refine ⟨?_, ?_⟩
    · rintro (rfl | ⟨front, begins, rfl⟩)
      · exact ⟨[], List.nil_prefix, (List.append_nil _).symm⟩
      · exact ⟨name :: front, List.cons_prefix_cons.mpr ⟨rfl, begins⟩, by simp⟩
    · rintro ⟨front, begins, rfl⟩
      rcases List.prefix_cons_iff.mp begins with rfl | ⟨rest, rfl, later⟩
      · exact .inl (List.append_nil _)
      · exact .inr ⟨rest, later, by simp⟩

/-! Texts of paths -/

/-- The parts of a path as they are written. -/
def texts (p : Path) : List String := p.parts.map Part.text

/-- Where the path begins. -/
def start (current : List String) (p : Path) : List String :=
  if p.absolute then [] else current

/-- The parts of the path can be told from its text. -/
structure Clean (p : Path) : Prop where
  filled : ∀ part ∈ p.texts, part ≠ ""
  single : ∀ part ∈ p.texts, '/' ∉ part.toList

variable {p : Path}

/-- The places on the way along a path. -/
def way (current : List String) (p : Path) : List (List String) := trail (p.start current) p.texts

/-- What the first slash of an absolute path is for its segments. -/
def lead (p : Path) : List String := if p.absolute then [""] else []

theorem foldl_lead (p : Path) (place parts : List String) :
    (p.lead ++ parts).foldl enter place = parts.foldl enter place := by
  unfold lead
  cases p.absolute <;> rfl

theorem mem_trail_lead (p : Path) (place parts : List String) :
    q ∈ trail place (p.lead ++ parts) ↔ q ∈ trail place parts := by
  unfold lead
  cases p.absolute with
  | false => exact .rfl
  | true =>
    have begun : q = place → q ∈ trail place parts := fun same => same ▸ start_mem_trail place parts
    have still : enter place "" = place := enter_still (.inl rfl)
    rw [if_pos rfl, List.singleton_append, trail, List.mem_cons, still, or_iff_right_of_imp begun]

/-- Where the path leads. -/
def goal (current : List String) (p : Path) : List String := p.texts.foldl enter (p.start current)

theorem goal_mem_way (current : List String) (p : Path) : p.goal current ∈ p.way current :=
  end_mem_trail _ _

/-- The path with one part more. -/
def down (p : Path) (part : Part) : Path := { p with parts := p.parts ++ [part] }

theorem eq_bare_or_down (p : Path) : p = ⟨p.absolute, []⟩ ∨ ∃ above part, p = down above part := by
  obtain ⟨absolute, parts⟩ := p
  obtain rfl | ⟨before, last, rfl⟩ := List.eq_nil_or_concat' parts
  · exact .inl rfl
  · exact .inr ⟨⟨absolute, before⟩, last, rfl⟩

theorem parent_down (p : Path) (part : Part) : (p.down part).parent? = some p := by
  rw [parent?, if_neg (by simp [down])]
  simp [down]

theorem texts_down (p : Path) (part : Part) : (p.down part).texts = p.texts ++ [Part.text part] :=
  List.map_append

theorem goal_down (current : List String) (p : Path) (part : Part) :
    (p.down part).goal current = enter (p.goal current) (Part.text part) := by
  rw [goal, texts_down, List.foldl_append]
  rfl

theorem way_down (current : List String) (p : Path) (part : Part) :
    (p.down part).way current = p.way current ++ [(p.down part).goal current] := by
  rw [way, goal, texts_down, trail_concat]
  rfl

theorem text_eq (p : Path) :
    p.text = if p.absolute then "/" ++ Text.join "/" p.texts else Text.join "/" p.texts := by
  unfold text
  split
  · rfl
  · exact String.empty_append

theorem Clean.segments_text (clean : p.Clean) (filled : p.parts ≠ []) :
    segments p.text = p.lead ++ p.texts := by
  have parts : segments (Text.join "/" p.texts) = p.texts :=
    segments_join (by simpa [texts] using filled) clean.single
  rw [text_eq, lead]
  split
  · have cut := segments_append "" (Text.join "/" p.texts)
    rw [parts] at cut
    exact cut
  · exact parts

theorem Clean.isAbsolute_text (clean : p.Clean) : isAbsolute p.text = p.absolute := by
  rw [text_eq]
  cases p.absolute with
  | true => simp [isAbsolute, List.isPrefixOf]
  | false =>
    rw [if_neg Bool.false_ne_true]
    cases parts : p.texts with
    | nil => rfl
    | cons part rest =>
      have first : part ∈ p.texts := parts ▸ List.mem_cons_self
      have relative := not_absolute_of_single (clean.single part first)
      cases rest with
      | nil => exact relative
      | cons next rest =>
        rw [Text.join, String.append_assoc, isAbsolute_append (clean.filled part first), relative]
        exact List.cons_ne_nil next rest

/-- Where parts are left out, characters are. -/
theorem join_sublist {xs ys : List String} (fewer : xs.Sublist ys) :
    (Text.join "/" xs).toList.Sublist (Text.join "/" ys).toList := by
  have behind (y : String) {ys : List String} (filled : ys ≠ []) :
      (Text.join "/" (y :: ys)).toList = y.toList ++ '/' :: (Text.join "/" ys).toList := by
    rw [Text.join]
    · simp
    · exact filled
  induction fewer with
  | slnil => exact .refl _
  | @cons xs ys y fewer ih =>
    cases ys with
    | nil =>
      rw [List.sublist_nil.mp fewer]
      exact List.nil_sublist _
    | cons next ys =>
      rw [behind y (List.cons_ne_nil _ _)]
      exact ih.trans ((List.sublist_cons_self _ _).trans (List.sublist_append_right _ _))
  | @cons_cons xs ys y fewer ih =>
    cases xs with
    | nil =>
      cases ys with
      | nil => exact .refl _
      | cons next ys =>
        rw [behind y (List.cons_ne_nil _ _)]
        exact List.sublist_append_left _ _
    | cons first xs =>
      have filled : ys ≠ [] := by
        rintro rfl
        cases fewer
      rw [behind y (List.cons_ne_nil _ _), behind y filled]
      exact (ih.cons_cons '/').append_left _

theorem text_sublist {parts : List String} (fewer : p.texts.Sublist parts) (filled : parts ≠ []) :
    p.text.toList.Sublist (Text.join "/" (p.lead ++ parts)).toList := by
  have texts := join_sublist fewer
  rw [text_eq, lead]
  split
  · have behind : Text.join "/" ([""] ++ parts) = "/" ++ Text.join "/" parts := by
      rw [List.singleton_append, Text.join, String.empty_append]
      exact filled
    rw [behind, String.toList_append, String.toList_append]
    exact texts.append_left _
  · exact texts

theorem Clean.mem_segments_text (clean : p.Clean) {part : String} (member : part ∈ segments p.text) :
    part = "" ∨ part ∈ p.texts := by
  by_cases bare : p.parts = []
  · left
    rw [text_eq, texts, bare] at member
    cases absolute : p.absolute <;> rw [absolute] at member
    · exact List.mem_singleton.mp member
    · have parts : part ∈ ["", ""] := member
      simpa using parts
  · rw [clean.segments_text bare, List.mem_append, lead] at member
    rcases member with first | later
    · split at first
      · exact .inl (List.mem_singleton.mp first)
      · cases first
    · exact .inr later

/-! The path above a text -/

theorem partsOf_append (xs ys : List String) : partsOf (xs ++ ys) = partsOf xs ++ partsOf ys := by
  induction xs with
  | nil => rfl
  | cons x xs ih =>
    rw [List.cons_append, partsOf, partsOf, ih]
    split
    · rfl
    · split <;> rfl

theorem partsOf_normal {name : String} (normal : Normal name) : partsOf [name] = [.name name] := by
  simp [partsOf, normal.filled, normal.moves, normal.descends]

theorem texts_partsOf_sublist (parts : List String) : ((partsOf parts).map Part.text).Sublist parts := by
  induction parts with
  | nil => exact .slnil
  | cons part parts ih =>
    unfold partsOf
    split
    · exact ih.cons part
    · split
      · rename_i up
        subst up
        exact ih.cons_cons _
      · exact ih.cons_cons part

theorem texts_partsOf_filled (parts : List String) : ∀ part ∈ (partsOf parts).map Part.text, part ≠ "" := by
  induction parts with
  | nil => exact nofun
  | cons part parts ih =>
    unfold partsOf
    split
    · exact ih
    · rename_i still
      split
      · exact List.forall_mem_cons.mpr ⟨by decide, ih⟩
      · exact List.forall_mem_cons.mpr ⟨fun empty => still (.inl empty), ih⟩

theorem join_segments (text : String) : Text.join "/" (segments text) = text := by
  apply segments_injective
  exact segments_join (segments_ne_nil text) fun part member => single_of_mem_segments member

theorem ne_empty_of_segments {path last : String} {front : List String}
    (parts : segments path = front ++ [last]) (filled : last ≠ "") : path ≠ "" := by
  rintro rfl
  have only : front ++ [last] = [] ++ [""] := parts.symm
  exact filled (List.cons.inj (List.append_inj' only rfl).2).1

theorem eq_cons_of_concat {front rest : List String} {name first : String}
    (same : front ++ [name] = first :: rest) (other : name ≠ first) :
    ∃ more, front = first :: more ∧ rest = more ++ [name] := by
  cases front with
  | nil => exact absurd (List.cons.inj same).1 other
  | cons x more =>
    obtain ⟨rfl, later⟩ := List.cons.inj same
    exact ⟨more, rfl, later.symm⟩

/-- The parts of a path that ends with a name: those in front of it, without those that mean nothing. -/
theorem ofText_concat {path name : String} {front : List String}
    (parts : segments path = front ++ [name]) (normal : Normal name) :
    ∃ p, ofText path = down p (.name name) ∧ p.absolute = isAbsolute path ∧
      (∃ rest, front = p.lead ++ rest ∧ p.texts.Sublist rest) ∧ (∀ part ∈ p.texts, part ≠ "") ∧
      ∀ place q, q ∈ trail place p.texts ↔ q ∈ trail place front := by
  have head := head_segments (ne_empty_of_segments parts normal.filled)
  unfold ofText
  rw [parts] at head ⊢
  split
  · rename_i rest same
    obtain ⟨more, rfl, rfl⟩ := eq_cons_of_concat same normal.filled
    have absolute : isAbsolute path = true := head.mpr rfl
    refine ⟨⟨true, partsOf more⟩, ?_, absolute.symm, ⟨more, rfl, texts_partsOf_sublist more⟩,
      texts_partsOf_filled more, ?_⟩
    · rw [if_neg (by simp), partsOf_append, partsOf_normal normal]
      rfl
    · intro place q
      have meaning := mem_trail_partsOf (q := q) place more
      exact meaning.trans (mem_trail_lead ⟨true, []⟩ place more).symm
  · rename_i rest same
    obtain ⟨more, rfl, rfl⟩ := eq_cons_of_concat same normal.moves
    have relative : isAbsolute path = false := by
      rw [Bool.eq_false_iff, ne_eq, head]
      simp
    refine ⟨⟨false, .here :: partsOf more⟩, ?_, relative.symm,
      ⟨"." :: more, rfl, (texts_partsOf_sublist more).cons_cons _⟩,
      List.forall_mem_cons.mpr ⟨by decide, texts_partsOf_filled more⟩, ?_⟩
    · rw [partsOf_append, partsOf_normal normal]
      rfl
    · intro place q
      have meaning := mem_trail_partsOf (q := q) (enter place ".") more
      change q ∈ place :: trail (enter place ".") _ ↔ q ∈ place :: trail (enter place ".") more
      rw [List.mem_cons, List.mem_cons, meaning]
  · rename_i other _
    have relative : isAbsolute path = false := by
      rw [Bool.eq_false_iff, ne_eq, head, List.head?_eq_some_iff]
      rintro ⟨rest, same⟩
      exact other rest same
    refine ⟨⟨false, partsOf front⟩, ?_, relative.symm, ⟨front, rfl, texts_partsOf_sublist front⟩,
      texts_partsOf_filled front, fun place q => mem_trail_partsOf place front⟩
    rw [partsOf_append, partsOf_normal normal]
    rfl

end Path

end Retrofit
