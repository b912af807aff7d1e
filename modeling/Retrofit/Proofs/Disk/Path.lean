import Retrofit.Disk.Tree
import Retrofit.Proofs.Text.Pieces

/-! Where a path leads. Without links this can be read off its text: a part is a name that leads further
down, or a step up, or means nothing. -/
namespace Retrofit.Path

/-- A part of a path that leads from a directory to something in it. -/
structure Normal (name : String) : Prop where
  filled : name ≠ ""
  moves : name ≠ "."
  descends : name ≠ ".."
  single : '/' ∉ name.toList

instance (name : String) : Decidable (Normal name) :=
  decidable_of_iff (name ≠ "" ∧ name ≠ "." ∧ name ≠ ".." ∧ '/' ∉ name.toList)
    ⟨fun ⟨filled, moves, descends, single⟩ => ⟨filled, moves, descends, single⟩,
      fun normal => ⟨normal.filled, normal.moves, normal.descends, normal.single⟩⟩

/-- All parts of the path lead down. -/
def Contained (text : String) : Prop :=
  ∀ part ∈ segments text, Normal part

instance (text : String) : Decidable (Contained text) :=
  inferInstanceAs (Decidable (∀ part ∈ segments text, Normal part))

/-! Segments -/

theorem segments_of_toList {text : String} {cs : List Char} (same : text.toList = cs) :
    segments text = (Chars.splitWhere (· == '/') cs).map String.ofList := by
  rw [segments, same]

theorem segments_append (above below : String) :
    segments (above ++ "/" ++ below) = segments above ++ segments below := by
  have cut : (above ++ "/" ++ below).toList = above.toList ++ '/' :: below.toList := by
    simp
  rw [segments_of_toList cut, Chars.splitWhere_append (by rfl), List.map_append]
  rfl

theorem segments_of_single {text : String} (single : '/' ∉ text.toList) :
    segments text = [text] := by
  have uncut : ∀ c ∈ text.toList, (c == '/') = false := by
    intro c member
    rw [beq_eq_false_iff_ne]
    rintro rfl
    exact single member
  rw [segments, Chars.splitWhere_of_uncut uncut, List.map_singleton, String.ofList_toList]

theorem single_of_mem_segments {text part : String} (member : part ∈ segments text) :
    '/' ∉ part.toList := by
  obtain ⟨piece, inside, rfl⟩ := List.mem_map.mp member
  rw [String.toList_ofList]
  intro slash
  have uncut := Chars.uncut_of_mem_splitWhere inside '/' slash
  cases uncut

theorem segments_injective {text other : String} (same : segments text = segments other) :
    text = other := by
  have pieces := (List.map_inj_right fun _ _ => String.ofList_inj.mp).mp same
  have only (c : Char) (cut : (c == '/') = true) : c = '/' := eq_of_beq cut
  exact String.toList_inj.mp (Chars.splitWhere_injective only pieces)

theorem segments_join {parts : List String} (filled : parts ≠ [])
    (single : ∀ part ∈ parts, '/' ∉ part.toList) : segments (Text.join "/" parts) = parts := by
  induction parts with
  | nil => exact absurd rfl filled
  | cons part rest ih =>
    rw [List.forall_mem_cons] at single
    cases rest with
    | nil => exact segments_of_single single.1
    | cons next rest =>
      have later := ih (List.cons_ne_nil next rest) single.2
      rw [Text.join, segments_append, segments_of_single single.1, later]
      · rfl
      · exact List.cons_ne_nil next rest

theorem segments_below (base : String) {directory name : String}
    (single : '/' ∉ directory.toList) (single' : '/' ∉ name.toList) :
    segments (base ++ "/" ++ directory ++ "/" ++ name) = segments base ++ [directory, name] := by
  rw [segments_append, segments_append, segments_of_single single, segments_of_single single',
    List.append_assoc]
  rfl

/-- What is two steps below a base says which base that is. -/
theorem below_injective {base base' directory directory' name name' : String}
    (single : '/' ∉ directory.toList ∧ '/' ∉ name.toList)
    (single' : '/' ∉ directory'.toList ∧ '/' ∉ name'.toList)
    (same : base ++ "/" ++ directory ++ "/" ++ name = base' ++ "/" ++ directory' ++ "/" ++ name') :
    base = base' ∧ directory = directory' ∧ name = name' := by
  have parts := congrArg segments same
  rw [segments_below base single.1 single.2, segments_below base' single'.1 single'.2] at parts
  obtain ⟨above, below⟩ := List.append_inj' parts (by rfl)
  obtain ⟨inside, last⟩ := List.cons.inj below
  exact ⟨segments_injective above, inside, (List.cons.inj last).1⟩

theorem head_segments {text : String} (filled : text ≠ "") :
    isAbsolute text = true ↔ (segments text).head? = some "" := by
  unfold isAbsolute
  cases characters : text.toList with
  | nil => exact absurd (String.toList_eq_nil_iff.mp characters) filled
  | cons c rest =>
    rw [segments_of_toList characters]
    by_cases slash : c = '/'
    · subst slash
      rw [Chars.splitWhere_cut (by rfl)]
      simp [List.isPrefixOf]
    · have keep : (c == '/') = false := beq_eq_false_iff_ne.mpr slash
      obtain ⟨piece, pieces, cut⟩ := Chars.splitWhere_eq_cons (· == '/') rest
      rw [Chars.splitWhere_keep (p := (· == '/')) keep cut]
      simp [List.isPrefixOf, Ne.symm slash, ← String.toList_inj]

theorem not_absolute_of_single {text : String} (single : '/' ∉ text.toList) :
    isAbsolute text = false := by
  by_cases empty : text = ""
  · rw [empty]
    rfl
  · rw [Bool.eq_false_iff, ne_eq, head_segments empty, segments_of_single single]
    exact fun first => empty (Option.some.inj first)

theorem not_absolute_of_contained {text : String} (contained : Contained text) :
    isAbsolute text = false := by
  by_cases empty : text = ""
  · rw [empty]
    rfl
  · rw [Bool.eq_false_iff, ne_eq, head_segments empty]
    exact fun first => (contained "" (List.mem_of_head? first)).filled rfl

theorem isAbsolute_append {text : String} (filled : text ≠ "") (more : String) :
    isAbsolute (text ++ more) = isAbsolute text := by
  unfold isAbsolute
  rw [String.toList_append]
  cases cs : text.toList with
  | nil => exact absurd (String.toList_eq_nil_iff.mp cs) filled
  | cons c rest => simp [List.isPrefixOf]

/-! Locations -/

/-- Where one part of a path leads from a location. -/
def enter (location : List String) (part : String) : List String :=
  if part = "" ∨ part = "." then location
  else if part = ".." then location.dropLast
  else location ++ [part]

/-- Where a path leads. -/
def location (current : List String) (text : String) : List String :=
  (segments text).foldl enter (if isAbsolute text then [] else current)

theorem foldl_enter_normal {names : List String} (normal : ∀ name ∈ names, Normal name)
    (place : List String) : names.foldl enter place = place ++ names := by
  induction names generalizing place with
  | nil => rw [List.foldl_nil, List.append_nil]
  | cons name names ih =>
    rw [List.forall_mem_cons] at normal
    have entered : enter place name = place ++ [name] := by
      simp [enter, normal.1.filled, normal.1.moves, normal.1.descends]
    rw [List.foldl_cons, entered, ih normal.2, List.append_assoc, List.singleton_append]

/-- Below a root, the parts of a path stand behind those of the root. A slash that the root ends with
counts for nothing. -/
theorem segments_joined {relative : String} (contained : Contained relative) (root : String) :
    ∃ front, segments (join root relative) = front ++ segments relative ∧
      (segments root = front ∨ segments root = front ++ [""]) ∧
      isAbsolute (join root relative) = isAbsolute root := by
  have below := not_absolute_of_contained contained
  unfold join
  rw [below, if_neg Bool.false_ne_true]
  split
  · rename_i plain
    by_cases empty : root = ""
    · subst empty
      rw [String.empty_append]
      exact ⟨[], rfl, .inr rfl, below⟩
    · -- the root ends with a slash, so that its last segment is empty
      obtain ⟨before, ends⟩ : ∃ before, root.toList = before ++ ['/'] := by
        have last := plain.resolve_left empty
        exact List.getLast?_eq_some_iff.mp last
      have parts : segments root =
          (Chars.splitWhere (· == '/') before).map String.ofList ++ [""] := by
        rw [segments_of_toList ends, Chars.splitWhere_append (by rfl), List.map_append]
        rfl
      have joined : (root ++ relative).toList = before ++ '/' :: relative.toList := by
        simp [ends]
      have more : segments (root ++ relative) =
          (Chars.splitWhere (· == '/') before).map String.ofList ++ segments relative := by
        rw [segments_of_toList joined, Chars.splitWhere_append (by rfl), List.map_append]
        rfl
      exact ⟨_, more, .inr parts, isAbsolute_append empty relative⟩
  · rename_i other
    rw [not_or] at other
    refine ⟨segments root, segments_append root relative, .inl rfl, ?_⟩
    rw [String.append_assoc, isAbsolute_append other.1]

/-- Below a root, the names of a contained path come one after the other. -/
theorem location_join {relative : String} (contained : Contained relative)
    (current : List String) (root : String) :
    location current (join root relative) = location current root ++ segments relative := by
  obtain ⟨front, parts, above, absolute⟩ := segments_joined contained root
  have same (place : List String) : (segments root).foldl enter place = front.foldl enter place := by
    rcases above with whole | slash
    · rw [whole]
    · rw [slash, List.foldl_append]
      rfl
  rw [location, location, absolute, parts, List.foldl_append, foldl_enter_normal contained, same]

end Retrofit.Path

namespace Retrofit.Disk

variable {d : Disk}

theorem enter_of_step {place next : List String} {part : String}
    (ok : d.step place part = .ok next) : next = Path.enter place part := by
  unfold step at ok
  unfold Path.enter
  split at ok
  · cases ok
  · cases ok
  · by_cases still : part = "" ∨ part = "."
    · rw [if_pos still] at ok ⊢
      exact (Except.ok.inj ok).symm
    · rw [if_neg still] at ok ⊢
      by_cases up : part = ".."
      · rw [if_pos up] at ok ⊢
        exact (Except.ok.inj ok).symm
      · rw [if_neg up] at ok ⊢
        split at ok
        · cases ok
        · split at ok
          · cases ok
          · exact (Except.ok.inj ok).symm

theorem foldl_enter_of_walk {parts place found : List String}
    (ok : d.walk place parts = .ok found) : found = parts.foldl Path.enter place := by
  induction parts generalizing place with
  | nil =>
    cases ok
    rfl
  | cons part parts ih =>
    unfold walk at ok
    split at ok
    · rename_i next stepped
      rw [List.foldl_cons, ← enter_of_step stepped]
      exact ih ok
    · cases ok

theorem walk_of_locate {path : String} {found : List String} (ok : d.locate path = .ok found) :
    d.walk (d.start path) (Path.segments path) = .ok found := by
  unfold locate at ok
  cases accepted : acceptable path with
  | error r =>
    rw [accepted] at ok
    cases ok
  | ok u =>
    rw [accepted] at ok
    exact ok

/-- What a disk finds at a path stands where the text of the path says. -/
theorem location_of_locate {path : String} {found : List String}
    (ok : d.locate path = .ok found) : found = Path.location d.current path :=
  foldl_enter_of_walk (walk_of_locate ok)

end Retrofit.Disk
