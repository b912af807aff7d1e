import Retrofit.Proofs.Disk.Trail
import Retrofit.Proofs.Disk.Writing

/-! Making the directories of a path. If no file stands in the way they can be made, and then they are all
there and nothing else has changed. -/
namespace Retrofit

namespace Disk

/-- The path is within the limits of a disk. -/
structure Fits (path : String) : Prop where
  plain : '\x00' ∉ path.toList
  short : nameBytes path ≤ longestPath
  parts : ∀ part ∈ Path.segments path, nameBytes part ≤ longestName

instance (path : String) : Decidable (Fits path) :=
  decidable_of_iff
    ('\x00' ∉ path.toList ∧ nameBytes path ≤ longestPath ∧
      ∀ part ∈ Path.segments path, nameBytes part ≤ longestName)
    ⟨fun ⟨plain, short, parts⟩ => ⟨plain, short, parts⟩, fun fits => ⟨fits.plain, fits.short, fits.parts⟩⟩

theorem Fits.acceptable {path : String} (fits : Fits path) (filled : path ≠ "") :
    acceptable path = .ok () := by
  have plain : (path.toList.any (· == '\x00')) = false := by
    rw [List.any_eq_false]
    rintro c member same
    exact fits.plain (eq_of_beq same ▸ member)
  have short := Nat.not_lt.mpr fits.short
  simp [Disk.acceptable, plain, filled, short]

theorem byteCount_le {cs other : List Char} (fewer : cs.Sublist other) :
    Json.byteCount cs ≤ Json.byteCount other := by
  induction fewer with
  | slnil => exact Nat.le_refl _
  | cons c fewer ih => exact ih.trans (Nat.le_add_left _ _)
  | cons_cons c fewer ih => exact Nat.add_le_add_left ih _

theorem Fits.of_sublist {path other : String} (fits : Fits other)
    (fewer : path.toList.Sublist other.toList)
    (parts : ∀ part ∈ Path.segments path, part = "" ∨ part ∈ Path.segments other) : Fits path where
  plain := fun marked => fits.plain (fewer.mem marked)
  short := (byteCount_le fewer).trans fits.short
  parts part member := by
    obtain rfl | inside := parts part member
    · exact Nat.zero_le _
    · exact fits.parts part inside

section Walking

variable {d : Disk} {place : List String} {part : String}

theorem step_of_found (rooted : d.Rooted) (here : d.at? place = some .directory)
    (short : nameBytes part ≤ longestName) :
    d.step place part =
      if d.at? (Path.enter place part) = none then .error .notFound else .ok (Path.enter place part) := by
  have limit := Nat.not_lt.mpr short
  have above := rooted.above here
  unfold step Path.enter
  rw [here]
  dsimp only
  by_cases still : part = "" ∨ part = "."
  · rw [if_pos still, if_pos still, here]
    rfl
  · rw [if_neg still, if_neg still]
    by_cases up : part = ".."
    · rw [if_pos up, if_pos up, above]
      rfl
    · rw [if_neg up, if_neg up, if_neg limit]
      cases found : d.at? (place ++ [part]) <;> rfl

/-- All of the places are directories. -/
def Paved (d : Disk) (places : List (List String)) : Prop :=
  ∀ place ∈ places, d.at? place = some .directory

/-- None of the places is a file. -/
def Passable (d : Disk) (places : List (List String)) : Prop :=
  ∀ place ∈ places, d.at? place = none ∨ d.at? place = some .directory

instance (d : Disk) (places : List (List String)) : Decidable (d.Passable places) :=
  inferInstanceAs
    (Decidable (∀ place ∈ places, d.at? place = none ∨ d.at? place = some .directory))

theorem walk_paved (rooted : d.Rooted) {parts : List String}
    (short : ∀ part ∈ parts, nameBytes part ≤ longestName) (paved : d.Paved (Path.trail place parts)) :
    d.walk place parts = .ok (parts.foldl Path.enter place) := by
  induction parts generalizing place with
  | nil => rfl
  | cons part parts ih =>
    rw [List.forall_mem_cons] at short
    rw [Paved, Path.trail, List.forall_mem_cons] at paved
    have next := paved.2 _ (Path.start_mem_trail _ _)
    unfold walk
    rw [step_of_found rooted paved.1 short.1, next, if_neg (Option.some_ne_none _)]
    exact ih short.2 paved.2

/-- A way without files on it is there, or else is not found. -/
theorem walk_passable (rooted : d.Rooted) {parts : List String}
    (short : ∀ part ∈ parts, nameBytes part ≤ longestName) (here : d.at? place = some .directory)
    (passable : d.Passable (Path.trail place parts)) :
    d.Paved (Path.trail place parts) ∨ d.walk place parts = .error .notFound := by
  induction parts generalizing place with
  | nil => exact .inl (List.forall_mem_singleton.mpr here)
  | cons part parts ih =>
    rw [List.forall_mem_cons] at short
    rw [Passable, Path.trail, List.forall_mem_cons] at passable
    unfold walk
    rw [step_of_found rooted here short.1]
    obtain absent | next := passable.2 _ (Path.start_mem_trail _ _)
    · rw [absent, if_pos rfl]
      exact .inr rfl
    · rw [next, if_neg (Option.some_ne_none _)]
      refine (ih short.2 next passable.2).imp_left fun paved => ?_
      rw [Paved, Path.trail, List.forall_mem_cons]
      exact ⟨here, paved⟩

end Walking

section Entering

variable {d : Disk} {path last : String} {before above : List String}

theorem splitLast_of_segments (parts : Path.segments path = before ++ [last]) (filled : last ≠ "") :
    splitLast path = some (before, last, false) := by
  unfold splitLast
  rw [parts]
  simp [filled]

theorem newEntry_notFound (fits : Fits path) (parts : Path.segments path = before ++ [last])
    (filled : last ≠ "") (walked : d.walk (d.start path) before = .error .notFound) :
    d.newEntry path = .error .notFound := by
  unfold newEntry
  rw [fits.acceptable (Path.ne_empty_of_segments parts filled), splitLast_of_segments parts filled]
  simp only [bind, Except.bind, walked]

theorem newEntry_step (fits : Fits path) (parts : Path.segments path = before ++ [last])
    (filled : last ≠ "") (walked : d.walk (d.start path) before = .ok above)
    (inside : d.at? above = some .directory) :
    d.newEntry path =
      .ok (above, if last = "." ∨ last = ".." then none else some last, false) := by
  have member : last ∈ Path.segments path := parts ▸ List.mem_append_right _ List.mem_cons_self
  have short := Nat.not_lt.mpr (fits.parts last member)
  unfold newEntry
  rw [fits.acceptable (Path.ne_empty_of_segments parts filled), splitLast_of_segments parts filled]
  simp only [bind, Except.bind, walked, inside, ne_eq, not_true_eq_false, if_false, short]
  split <;> rfl

theorem makeDirectory_notFound (fits : Fits path) (parts : Path.segments path = before ++ [last])
    (filled : last ≠ "") (walked : d.walk (d.start path) before = .error .notFound) :
    d.makeDirectory path = .error .notFound := by
  unfold makeDirectory
  rw [newEntry_notFound fits parts filled walked]
  rfl

theorem makeDirectory_step (rooted : d.Rooted) (fits : Fits path)
    (parts : Path.segments path = before ++ [last]) (filled : last ≠ "")
    (walked : d.walk (d.start path) before = .ok above) (inside : d.at? above = some .directory) :
    d.makeDirectory path =
      if d.at? (Path.enter above last) = none then .ok (d.put (Path.enter above last) .directory)
      else .error .exists := by
  have below := rooted.above inside
  unfold makeDirectory Path.enter
  rw [newEntry_step fits parts filled walked inside]
  by_cases here : last = "."
  · simp [here, inside, bind, Except.bind]
  · by_cases up : last = ".."
    · simp [up, below, bind, Except.bind]
    · simp only [filled, here, up, or_self, if_false, bind, Except.bind]
      cases d.at? (above ++ [last]) <;> rfl

theorem writeText_step (fits : Fits path) (parts : Path.segments path = before ++ [last])
    (normal : Path.Normal last) (walked : d.walk (d.start path) before = .ok above)
    (inside : d.at? above = some .directory) (free : d.at? (above ++ [last]) ≠ some .directory)
    (content : String) :
    d.writeText path content = .ok (d.put (above ++ [last]) (.file (some content))) := by
  unfold writeText
  rw [newEntry_step fits parts normal.filled walked inside]
  simp only [normal.moves, normal.descends, or_self, if_false, bind, Except.bind]

theorem isDirectory_of_paved (rooted : d.Rooted) (fits : Fits path) (filled : path ≠ "")
    (paved : d.Paved (Path.trail (d.start path) (Path.segments path))) :
    d.isDirectory path = true := by
  have last := paved _ (Path.end_mem_trail _ _)
  unfold isDirectory locate
  rw [fits.acceptable filled]
  simp only [bind, Except.bind, walk_paved rooted fits.parts paved, last]
  rfl

end Entering

section Making

variable {d later : Disk} {p : Path}

/-- A path that is written as its parts, and within the limits of a disk. -/
structure Sound (p : Path) : Prop where
  clean : p.Clean
  fits : Fits p.text

theorem Sound.above {last : Part} (sound : Sound (p.down last)) : Sound p := by
  have fewer : p.texts.Sublist (p.down last).texts := by
    rw [Path.texts_down]
    exact List.sublist_append_left _ _
  have clean : p.Clean :=
    ⟨fun part member => sound.clean.filled part (fewer.mem member),
      fun part member => sound.clean.single part (fewer.mem member)⟩
  have filled : (p.down last).parts ≠ [] :=
    List.append_ne_nil_of_right_ne_nil _ (List.cons_ne_nil _ _)
  have segments := sound.clean.segments_text filled
  refine ⟨clean, sound.fits.of_sublist ?_ ?_⟩
  · have shorter := Path.text_sublist fewer (by rw [Path.texts_down]; simp)
    have whole := Path.join_segments (p.down last).text
    rw [segments] at whole
    rwa [← whole]
  · intro part member
    rw [segments, List.mem_append]
    exact (clean.mem_segments_text member).imp_right fun inside => .inr (fewer.mem inside)

theorem start_text (clean : p.Clean) : d.start p.text = p.start d.current := by
  rw [start, clean.isAbsolute_text]
  rfl

/-- The disk with directories at these places. -/
structure Grown (d : Disk) (places : List (List String)) (later : Disk) : Prop where
  rooted : later.Rooted
  current : later.current = d.current
  found : ∀ place, later.at? place = if place ∈ places then some .directory else d.at? place

theorem Grown.of_paved (rooted : d.Rooted) {places : List (List String)} (paved : d.Paved places) :
    d.Grown places d := by
  refine ⟨rooted, rfl, ?_⟩
  intro place
  split
  · rename_i member
    exact paved place member
  · rfl

theorem Grown.paved {places : List (List String)} (grown : d.Grown places later) :
    later.Paved places := by
  intro place member
  rw [grown.found, if_pos member]

theorem Grown.trans {places more : List (List String)} {last : Disk} (grown : d.Grown places later)
    (grown' : later.Grown more last) (fewer : places ⊆ more) : d.Grown more last := by
  refine ⟨grown'.rooted, grown'.current.trans grown.current, ?_⟩
  intro place
  rw [grown'.found]
  split
  · rfl
  · rename_i other
    rw [grown.found, if_neg fun member => other (fewer member)]

/-- The directory that the file of a path goes into is a path of its own. -/
theorem parent_sound {path name : String} {front : List String}
    (parts : Path.segments path = front ++ [name]) (normal : Path.Normal name) (fits : Fits path) :
    ∃ p, (Path.ofText path).parent? = some p ∧ Sound p ∧ p.start d.current = d.start path ∧
      ∀ q, q ∈ p.way d.current ↔ q ∈ Path.trail (d.start path) front := by
  obtain ⟨p, same, absolute, ⟨rest, lead, fewer⟩, filled, meaning⟩ := Path.ofText_concat parts normal
  have start : p.start d.current = d.start path := by
    rw [Path.start, absolute]
    rfl
  have inside (part : String) (member : part ∈ p.texts) : part ∈ Path.segments path := by
    rw [parts, lead]
    exact List.mem_append_left _ (List.mem_append_right _ (fewer.mem member))
  have clean : p.Clean := ⟨filled, fun part member => Path.single_of_mem_segments (inside part member)⟩
  refine ⟨p, by rw [same, Path.parent_down], ⟨clean, fits.of_sublist ?_ ?_⟩, start, ?_⟩
  · have shorter := Path.text_sublist (fewer.trans (List.sublist_append_left rest [name])) (by simp)
    have whole := Path.join_segments path
    rw [parts, lead, List.append_assoc] at whole
    rwa [← whole]
  · intro part member
    exact (clean.mem_segments_text member).imp_right (inside part)
  · intro q
    rw [Path.way, start]
    exact meaning (d.start path) q

variable {last : Part}

theorem Sound.segments (sound : Sound (p.down last)) :
    Path.segments (p.down last).text = (p.lead ++ p.texts) ++ [Path.Part.text last] := by
  have filled : (p.down last).parts ≠ [] :=
    List.append_ne_nil_of_right_ne_nil _ (List.cons_ne_nil _ _)
  rw [sound.clean.segments_text filled, Path.texts_down, List.append_assoc]
  rfl

theorem Sound.filled (sound : Sound (p.down last)) : Path.Part.text last ≠ "" := by
  apply sound.clean.filled
  rw [Path.texts_down]
  exact List.mem_append_right _ List.mem_cons_self

theorem Sound.short (sound : Sound (p.down last)) :
    ∀ part ∈ p.lead ++ p.texts, nameBytes part ≤ longestName := by
  intro part member
  apply sound.fits.parts
  rw [sound.segments]
  exact List.mem_append_left _ member

theorem paved_lead {place parts : List String} (paved : d.Paved (Path.trail place parts)) :
    d.Paved (Path.trail place (p.lead ++ parts)) :=
  fun q member => paved q ((Path.mem_trail_lead p place parts).mp member)

theorem passable_lead {place parts : List String} (passable : d.Passable (Path.trail place parts)) :
    d.Passable (Path.trail place (p.lead ++ parts)) :=
  fun q member => passable q ((Path.mem_trail_lead p place parts).mp member)

/-- In a directory that is there, the last directory of a path is made, unless it is there already. -/
theorem makeDirectory_paved (rooted : d.Rooted) (sound : Sound (p.down last))
    (paved : d.Paved (p.way d.current)) :
    d.makeDirectory (p.down last).text =
      if d.at? ((p.down last).goal d.current) = none then
        .ok (d.put ((p.down last).goal d.current) .directory)
      else .error .exists := by
  have start : d.start (p.down last).text = p.start d.current := start_text sound.clean
  have walked := walk_paved rooted sound.short (paved_lead paved)
  rw [Path.foldl_lead, ← start] at walked
  rw [makeDirectory_step rooted sound.fits sound.segments sound.filled walked, start,
    Path.goal_down]
  · rfl
  · rw [start]
    exact paved _ (Path.goal_mem_way _ _)

theorem grown_put (rooted : d.Rooted) (sound : Sound (p.down last)) (paved : d.Paved (p.way d.current))
    (absent : d.at? ((p.down last).goal d.current) = none) :
    d.Grown ((p.down last).way d.current) (d.put ((p.down last).goal d.current) .directory) := by
  have made := (makeDirectory_paved rooted sound paved).trans (if_pos absent)
  have new : (p.down last).goal d.current ≠ [] := by
    intro root
    rw [root] at absent
    cases absent
  refine ⟨rooted.makeDirectory made, rfl, ?_⟩
  intro place
  rw [at?_put new, Path.way_down]
  by_cases here : place = (p.down last).goal d.current
  · rw [if_pos here, if_pos (List.mem_append_right _ (List.mem_singleton.mpr here))]
  · rw [if_neg here]
    split
    · rename_i member
      exact paved place ((List.mem_append.mp member).resolve_right (here <| List.mem_singleton.mp ·))
    · rfl

theorem isDirectory_way (rooted : d.Rooted) (sound : Sound (p.down last))
    (paved : d.Paved ((p.down last).way d.current)) :
    d.isDirectory (p.down last).text = true := by
  apply isDirectory_of_paved rooted sound.fits
  · exact Path.ne_empty_of_segments sound.segments sound.filled
  · rw [start_text sound.clean, sound.segments, List.append_assoc, ← Path.texts_down]
    exact paved_lead paved

/-- Asking for a directory whose directory is there gives it, and it is no matter if it is there too. -/
theorem make_paved (rooted : d.Rooted) (sound : Sound (p.down last)) (paved : d.Paved (p.way d.current))
    (passable : d.Passable ((p.down last).way d.current)) :
    ∃ answer later, (host.makeDirectory (p.down last).text).run d = (answer, later) ∧
      d.Grown ((p.down last).way d.current) later ∧
      (answer = .ok () ∨ answer = .error .exists ∧
        (host.unlessThere (p.down last).text .exists).run later = (.ok (), later)) := by
  have made := makeDirectory_paved rooted sound paved
  obtain absent | there := passable _ (Path.goal_mem_way _ _)
  · rw [if_pos absent] at made
    refine ⟨.ok (), _, ?_, grown_put rooted sound paved absent, .inl rfl⟩
    simp only [host, attempt, StateT.run, made]
  · have whole : d.Paved ((p.down last).way d.current) := by
      intro place member
      rw [Path.way_down, List.mem_append, List.mem_singleton] at member
      rcases member with before | rfl
      · exact paved place before
      · exact there
    rw [if_neg (by rw [there]; exact Option.some_ne_none _)] at made
    refine ⟨.error .exists, d, ?_, .of_paved rooted whole, .inr ⟨rfl, ?_⟩⟩
    · simp only [host, attempt, StateT.run, made]
    · have found : (host.isDirectory (p.down last).text).run d = (true, d) :=
        congrArg (·, d) (isDirectory_way rooted sound whole)
      rw [Host.unlessThere, run_bind_of found]
      rfl

theorem makeAll_bare (n : Nat) (d : Disk) (absolute : Bool) :
    (host.makeAll (n + 1) ⟨absolute, []⟩).run d = (.ok (), d) := by
  cases absolute with
  | false => rfl
  | true =>
    have refused : (host.makeDirectory "/").run d = (.error .exists, d) := rfl
    have text : Path.text ⟨true, []⟩ = "/" := by decide
    have filled : "/" ≠ "" := by decide
    rw [Host.makeAll, text, if_neg filled, run_bind_of refused]
    rfl

/-- All directories of a path can be made if no file is in the way. -/
theorem makeAll_grows {n : Nat} (size : p.parts.length < n) (rooted : d.Rooted) (sound : Sound p)
    (begins : d.at? (p.start d.current) = some .directory) (passable : d.Passable (p.way d.current)) :
    ∃ later, (host.makeAll n p).run d = (.ok (), later) ∧ d.Grown (p.way d.current) later := by
  induction n generalizing p with
  | zero => exact absurd size (Nat.not_lt_zero _)
  | succ n ih =>
    obtain bare | ⟨above, last, rfl⟩ := p.eq_bare_or_down
    · rw [bare] at begins ⊢
      exact ⟨d, makeAll_bare n d p.absolute, .of_paved rooted (List.forall_mem_singleton.mpr begins)⟩
    · have filled : (above.down last).text ≠ "" := Path.ne_empty_of_segments sound.segments sound.filled
      have before : above.way d.current ⊆ (above.down last).way d.current := by
        rw [Path.way_down]
        exact List.subset_append_left _ _
      have open' : d.Passable (above.way d.current) := fun place member => passable place (before member)
      obtain paved | missing := walk_passable rooted sound.short begins (passable_lead open')
      · have paved : d.Paved (above.way d.current) :=
          fun place member => paved place ((Path.mem_trail_lead _ _ _).mpr member)
        obtain ⟨answer, later, made, grown, done⟩ := make_paved rooted sound paved passable
        refine ⟨later, ?_, grown⟩
        rw [Host.makeAll, if_neg filled, run_bind_of made]
        rcases done with rfl | ⟨rfl, there⟩
        · rfl
        · exact there
      · -- the directory above comes first, and then this one is asked for again
        have refused : (host.makeDirectory (above.down last).text).run d = (.error .notFound, d) := by
          have absent := makeDirectory_notFound sound.fits sound.segments sound.filled
            ((start_text sound.clean).symm ▸ missing)
          simp only [host, attempt, StateT.run, absent]
        have size' : above.parts.length < n := by
          simp only [Path.down, List.length_append, List.length_singleton] at size
          omega
        obtain ⟨between, madeAbove, grown⟩ := ih size' sound.above begins open'
        have current := grown.current
        have passable' : between.Passable ((above.down last).way between.current) := by
          intro place member
          rw [current] at member
          rw [grown.found]
          split
          · exact .inr rfl
          · exact passable place member
        obtain ⟨answer, later, made, grown', done⟩ :=
          make_paved grown.rooted sound (current ▸ grown.paved) passable'
        rw [current] at grown'
        refine ⟨later, ?_, grown.trans grown' before⟩
        rw [Host.makeAll, if_neg filled, run_bind_of refused]
        simp only [Path.parent_down]
        rw [run_bind_of madeAbove]
        dsimp only
        rw [run_bind_of made]
        rcases done with rfl | ⟨rfl, there⟩
        · rfl
        · exact there

end Making

end Disk

end Retrofit
