import Mathlib.Data.List.TakeWhile
import Retrofit.Proofs.Disk.RawPath

/-! Which paths can be read. On a disk that is a tree, a path that ends with no name leads to a directory,
and a directory has no text. -/
namespace Retrofit

namespace Path

theorem segments_ne_nil (text : String) : segments text ≠ [] := by
  intro empty
  exact Chars.splitWhere_ne_nil _ _ (List.map_eq_nil_iff.mp empty)

theorem getLast?_partsOf_cons {segment : String} {rest : List String} {part : Part}
    (last : (partsOf rest).getLast? = some part) :
    (partsOf (segment :: rest)).getLast? = some part := by
  have behind (first : Part) : (first :: partsOf rest).getLast? = some part := by
    rw [List.getLast?_cons, last]
    rfl
  unfold partsOf
  split
  · exact last
  · split <;> exact behind _

end Path

namespace Disk

/-- Everything on the disk is in a directory. -/
def Rooted (d : Disk) : Prop :=
  ∀ entry ∈ d.nodes, d.at? entry.1.dropLast = some .directory

instance (d : Disk) : Decidable d.Rooted :=
  inferInstanceAs (Decidable (∀ entry ∈ d.nodes, d.at? entry.1.dropLast = some .directory))

variable {d : Disk}

theorem Rooted.above {place : List String} {node : Node} (rooted : d.Rooted)
    (here : d.at? place = some node) : d.at? place.dropLast = some .directory := by
  unfold at? at here
  split at here
  · rename_i root
    rw [root]
    rfl
  · obtain ⟨before, behind, nodes, -⟩ := List.lookup_eq_some_iff.mp here
    apply rooted (place, node)
    rw [nodes]
    exact List.mem_append_right _ List.mem_cons_self

theorem Rooted.step {place next : List String} {segment : String} (rooted : d.Rooted)
    (ok : d.step place segment = .ok next) :
    Path.partsOf [segment] = [.name segment] ∨ d.at? next = some .directory := by
  unfold Disk.step at ok
  unfold Path.partsOf
  split at ok
  · cases ok
  · cases ok
  · rename_i here
    by_cases still : segment = "" ∨ segment = "."
    · rw [if_pos still] at ok
      cases ok
      exact .inr here
    · rw [if_neg still] at ok ⊢
      by_cases up : segment = ".."
      · rw [if_pos up] at ok
        cases ok
        exact .inr (rooted.above here)
      · rw [if_neg up]
        exact .inl rfl

theorem Rooted.walk {parts place found : List String} {text : Option String} (rooted : d.Rooted)
    (ok : d.walk place parts = .ok found) (file : d.at? found = some (.file text)) :
    parts = [] ∨ ∃ name, (Path.partsOf parts).getLast? = some (.name name) := by
  induction parts generalizing place with
  | nil => exact .inl rfl
  | cons part parts ih =>
    unfold Disk.walk at ok
    split at ok
    · rename_i next stepped
      obtain rfl | ⟨name, last⟩ := ih ok
      · -- the last step has to go to a name, as all others end in a directory
        cases ok
        obtain named | inside := rooted.step stepped
        · rw [named]
          exact .inr ⟨part, rfl⟩
        · rw [inside] at file
          cases file
      · exact .inr ⟨name, Path.getLast?_partsOf_cons last⟩
    · cases ok

/-- A path whose text can be read ends with a name. -/
theorem Rooted.fileName {path text : String} (rooted : d.Rooted) (ok : d.readText path = .ok text) :
    ∃ name, (RawPath.ofText path).fileName? = some name := by
  unfold readText at ok
  cases located : d.locate path with
  | error r =>
    rw [located] at ok
    cases ok
  | ok found =>
    rw [located] at ok
    obtain ⟨text, file⟩ : ∃ text, d.at? found = some (.file text) := by
      simp only [bind, Except.bind] at ok
      split at ok
      · rename_i here
        exact ⟨_, here⟩
      all_goals cases ok
    obtain empty | ⟨name, last⟩ := rooted.walk (walk_of_locate located) file
    · exact absurd empty (Path.segments_ne_nil path)
    · exact ⟨_, RawPath.fileName?_of_partsOf last⟩

@[simp]
theorem readFile_ofText (d : Disk) (path : String) : d.readFile (RawPath.ofText path) = d.readText path := by
  rw [readFile, RawPath.text?_ofText]

theorem lookup_others {place location : List String} (other : place ≠ location)
    (nodes : List (List String × Node)) :
    (nodes.filter (·.1 ≠ location)).lookup place = nodes.lookup place := by
  induction nodes with
  | nil => rfl
  | cons entry nodes ih =>
    obtain ⟨key, node⟩ := entry
    by_cases gone : key = location
    · rw [List.filter_cons_of_neg (by simpa using gone), ih, List.lookup_cons,
        beq_eq_false_iff_ne.mpr (gone ▸ other)]
    · rw [List.filter_cons_of_pos (by simpa using gone), List.lookup_cons, List.lookup_cons, ih]

theorem at?_put {location : List String} (filled : location ≠ []) (node : Node) (place : List String) :
    (d.put location node).at? place = if place = location then some node else d.at? place := by
  unfold at?
  by_cases root : place = []
  · rw [if_pos root, if_pos root, if_neg (root ▸ filled.symm)]
  · rw [if_neg root, if_neg root, put]
    by_cases same : place = location
    · rw [if_pos same, same, List.lookup_cons_self]
    · rw [if_neg same, List.lookup_cons, beq_eq_false_iff_ne.mpr same]
      exact lookup_others same d.nodes

theorem Rooted.put {above : List String} {name : String} {node : Node} (rooted : d.Rooted)
    (inside : d.at? above = some .directory) (free : d.at? (above ++ [name]) ≠ some .directory) :
    (d.put (above ++ [name]) node).Rooted := by
  have other {place : List String} (here : d.at? place = some .directory) :
      (d.put (above ++ [name]) node).at? place = some .directory := by
    rw [at?_put (List.append_ne_nil_of_right_ne_nil _ (List.cons_ne_nil _ _)), if_neg, here]
    rintro rfl
    exact free here
  intro entry member
  rcases List.mem_cons.mp member with rfl | old
  · rw [List.dropLast_concat]
    exact other inside
  · exact other (rooted entry (List.mem_filter.mp old).1)

/-! New entries -/

theorem foldl_enter_blank {blanks : List String} (blank : ∀ part ∈ blanks, part = "")
    (place : List String) : blanks.foldl Path.enter place = place := by
  induction blanks with
  | nil => rfl
  | cons part blanks ih =>
    obtain ⟨rfl, later⟩ := List.forall_mem_cons.mp blank
    exact ih later

theorem segments_of_splitLast {path last : String} {before : List String} {slash : Bool}
    (cut : splitLast path = some (before, last, slash)) :
    last ≠ "" ∧ ∃ blanks, (∀ part ∈ blanks, part = "") ∧
      Path.segments path = before ++ last :: blanks := by
  unfold splitLast at cut
  dsimp only at cut
  split at cut
  · cases cut
  · rename_i front found
    cases cut
    refine ⟨?_, ((Path.segments path).reverse.takeWhile (· == "")).reverse, ?_, ?_⟩
    · have stopped := List.head?_dropWhile_not (· == "") (Path.segments path).reverse
      simpa [found] using stopped
    · intro part member
      have blank := List.mem_takeWhile_imp (List.mem_reverse.mp member)
      exact eq_of_beq blank
    · have whole := List.takeWhile_append_dropWhile (p := (· == "")) (l := (Path.segments path).reverse)
      rw [found] at whole
      have turned := congrArg List.reverse whole
      simpa using turned.symm

/-- A new entry comes into a directory, where the text of the path says. -/
theorem newEntry_some {path name : String} {above : List String} {slash : Bool}
    (ok : d.newEntry path = .ok (above, some name, slash)) :
    Path.location d.current path = above ++ [name] ∧ d.at? above = some .directory := by
  simp only [newEntry, bind, Except.bind, pure, Except.pure, throw, throwThe, MonadExceptOf.throw] at ok
  split at ok
  · cases ok
  split at ok
  · cases ok
  rename_i before last slash' cut
  split at ok
  · cases ok
  rename_i found walked
  split at ok
  · cases ok
  rename_i inside
  split at ok
  · cases ok
  rename_i named
  split at ok
  · cases ok
  cases ok
  rw [not_or] at named
  obtain ⟨filled, blanks, blank, parts⟩ := segments_of_splitLast cut
  have entered : Path.enter above name = above ++ [name] := by
    simp [Path.enter, filled, named.1, named.2]
  refine ⟨?_, Decidable.of_not_not inside⟩
  rw [Path.location, parts, List.foldl_append, List.foldl_cons, foldl_enter_blank blank, ← entered]
  exact congrArg (Path.enter · name) (foldl_enter_of_walk walked).symm

theorem makeDirectory_ok {path : String} {later : Disk} (ok : d.makeDirectory path = .ok later) :
    ∃ above name, Path.location d.current path = above ++ [name] ∧ d.at? above = some .directory ∧
      d.at? (above ++ [name]) = none ∧ later = d.put (above ++ [name]) .directory := by
  simp only [Disk.makeDirectory, bind, Except.bind] at ok
  split at ok
  · cases ok
  rename_i entry
  split at ok
  · cases ok
  · obtain ⟨place, inside⟩ := newEntry_some entry
    split at ok
    · cases ok
    · rename_i absent
      cases ok
      exact ⟨_, _, place, inside, absent, rfl⟩

theorem writeText_ok {path content : String} {later : Disk} (ok : d.writeText path content = .ok later) :
    ∃ above name, Path.location d.current path = above ++ [name] ∧ d.at? above = some .directory ∧
      d.at? (above ++ [name]) ≠ some .directory ∧
      later = d.put (above ++ [name]) (.file (some content)) := by
  simp only [Disk.writeText, bind, Except.bind] at ok
  split at ok
  · cases ok
  rename_i entry
  split at ok
  · cases ok
  · cases ok
  · obtain ⟨place, inside⟩ := newEntry_some entry
    split at ok
    · cases ok
    · rename_i other
      cases ok
      exact ⟨_, _, place, inside, other, rfl⟩

theorem Rooted.makeDirectory {path : String} {later : Disk} (rooted : d.Rooted)
    (ok : d.makeDirectory path = .ok later) : later.Rooted := by
  obtain ⟨above, name, -, inside, absent, rfl⟩ := makeDirectory_ok ok
  apply rooted.put inside
  rw [absent]
  exact nofun

theorem Rooted.writeText {path content : String} {later : Disk} (rooted : d.Rooted)
    (ok : d.writeText path content = .ok later) : later.Rooted := by
  obtain ⟨above, name, -, inside, other, rfl⟩ := writeText_ok ok
  exact rooted.put inside other

end Disk

end Retrofit
