import Mathlib.Data.List.Induction
import Retrofit.Proofs.Disk.Containment
import Retrofit.Proofs.Disk.Holdings
import Retrofit.Proofs.Disk.Making

/-! Files that are in the way of others. Below an empty root, the files of a batch can all be written if
and only if none of their paths goes through another of them. -/
namespace Retrofit

namespace Path

/-- The second path goes on where the first ends. -/
def Above (upper lower : String) : Prop := segments upper <+: segments lower ∧ upper ≠ lower

instance (upper lower : String) : Decidable (Above upper lower) :=
  inferInstanceAs (Decidable (_ ∧ _))

end Path

namespace Disk

variable {d : Disk}

/-- A file can be written if no file is in the way and there is no directory in its place. -/
theorem place_passable {path name : String} {front : List String}
    (parts : Path.segments path = front ++ [name]) (normal : Path.Normal name) (fits : Fits path)
    (rooted : d.Rooted) (begins : d.at? (d.start path) = some .directory)
    (passable : d.Passable (Path.trail (d.start path) front))
    (outside : front.foldl Path.enter (d.start path) ++ [name] ∉ Path.trail (d.start path) front)
    (free : d.at? (front.foldl Path.enter (d.start path) ++ [name]) ≠ some .directory)
    (content : String) :
    ∃ later, (host.place path content).run d = (.ok (), later) ∧ later.Rooted ∧
      later.current = d.current ∧
      ∀ place, later.at? place =
        if place = front.foldl Path.enter (d.start path) ++ [name] then some (.file (some content))
        else if place ∈ Path.trail (d.start path) front then some .directory
        else d.at? place := by
  obtain ⟨p, parent, sound, start, way⟩ := parent_sound (d := d) parts normal fits
  obtain ⟨between, made, grown⟩ := makeAll_grows (p := p) (Nat.lt_succ_self _) rooted sound
    (start ▸ begins) fun place member => passable place ((way place).mp member)
  have prepared : (host.prepare path).run d = (.ok (), between) := by
    unfold Host.prepare
    rw [parent]
    exact made
  have start' : between.start path = d.start path := by
    rw [Disk.start, grown.current]
    rfl
  have paved : between.Paved (Path.trail (between.start path) front) := by
    intro place member
    rw [start'] at member
    exact grown.paved place ((way place).mpr member)
  have short (part : String) (member : part ∈ front) : nameBytes part ≤ longestName :=
    fits.parts part (parts ▸ List.mem_append_left _ member)
  have walked := walk_paved grown.rooted short paved
  have inside := paved _ (Path.end_mem_trail _ _)
  have found (place : List String) : between.at? place =
      if place ∈ Path.trail (d.start path) front then some .directory else d.at? place := by
    simp only [grown.found, way]
  have free' : between.at? (front.foldl Path.enter (between.start path) ++ [name]) ≠
      some .directory := by
    rwa [start', found, if_neg outside]
  have wrote := writeText_step fits parts normal walked inside free' content
  refine ⟨_, ?_, grown.rooted.writeText wrote, grown.current, ?_⟩
  · rw [Host.place_run prepared]
    simp only [host, attempt, StateT.run, wrote]
  · intro place
    rw [at?_put (List.append_ne_nil_of_right_ne_nil _ (List.cons_ne_nil _ _)), start', found]

/-- Below a root there is nothing but these files and the directories that they are in. No file is in the
way to the root, and the way does not go through what is below it. -/
structure Stocked (d : Disk) (root : String) (files : List (String × String)) : Prop where
  begins : d.at? (d.start root) = some .directory
  passable : d.Passable (Path.trail (d.start root) (Path.segments root))
  aside : ∀ place ∈ Path.trail (d.start root) (Path.segments root),
    Path.location d.current root <+: place → place = Path.location d.current root
  below : ∀ front ≠ [], ∀ node, d.at? (Path.location d.current root ++ front) = some node →
    ∃ file ∈ files, front <+: Path.segments file.1 ∧
      (node = .directory ↔ front ≠ Path.segments file.1)

/-- The way to the root does not go below it. -/
theorem Stocked.below_of_mem {root : String} {files : List (String × String)}
    (stocked : d.Stocked root files) {front : List String}
    (member : Path.location d.current root ++ front ∈
      Path.trail (d.start root) (Path.segments root)) : front = [] := by
  have same := stocked.aside _ member (List.prefix_append _ _)
  simpa using same

theorem Stocked.more {root : String} {files more : List (String × String)}
    (stocked : d.Stocked root files) (fewer : files ⊆ more) : d.Stocked root more := by
  refine ⟨stocked.begins, stocked.passable, stocked.aside, ?_⟩
  intro front filled node here
  obtain ⟨file, member, found⟩ := stocked.below front filled node here
  exact ⟨file, fewer member, found⟩

section Joined

variable {root : String} {front inner : List String} {file : String × String} {name : String}

theorem foldl_front (above : Path.segments root = front ∨ Path.segments root = front ++ [""]) :
    front.foldl Path.enter (d.start root) = Path.location d.current root := by
  have whole : Path.location d.current root =
      (Path.segments root).foldl Path.enter (d.start root) := rfl
  rcases above with same | slash
  · rw [whole, same]
  · rw [whole, slash, List.foldl_append]
    rfl

/-- The places on the way to a file are those on the way to the root and those below it. -/
theorem mem_way_joined (normal : ∀ part ∈ inner, Path.Normal part)
    (above : Path.segments root = front ∨ Path.segments root = front ++ [""]) {place : List String}
    (member : place ∈ Path.trail (d.start root) (front ++ inner)) :
    place ∈ Path.trail (d.start root) (Path.segments root) ∨
      ∃ beginning, beginning <+: inner ∧ place = Path.location d.current root ++ beginning := by
  rw [Path.mem_trail_append, foldl_front above, Path.mem_trail_normal normal] at member
  refine member.imp_left fun before => ?_
  rcases above with same | slash
  · rwa [same]
  · rw [slash, Path.mem_trail_append]
    exact .inl before

/-- What the directories of a file begin with is not the file itself. -/
theorem beginning_ne (inside : Path.segments file.1 = inner ++ [name]) {beginning : List String}
    (begins : beginning <+: inner) :
    beginning <+: Path.segments file.1 ∧ beginning ≠ Path.segments file.1 := by
  rw [inside]
  refine ⟨begins.trans (List.prefix_append _ _), ?_⟩
  rintro rfl
  have size := begins.length_le
  rw [List.length_append, List.length_singleton] at size
  omega

variable {files : List (String × String)} (stocked : d.Stocked root files)
  (normal : ∀ part ∈ inner, Path.Normal part)
  (above : Path.segments root = front ∨ Path.segments root = front ++ [""])
  (inside : Path.segments file.1 = inner ++ [name])
include stocked normal above inside

theorem passable_joined (clear : ∀ other ∈ files, ¬ Path.Above other.1 file.1) :
    d.Passable (Path.trail (d.start root) (front ++ inner)) := by
  intro place member
  obtain before | ⟨beginning, begins, rfl⟩ := mem_way_joined normal above member
  · exact stocked.passable place before
  · by_cases empty : beginning = []
    · rw [empty, List.append_nil]
      exact stocked.passable _ (Path.end_mem_trail _ _)
    · cases here : d.at? (Path.location d.current root ++ beginning) with
      | none => exact .inl rfl
      | some node =>
        cases node with
        | directory => exact .inr rfl
        | file text =>
          obtain ⟨other, listed, -, whole⟩ := stocked.below beginning empty _ here
          have same : beginning = Path.segments other.1 := by
            by_contra longer
            cases whole.mpr longer
          obtain ⟨upper, other'⟩ := beginning_ne inside begins
          rw [same] at upper other'
          exact absurd ⟨upper, fun name => other' (congrArg Path.segments name)⟩ (clear other listed)

theorem outside_joined :
    Path.location d.current root ++ Path.segments file.1 ∉
      Path.trail (d.start root) (front ++ inner) := by
  intro member
  obtain before | ⟨beginning, begins, same⟩ := mem_way_joined normal above member
  · exact Path.segments_ne_nil _ (stocked.below_of_mem before)
  · exact (beginning_ne inside begins).2 (List.append_cancel_left same).symm

theorem stocked_placed {later : Disk} (current : later.current = d.current)
    (found : ∀ place, later.at? place =
      if place = Path.location d.current root ++ Path.segments file.1 then some (.file (some file.2))
      else if place ∈ Path.trail (d.start root) (front ++ inner) then some .directory
      else d.at? place) :
    later.Stocked root (file :: files) := by
  have start : later.start root = d.start root := by
    rw [Disk.start, current]
    rfl
  have outside := outside_joined stocked normal above inside
  refine ⟨?_, ?_, ?_, ?_⟩
  · have begun := Path.start_mem_trail (d.start root) (front ++ inner)
    have other : d.start root ≠ Path.location d.current root ++ Path.segments file.1 := by
      intro same
      rw [← same] at outside
      exact outside begun
    rw [start, found, if_neg other, if_pos begun]
  · intro place member
    rw [start] at member
    have other : place ≠ Path.location d.current root ++ Path.segments file.1 := by
      rintro rfl
      exact Path.segments_ne_nil _ (stocked.below_of_mem member)
    rw [found, if_neg other]
    split
    · exact .inr rfl
    · exact stocked.passable place member
  · rw [start, current]
    exact stocked.aside
  · rw [current]
    intro beginning filled node here
    rw [found] at here
    split at here
    · rename_i same
      obtain rfl := List.append_cancel_left same
      cases here
      -- this is the new file itself
      exact ⟨file, List.mem_cons_self, List.prefix_refl _, iff_of_false (by simp) (· rfl)⟩
    · split at here
      · rename_i member
        cases here
        -- a directory that was made for it
        refine ⟨file, List.mem_cons_self, ?_⟩
        obtain before | ⟨other, begins, same⟩ := mem_way_joined normal above member
        · exact absurd (stocked.below_of_mem before) filled
        · obtain rfl := List.append_cancel_left same
          exact (beginning_ne inside begins).imp_right fun shorter => iff_of_true rfl shorter
      · obtain ⟨other, listed, placed⟩ := stocked.below beginning filled node here
        exact ⟨other, List.mem_cons_of_mem _ listed, placed⟩

end Joined

/-- No file of these is in the way of another. -/
def Unobstructed (files : List (String × String)) : Prop :=
  ∀ upper ∈ files, ∀ lower ∈ files, ¬ Path.Above upper.1 lower.1

/-- Nothing speaks against storing these files below a root, one after the other and in any order, unless
they are in each other's way. -/
structure Ready (d : Disk) (root : String) (files : List (String × String)) : Prop where
  rooted : d.Rooted
  stocked : d.Stocked root files
  contained : ∀ file ∈ files, Path.Contained file.1
  fits : ∀ file ∈ files, Fits (Path.join root file.1)

variable {root : String} {files : List (String × String)}

theorem Ready.place (ready : d.Ready root files) (clear : Unobstructed files)
    {file : String × String} (member : file ∈ files) :
    ∃ later, (host.place (Path.join root file.1) file.2).run d = (.ok (), later) ∧
      later.Ready root files := by
  have contained := ready.contained file member
  have stocked := ready.stocked
  obtain ⟨front, parts, above, absolute⟩ := Path.segments_joined contained root
  obtain ⟨inner, name, inside⟩ : ∃ inner name, Path.segments file.1 = inner ++ [name] :=
    (List.eq_nil_or_concat' _).resolve_left (Path.segments_ne_nil file.1)
  have normal : ∀ part ∈ inner ++ [name], Path.Normal part := inside ▸ contained
  rw [List.forall_mem_append, List.forall_mem_singleton] at normal
  have start : d.start (Path.join root file.1) = d.start root := by
    rw [Disk.start, absolute]
    rfl
  have goal : (front ++ inner).foldl Path.enter (d.start root) ++ [name] =
      Path.location d.current root ++ Path.segments file.1 := by
    rw [List.foldl_append, foldl_front above, Path.foldl_enter_normal normal.1, inside,
      List.append_assoc]
  have passable := passable_joined stocked normal.1 above inside fun other listed =>
    clear other listed file member
  have outside := outside_joined stocked normal.1 above inside
  have free : d.at? (Path.location d.current root ++ Path.segments file.1) ≠ some .directory := by
    intro there
    obtain ⟨other, listed, begins, whole⟩ := stocked.below _ (Path.segments_ne_nil _) _ there
    exact clear file member other listed
      ⟨begins, fun same => whole.mp rfl (congrArg Path.segments same)⟩
  rw [← goal] at outside free
  rw [← start] at passable outside free
  obtain ⟨later, placed, rooted, current, found⟩ := place_passable
    (by rw [parts, inside, List.append_assoc]) normal.2 (ready.fits file member) ready.rooted
    (start ▸ stocked.begins) passable outside free file.2
  rw [start, goal] at found
  have more := (stocked_placed stocked normal.1 above inside current found).more
    (List.cons_subset.mpr ⟨member, List.Subset.refl files⟩)
  exact ⟨later, placed, rooted, more, ready.contained, ready.fits⟩

theorem Ready.writeFiles (ready : d.Ready root files) (clear : Unobstructed files)
    {chosen : List (String × String)} (inside : chosen ⊆ files) :
    ∃ events later, (host.writeFiles root chosen).run d = ((events, .ok ()), later) ∧
      later.Ready root files := by
  induction chosen generalizing d with
  | nil => exact ⟨[], d, rfl, ready⟩
  | cons file chosen ih =>
    obtain ⟨member, rest⟩ := List.cons_subset.mp inside
    obtain ⟨between, placed, ready'⟩ := ready.place clear member
    obtain ⟨events, later, wrote, ready''⟩ := ih ready' rest
    exact ⟨_, later, Host.writeFiles_ok placed wrote, ready''⟩

theorem Rooted.directory_of_prefix {upper lower : List String} {node : Node} (rooted : d.Rooted)
    (here : d.at? lower = some node) (begins : upper <+: lower) (shorter : upper ≠ lower) :
    d.at? upper = some .directory := by
  induction lower using List.reverseRecOn generalizing node with
  | nil => exact absurd (List.prefix_nil.mp begins) shorter
  | append_singleton lower name ih =>
    have above := rooted.above here
    rw [List.dropLast_concat] at above
    have before := (List.prefix_concat_iff.mp begins).resolve_left shorter
    by_cases same : upper = lower
    · rw [same, above]
    · exact ih above before same

/-- Files that are all there are not in each other's way. -/
theorem Rooted.unobstructed (rooted : d.Rooted) (contained : ∀ file ∈ files, Path.Contained file.1)
    (stored : ∀ file ∈ files, d.holdings.files (d.holdings.place root file) = some (some file.2)) :
    Unobstructed files := by
  have found {file : String × String} (member : file ∈ files) :
      d.at? (Path.location d.current root ++ Path.segments file.1) = some (.file (some file.2)) := by
    have here := stored file member
    rw [Layout.place_of_contained (contained file member)] at here
    simp only [holdings, fileText] at here
    split at here
    · rename_i text there
      rw [there, Option.some.inj here]
    · cases here
  rintro upper inside lower inside' ⟨begins, other⟩
  have directory := rooted.directory_of_prefix (found inside')
    ((List.prefix_append_right_inj _).mpr begins)
    (fun same => other (Path.segments_injective (List.append_cancel_left same)))
  rw [found inside] at directory
  cases directory

theorem host_preserves : host.Preserves Rooted where
  looked path d rooted := rooted
  made path := by
    intro d rooted
    cases made : d.makeDirectory path with
    | error r => simpa only [host, attempt, StateT.run, made] using rooted
    | ok later => simpa only [host, attempt, StateT.run, made] using rooted.makeDirectory made
  wrote path content := by
    intro d rooted
    cases wrote : d.writeText path content with
    | error r => simpa only [host, attempt, StateT.run, wrote] using rooted
    | ok later => simpa only [host, attempt, StateT.run, wrote] using rooted.writeText wrote

end Disk

namespace Layout

variable {base : String} {s : Source} {a : Artifacts}

/-- The directories below a base. -/
def directories : List String := ["modernized", "docs", "skeleton", "analysis"]

theorem files_paths (documented : a.Documented) (base : String) (s : Source) :
    ((files base s a).map (·.1)).Perm ((spots s a).map (below base)) := by
  rw [← entries_paths]
  exact (files_perm (entries_nodup documented base s)).map _

theorem segments_spot (documented : a.Documented) {spot : String × String} (member : spot ∈ spots s a) :
    Path.segments (below base spot) = Path.segments base ++ [spot.1, spot.2] := by
  have normal := spots_normal documented spot member
  exact Path.segments_below base normal.1.single normal.2.single

theorem mem_directories_iff (documented : a.Documented) (s : Source) {directory : String} :
    directory ∈ directories ↔ ∃ spot ∈ spots s a, spot.1 = directory := by
  have some : a.documents.length ≠ 0 := by
    rw [documented.length]
    split <;> decide
  have listed : (spots s a).map (·.1) =
      "modernized" :: List.replicate a.documents.length "docs" ++ ["skeleton", "analysis", "analysis"] := by
    simp [spots, Function.comp_def]
  rw [← List.mem_map, listed]
  simp [directories, some]

theorem directory_of_mem_files (documented : a.Documented) {file : String × String}
    (member : file ∈ files base s a) :
    ∃ directory ∈ directories, ∃ name,
      Path.segments file.1 = Path.segments base ++ [directory, name] := by
  have path := (files_paths documented base s).mem_iff.mp (List.mem_map_of_mem member)
  obtain ⟨spot, inside, same⟩ := List.mem_map.mp path
  refine ⟨spot.1, (mem_directories_iff documented s).mpr ⟨spot, inside, rfl⟩, spot.2, ?_⟩
  rw [← same, segments_spot documented inside]

/-- There is a file in each of the directories. -/
theorem exists_mem_files (documented : a.Documented) (base : String) (s : Source) {directory : String}
    (listed : directory ∈ directories) :
    ∃ file ∈ files base s a, ∃ name,
      Path.segments file.1 = Path.segments base ++ [directory, name] := by
  obtain ⟨spot, inside, rfl⟩ := (mem_directories_iff documented s).mp listed
  have path := (files_paths documented base s).mem_iff.mpr (List.mem_map_of_mem inside)
  obtain ⟨file, member, same⟩ := List.mem_map.mp path
  refine ⟨file, member, spot.2, ?_⟩
  rw [same, segments_spot documented inside]

theorem exists_readme (documented : a.Documented) (base : String) (s : Source) :
    ∃ file ∈ files base s a, file.1 = below base ("docs", Document.readmeName) := by
  have named : Document.readmeName ∈ a.documents.map (·.name) := by
    rw [documented.names]
    split <;> decide
  obtain ⟨d, listed, name⟩ := List.mem_map.mp named
  have spot : ("docs", Document.readmeName) ∈ spots s a := by
    rw [← name]
    exact List.mem_append_left _ (List.mem_cons_of_mem _ (List.mem_map_of_mem listed))
  have path := (files_paths documented base s).mem_iff.mpr (List.mem_map_of_mem spot)
  exact List.mem_map.mp path

end Layout

namespace Writing

variable {σ : Type} {host : Host (StateM σ)} {view : σ → Holdings} {root : String}
  {taken : List String} {before after : σ} {os : List Outcome} {w : Writing}

/-- What there is to write for a batch. -/
def planned (taken : List String) : List Outcome → List (String × String)
  | [] => []
  | o :: rest =>
    match o.result with
    | .error _ => planned taken rest
    | .ok a =>
      Layout.files (Layout.uniqueBase o.source taken) o.source a ++
        planned (Layout.uniqueBase o.source taken :: taken) rest

theorem planned_cons_error {o : Outcome} {f : StageFailure} (failed : o.result = .error f)
    (taken : List String) (rest : List Outcome) :
    planned taken (o :: rest) = planned taken rest := by
  rw [planned, failed]

theorem planned_cons_ok {o : Outcome} {a : Artifacts} (ok : o.result = .ok a) (taken : List String)
    (rest : List Outcome) :
    planned taken (o :: rest) = Layout.files (Layout.uniqueBase o.source taken) o.source a ++
      planned (Layout.uniqueBase o.source taken :: taken) rest := by
  rw [planned, ok]

/-- The files of a batch are those of its successes, each below the base that it is allotted. -/
theorem mem_planned {file : String × String} (member : file ∈ planned taken os) :
    ∃ base ∈ Layout.allot taken (succeededSources os), ∃ o ∈ os, ∃ a, o.result = .ok a ∧
      file ∈ Layout.files base o.source a := by
  induction os generalizing taken with
  | nil => cases member
  | cons o rest ih =>
    cases result : o.result with
    | error f =>
      rw [planned_cons_error result] at member
      obtain ⟨base, allotted, o', listed, found⟩ := ih member
      rw [succeededSources_cons_error result]
      exact ⟨base, allotted, o', List.mem_cons_of_mem _ listed, found⟩
    | ok a =>
      rw [planned_cons_ok result, List.mem_append] at member
      rw [succeededSources_cons_ok result, Layout.allot_cons]
      rcases member with here | later
      · exact ⟨_, List.mem_cons_self, o, List.mem_cons_self, a, result, here⟩
      · obtain ⟨base, allotted, o', listed, found⟩ := ih later
        exact ⟨base, List.mem_cons_of_mem _ allotted, o', List.mem_cons_of_mem _ listed, found⟩

theorem files_subset_planned {base : String}
    (allotted : base ∈ Layout.allot taken (succeededSources os)) :
    ∃ o ∈ os, ∃ a, o.result = .ok a ∧ Layout.files base o.source a ⊆ planned taken os := by
  induction os generalizing taken with
  | nil => cases allotted
  | cons o rest ih =>
    cases result : o.result with
    | error f =>
      rw [succeededSources_cons_error result] at allotted
      obtain ⟨o', listed, a, ok, inside⟩ := ih allotted
      rw [planned_cons_error result]
      exact ⟨o', List.mem_cons_of_mem _ listed, a, ok, inside⟩
    | ok a =>
      rw [succeededSources_cons_ok result, Layout.allot_cons, List.mem_cons] at allotted
      rw [planned_cons_ok result]
      rcases allotted with rfl | later
      · exact ⟨o, List.mem_cons_self, a, result, List.subset_append_left _ _⟩
      · obtain ⟨o', listed, a', ok, inside⟩ := ih later
        exact ⟨o', List.mem_cons_of_mem _ listed, a', ok,
          List.subset_append_of_subset_right _ inside⟩

section Documented

variable (documented : ∀ o ∈ os, ∀ a, o.result = .ok a → a.Documented)
include documented

/-- Every file of a batch has a path of its own. -/
theorem planned_distinct : (planned taken os).Pairwise fun x y => x.1 ≠ y.1 := by
  induction os generalizing taken with
  | nil => exact .nil
  | cons o rest ih =>
    obtain ⟨first, others⟩ := List.forall_mem_cons.mp documented
    cases result : o.result with
    | error f =>
      rw [planned_cons_error result]
      exact ih others
    | ok a =>
      rw [planned_cons_ok result, List.pairwise_append]
      refine ⟨?_, ih others, ?_⟩
      · refine (Layout.files_sorted _ _ _).imp fun before same => ?_
        rw [same] at before
        exact String.lt_irrefl _ before
      · rintro ⟨path, content⟩ here ⟨path', content'⟩ later rfl
        obtain ⟨base, allotted, o', listed, a', ok, there⟩ := mem_planned later
        have same := Layout.base_of_mem_files (first a result) (others o' listed a' ok) here there
        exact Layout.allot_free _ _ base allotted (same ▸ List.mem_cons_self)

/-- A file is in one of the directories below a base of the batch. -/
theorem directory_of_mem_planned {file : String × String} (member : file ∈ planned taken os) :
    ∃ base ∈ Layout.allot taken (succeededSources os), ∃ directory ∈ Layout.directories, ∃ name,
      Path.segments file.1 = Path.segments base ++ [directory, name] := by
  obtain ⟨base, allotted, o, listed, a, ok, here⟩ := mem_planned member
  exact ⟨base, allotted, Layout.directory_of_mem_files (documented o listed a ok) here⟩

/-- Files are in each other's way if and only if one of them is in the way of a directory that there are
others in. -/
theorem unobstructed_iff :
    Disk.Unobstructed (planned taken os) ↔
      ∀ file ∈ planned taken os, ∀ base ∈ Layout.allot taken (succeededSources os),
        ∀ directory ∈ Layout.directories,
          ¬ Path.segments file.1 <+: Path.segments base ++ [directory] := by
  refine ⟨?_, ?_⟩
  · intro clear file member base allotted directory known begins
    obtain ⟨o, listed, a, ok, inside⟩ := files_subset_planned allotted
    obtain ⟨lower, there, name, parts⟩ :=
      Layout.exists_mem_files (documented o listed a ok) base o.source known
    refine clear file member lower (inside there) ⟨?_, ?_⟩
    · rw [parts]
      exact begins.trans ⟨[name], by rw [List.append_assoc]; rfl⟩
    · intro same
      have size := begins.length_le
      rw [same, parts] at size
      simp at size
  · rintro clear upper member lower member' ⟨begins, other⟩
    obtain ⟨base, allotted, directory, known, name, parts⟩ :=
      directory_of_mem_planned documented member'
    have split : Path.segments lower.1 = Path.segments base ++ [directory] ++ [name] := by
      rw [parts, List.append_assoc]
      rfl
    have shorter : Path.segments upper.1 ≠ Path.segments lower.1 :=
      fun same => other (Path.segments_injective same)
    rw [split] at begins shorter
    exact clear upper member base allotted directory known
      ((List.prefix_concat_iff.mp begins).resolve_left shorter)

/-- Files are not in each other's way if no base is in one of the directories below another. -/
theorem unobstructed_of_bases
    (outside : ∀ upper ∈ Layout.allot taken (succeededSources os), ∀ directory ∈ Layout.directories,
      ∀ lower ∈ Layout.allot taken (succeededSources os),
        ¬ Path.segments upper ++ [directory] <+: Path.segments lower) :
    Disk.Unobstructed (planned taken os) := by
  rw [unobstructed_iff documented]
  intro file member lower allotted directory' known' begins
  obtain ⟨upper, allotted', directory, known, name, parts⟩ :=
    directory_of_mem_planned documented member
  refine outside upper allotted' directory known lower allotted ?_
  rw [parts] at begins
  -- the file is two steps below its base, so that the other base is one step below it at least
  have size := begins.length_le
  have first : Path.segments upper ++ [directory] <+: Path.segments upper ++ [directory, name] :=
    ⟨[name], by rw [List.append_assoc]; rfl⟩
  refine List.prefix_of_prefix_length_le (first.trans begins) (List.prefix_append _ _) ?_
  simp only [List.length_append, List.length_cons, List.length_nil] at size ⊢
  omega

theorem contained_of_mem_planned
    (contained : ∀ base ∈ Layout.allot taken (succeededSources os), Path.Contained base)
    {file : String × String} (member : file ∈ planned taken os) : Path.Contained file.1 := by
  obtain ⟨base, allotted, o, listed, a, ok, here⟩ := mem_planned member
  exact Layout.contained_of_mem_files (contained base allotted) (documented o listed a ok) here

end Documented

/-- If nothing is refused, all that was planned is stored. -/
theorem Course.storeAll (keeps : host.Keeps view) (course : Course host root taken before os w after)
    (kept : w.outcomes = os) : view after = (view before).storeAll root (planned taken os) := by
  induction course with
  | done => rfl
  | failed taken before o f rest later after already course ih =>
    rw [planned_cons_error already]
    exact ih (List.cons.inj kept).2
  | kept taken before o a base events between rest later after ok allotted stored course ih =>
    obtain ⟨written, none, whole, -, seen, complete⟩ := keeps.writeFiles stored
    rw [complete.mp rfl, List.append_nil] at whole
    rw [ih (List.cons.inj kept).2, seen, planned_cons_ok ok, allotted, whole]
    exact (List.foldl_append).symm
  | refused taken before o a base events r between rest later after ok allotted stopped course ih =>
    rw [← (List.cons.inj kept).1] at ok
    cases ok

theorem Course.preserves {P : σ → Prop} (preserves : host.Preserves P)
    (course : Course host root taken before os w after) (holds : P before) : P after := by
  induction course with
  | done => exact holds
  | failed taken before o f rest later after already course ih => exact ih holds
  | kept taken before o a base events between rest later after ok allotted stored course ih =>
    have kept := preserves.writeFiles root (Layout.files base o.source a) before holds
    rw [stored] at kept
    exact ih kept
  | refused taken before o a base events r between rest later after ok allotted stopped course ih =>
    have kept := preserves.writeFiles root (Layout.files base o.source a) before holds
    rw [stopped] at kept
    exact ih kept

theorem Course.ready {files : List (String × String)} {d later : Disk}
    (course : Course Disk.host root taken d os w later) (ready : d.Ready root files)
    (clear : Disk.Unobstructed files) (inside : planned taken os ⊆ files) : w.outcomes = os := by
  induction course with
  | done => rfl
  | failed taken before o f rest later after already course ih =>
    rw [planned_cons_error already] at inside
    exact congrArg (o :: ·) (ih ready inside)
  | kept taken before o a base events between rest later after ok allotted stored course ih =>
    rw [planned_cons_ok ok, allotted, List.append_subset] at inside
    obtain ⟨events', between', wrote, ready'⟩ := ready.writeFiles clear inside.1
    cases stored.symm.trans wrote
    exact congrArg (o :: ·) (ih ready' inside.2)
  | refused taken before o a base events r between rest later after ok allotted stopped course ih =>
    rw [planned_cons_ok ok, allotted, List.append_subset] at inside
    obtain ⟨events', between', wrote, -⟩ := ready.writeFiles clear inside.1
    cases stopped.symm.trans wrote

section Written

variable {d later : Disk} (course : Course Disk.host root [] d os w later)
  (documented : ∀ o ∈ os, ∀ a, o.result = .ok a → a.Documented)
  (contained : ∀ base ∈ Layout.allot [] (succeededSources os), Path.Contained base)
  (kept : w.outcomes = os)
include course documented contained kept

theorem Course.stored_planned : ∀ file ∈ planned [] os,
    later.holdings.files (d.holdings.place root file) = some (some file.2) := by
  intro file member
  rw [course.storeAll Disk.host_keeps kept]
  refine Holdings.storeAll_stored ?_ member
  refine (planned_distinct documented).imp_of_mem fun inside inside' other same => other ?_
  exact Layout.path_of_place (contained_of_mem_planned documented contained inside)
    (contained_of_mem_planned documented contained inside') same

theorem Course.unobstructed (rooted : d.Rooted) : Disk.Unobstructed (planned [] os) := by
  have current : later.holdings.current = d.holdings.current := by
    rw [course.storeAll Disk.host_keeps kept, Holdings.storeAll_current]
  have stored : ∀ file ∈ planned [] os,
      later.holdings.files (later.holdings.place root file) = some (some file.2) := by
    intro file member
    rw [Holdings.place, current]
    exact course.stored_planned documented contained kept file member
  exact (course.preserves Disk.host_preserves rooted).unobstructed
    (fun file member => contained_of_mem_planned documented contained member) stored

end Written

/-- Below an empty root, all files of a batch are written if and only if none of them is in the way of
another: that is, in the way of a directory that others go into. That is so if no base is in one of the
directories below another. -/
theorem written_iff_unobstructed {d : Disk} (rooted : d.Rooted) (vacant : d.Stocked root [])
    (documented : ∀ o ∈ os, ∀ a, o.result = .ok a → a.Documented)
    (contained : ∀ base ∈ Layout.allot [] (succeededSources os), Path.Contained base)
    (fits : ∀ file ∈ planned [] os, Disk.Fits (Path.join root file.1)) :
    let bases := Layout.allot [] (succeededSources os)
    let run := (writeAll Disk.host root [] os).run d
    (run.1.outcomes = os ↔ Disk.Unobstructed (planned [] os)) ∧
    (Disk.Unobstructed (planned [] os) →
      run.1.written.map (·.base) = bases ∧
      List.Forall₂ (Accounts Disk.host root) (os.filter (·.succeeded)) run.1.written ∧
      ∀ file ∈ planned [] os,
        run.2.holdings.files (d.holdings.place root file) = some (some file.2)) ∧
    (Disk.Unobstructed (planned [] os) ↔
      ∀ file ∈ planned [] os, ∀ base ∈ bases, ∀ directory ∈ Layout.directories,
        ¬ Path.segments file.1 <+: Path.segments base ++ [directory]) ∧
    ((∀ upper ∈ bases, ∀ directory ∈ Layout.directories, ∀ lower ∈ bases,
        ¬ Path.segments upper ++ [directory] <+: Path.segments lower) →
      Disk.Unobstructed (planned [] os)) := by
  intro bases run
  have course : Course Disk.host root [] d os run.1 run.2 := writeAll_course Disk.host root [] os d
  have ready : d.Ready root (planned [] os) :=
    ⟨rooted, vacant.more (List.nil_subset _),
      fun file member => contained_of_mem_planned documented contained member, fits⟩
  have complete (clear : Disk.Unobstructed (planned [] os)) : run.1.outcomes = os :=
    course.ready ready clear (List.Subset.refl _)
  refine ⟨⟨fun kept => course.unobstructed documented contained kept rooted, complete⟩, ?_,
    unobstructed_iff documented, unobstructed_of_bases documented⟩
  intro clear
  have kept := complete clear
  have accounts := course.accounts
  rw [kept] at accounts
  refine ⟨course.bases.eq_of_length ?_, accounts, course.stored_planned documented contained kept⟩
  rw [List.length_map, Layout.allot_length, List.length_map, accounts.length_eq]

def empty : Disk := ⟨[], []⟩

/-- Files that were read from these paths and that all went well. -/
def batch (paths : List String) : List Outcome :=
  paths.map fun path : String => ⟨.ofFile path "python" "", .ok Layout.intruding⟩

theorem batch_documented (paths : List String) :
    ∀ o ∈ batch paths, ∀ a, o.result = .ok a → a.Documented := by
  intro o member a ok
  obtain ⟨path, -, rfl⟩ := List.mem_map.mp member
  cases ok
  exact Artifacts.documented_of _ _ _

theorem batch_named {paths : List String}
    (last : ∀ path ∈ paths, (RawPath.ofText path).fileName?.isSome = true) :
    ∀ o ∈ batch paths, o.source.Named := by
  intro o member
  obtain ⟨path, listed, rfl⟩ := List.mem_map.mp member
  obtain ⟨name, found⟩ := Option.isSome_iff_exists.mp (last path listed)
  exact Source.named_ofFile found _ _

theorem empty_stocked : empty.Stocked "out" [] where
  begins := by decide
  passable := by decide
  aside := by decide
  below := by
    intro front filled node here
    cases here

/-- The base of the second file is below that of the first. -/
def nested : List Outcome := batch ["lib/a.py", "lib/a/b.py"]

theorem nested_bases : Layout.allot [] (succeededSources nested) = ["lib/a", "lib/a/b"] := by
  decide +kernel

theorem nested_fits : ∀ file ∈ planned [] nested, Disk.Fits (Path.join "out" file.1) := by
  decide +kernel

theorem written_iff_unobstructed_nested :
    empty.Rooted ∧ empty.Stocked "out" [] ∧
      (∀ o ∈ nested, ∀ a, o.result = .ok a → a.Documented) ∧
      (∀ base ∈ Layout.allot [] (succeededSources nested), Path.Contained base) ∧
      (∀ file ∈ planned [] nested, Disk.Fits (Path.join "out" file.1)) ∧
      ((writeAll Disk.host "out" [] nested).run empty).1.outcomes = nested ∧
      ((writeAll Disk.host "out" [] nested).run empty).1.written.map (·.base) =
        ["lib/a", "lib/a/b"] := by
  have rooted : empty.Rooted := by decide
  have documented : ∀ o ∈ nested, ∀ a, o.result = .ok a → a.Documented := batch_documented _
  have contained : ∀ base ∈ Layout.allot [] (succeededSources nested), Path.Contained base := by
    rw [nested_bases]
    decide
  obtain ⟨whole, reports, -, apart⟩ :=
    written_iff_unobstructed rooted empty_stocked documented contained nested_fits
  have clear : Disk.Unobstructed (planned [] nested) := by
    apply apart
    rw [nested_bases]
    decide
  have bases := (reports clear).1
  rw [nested_bases] at bases
  exact ⟨rooted, empty_stocked, documented, contained, nested_fits, whole.mpr clear, bases⟩

/-- The base of the second file is where the first has an artifact. -/
def overlaid : List Outcome := batch ["lib/a.py", "lib/a/docs/README.md.py"]

theorem overlaid_bases :
    Layout.allot [] (succeededSources overlaid) = ["lib/a", "lib/a/docs/README.md"] := by
  decide +kernel

theorem overlaid_obstructed :
    (∀ o ∈ overlaid, o.source.Named) ∧ (∀ o ∈ overlaid, ∀ a, o.result = .ok a → a.Documented) ∧
      Layout.allot [] (succeededSources overlaid) = ["lib/a", "lib/a/docs/README.md"] ∧
      (∀ base ∈ ["lib/a", "lib/a/docs/README.md"], Path.Contained base) ∧
      (∃ upper ∈ planned [] overlaid, ∃ lower ∈ planned [] overlaid,
        upper.1 = "lib/a/docs/README.md" ∧ lower.1 = "lib/a/docs/README.md/docs/README.md" ∧
          Path.Above upper.1 lower.1) ∧
      empty.Rooted ∧ empty.Stocked "out" [] ∧
      ((writeAll Disk.host "out" [] overlaid).run empty).1.outcomes ≠ overlaid := by
  have named : ∀ o ∈ overlaid, o.source.Named := batch_named (by decide)
  have documented : ∀ o ∈ overlaid, ∀ a, o.result = .ok a → a.Documented := batch_documented _
  have contained : ∀ base ∈ ["lib/a", "lib/a/docs/README.md"], Path.Contained base := by decide
  have rooted : empty.Rooted := by decide
  have readme {base : String} (allotted : base ∈ ["lib/a", "lib/a/docs/README.md"]) :
      ∃ file ∈ planned [] overlaid, file.1 = Layout.below base ("docs", "README.md") := by
    rw [← overlaid_bases] at allotted
    obtain ⟨o, listed, a, ok, inside⟩ := files_subset_planned allotted
    obtain ⟨file, member, path⟩ := Layout.exists_readme (documented o listed a ok) base o.source
    exact ⟨file, inside member, path⟩
  obtain ⟨upper, member, path⟩ := readme (List.mem_cons_self)
  obtain ⟨lower, member', path'⟩ := readme (List.mem_cons_of_mem _ List.mem_cons_self)
  have path : upper.1 = "lib/a/docs/README.md" := path.trans (by decide)
  have path' : lower.1 = "lib/a/docs/README.md/docs/README.md" := path'.trans (by decide)
  have above : Path.Above upper.1 lower.1 := by
    rw [path, path']
    decide
  refine ⟨named, documented, overlaid_bases, contained,
    ⟨upper, member, lower, member', path, path', above⟩, rooted, empty_stocked, ?_⟩
  intro kept
  have course := writeAll_course Disk.host "out" [] overlaid empty
  exact course.unobstructed documented (overlaid_bases ▸ contained) kept rooted upper member lower
    member' above

end Writing

end Retrofit
