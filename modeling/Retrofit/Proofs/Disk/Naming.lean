import Retrofit.Proofs.Disk.Containment
import Retrofit.Proofs.Disk.Rooted
import Retrofit.Proofs.Report.Feedback
import Retrofit.Proofs.Run.Batch

/-! What tells the files apart that are read. A source is called by the names on its path as far as they can
be read as text. Steps up and the root leave no trace, and names that are no text may be read alike: files
are mixed up whose paths have names on them that read the same, and no others. -/
namespace Retrofit

theorem Text.join_concat (sep last : String) {parts : List String} (filled : parts ≠ []) :
    Text.join sep (parts ++ [last]) = Text.join sep parts ++ sep ++ last := by
  induction parts with
  | nil => exact absurd rfl filled
  | cons part rest ih =>
    cases rest with
    | nil => rfl
    | cons next rest =>
      have later := ih (List.cons_ne_nil next rest)
      simp only [List.cons_append, Text.join] at later ⊢
      rw [later]
      simp only [String.append_assoc]

namespace RawPath

/-- The path starts where the program runs, and does not step up. -/
structure Descending (p : RawPath) : Prop where
  relative : p.components.absolute = false
  down : .up ∉ p.components.parts

/-- Every name on the path is text. -/
def Spelled (p : RawPath) : Prop :=
  ∀ name ∈ p.names, ∃ s, name = Octets.ofText s

theorem components_of_descending {p : RawPath} (descending : p.Descending) :
    p.components = ⟨false, p.names.map .name⟩ := by
  obtain ⟨relative, down⟩ := descending
  unfold names
  generalize p.components = all at relative down ⊢
  obtain ⟨absolute, parts⟩ := all
  cases relative
  congr 1
  induction parts with
  | nil => rfl
  | cons part parts ih =>
    rw [List.mem_cons, not_or] at down
    cases part with
    | up => exact absurd rfl down.1
    | name octets => exact congrArg (.name octets :: ·) (ih down.2)

theorem ofText_read {names : List (List UInt8)} (spelled : ∀ name ∈ names, ∃ s, name = Octets.ofText s) :
    (names.map Octets.text).map Octets.ofText = names := by
  rw [List.map_map]
  refine (List.map_congr_left ?_).trans (List.map_id names)
  intro name member
  obtain ⟨s, rfl⟩ := spelled name member
  rw [Function.comp_apply, Octets.text_ofText, id]

end RawPath

namespace Source

variable {path : RawPath} {name : List UInt8} {s s' : Source}

theorem path_ofFile (last : path.fileName? = some name) (language code : String) :
    (ofFile path language code).path = Text.join "/" (path.names.map Octets.text) := by
  rw [RawPath.names_of_fileName last, List.map_append, List.map_singleton, ofFile, last, folderOf]
  cases folder : path.above with
  | nil => simp [Source.path, Text.join]
  | cons first rest =>
    rw [Text.join_concat _ _ (by simp)]
    simp [Source.path, toString]

theorem segments_path_ofFile (last : path.fileName? = some name) (language code : String) :
    Path.segments (ofFile path language code).path = path.names.map Octets.text := by
  rw [path_ofFile last]
  apply segments_folder
  · rw [RawPath.names_of_fileName last]
    exact List.append_ne_nil_of_right_ne_nil _ (List.cons_ne_nil _ _)
  · exact fun _ member => RawPath.clean_of_mem_names (fun _ inside => inside) member

/-- The parts of the folder of a source. -/
def folderParts (s : Source) : List String :=
  match s.folder with
  | some folder => Path.segments folder
  | none => []

theorem Named.segments_append (named : s.Named) (more : String) (single : '/' ∉ more.toList) :
    Path.segments (s.path ++ more) = s.folderParts ++ [s.filename ++ more] := by
  have last : '/' ∉ (s.filename ++ more).toList := by
    rw [String.toList_append, List.mem_append, not_or]
    exact ⟨named.filename.single, single⟩
  unfold Source.path folderParts
  cases s.folder with
  | none => exact Path.segments_of_single last
  | some folder =>
    change Path.segments (folder ++ "/" ++ s.filename ++ more) = _
    rw [String.append_assoc, Path.segments_append, Path.segments_of_single last]

theorem Named.segments_path (named : s.Named) :
    Path.segments s.path = s.folderParts ++ [s.filename] := by
  have parts := named.segments_append "" (by decide)
  rwa [String.append_empty, String.append_empty] at parts

end Source

namespace Recording

variable {s s' : Source}

/-- What the name of a recording has behind the name of its source. -/
def ending (stage : Stage) : String := "." ++ stage.tag ++ ".json"

theorem path_eq (root source : String) (stage : Stage) :
    path root source stage = Path.join root (source ++ ending stage) := by
  unfold path ending
  rw [← String.append_assoc, ← String.append_assoc]
  rfl

theorem ending_single (stage : Stage) : '/' ∉ (ending stage).toList := by
  cases stage <;> decide

theorem append_ending_injective {name name' : String} {stage stage' : Stage}
    (same : name ++ ending stage = name' ++ ending stage') : name = name' := by
  have plain (stage : Stage) : '.' ∉ stage.tag.toList := by
    cases stage <;> decide
  have cut (name : String) (stage : Stage) :
      (name ++ ending stage).toList =
        (name.toList ++ '.' :: stage.tag.toList) ++ ".json".toList := by
    simp [ending]
  have lists := congrArg String.toList same
  rw [cut, cut] at lists
  have parts := congrArg Layout.splitLastDot (List.append_cancel_right lists)
  rw [Layout.splitLastDot_append _ (plain stage), Layout.splitLastDot_append _ (plain stage')] at parts
  exact String.toList_inj.mp (congrArg Prod.fst (Option.some.inj parts))

theorem normal_append_ending {name : String} (normal : Path.Normal name) (stage : Stage) :
    Path.Normal (name ++ ending stage) := by
  have inside : 'j' ∈ (name ++ ending stage).toList := by
    rw [String.toList_append, List.mem_append]
    exact .inr (by cases stage <;> decide)
  have other {text : String} (without : 'j' ∉ text.toList) : name ++ ending stage ≠ text := by
    rintro rfl
    exact without inside
  refine ⟨other (by decide), other (by decide), other (by decide), ?_⟩
  rw [String.toList_append, List.mem_append, not_or]
  exact ⟨normal.single, ending_single stage⟩

theorem location_path (named : s.Named) (current : List String) (root : String) (stage : Stage) :
    Path.location current (path root s.path stage) =
      Path.location current root ++ (s.folderParts ++ [s.filename ++ ending stage]) := by
  have parts := named.segments_append _ (ending_single stage)
  have contained : Path.Contained (s.path ++ ending stage) := by
    rw [Path.Contained, parts, List.forall_mem_append, List.forall_mem_singleton]
    refine ⟨?_, normal_append_ending named.filename stage⟩
    unfold Source.folderParts
    cases folder : s.folder with
    | none => exact fun part member => absurd member List.not_mem_nil
    | some folder' => exact named.folder folder' folder
  rw [path_eq, Path.location_join contained, parts]

/-- A recording belongs to sources of one name only. -/
theorem path_of_location (named : s.Named) (named' : s'.Named) {current : List String} {root : String}
    {stage stage' : Stage}
    (same : Path.location current (path root s.path stage) =
      Path.location current (path root s'.path stage')) : s.path = s'.path := by
  rw [location_path named, location_path named'] at same
  obtain ⟨folder, last⟩ := List.append_inj' (List.append_cancel_left same) rfl
  have filename := append_ending_injective (List.cons.inj last).1
  apply Path.segments_injective
  rw [named.segments_path, named'.segments_path, folder, filename]

end Recording

namespace FileRun

/-- The requests that are made about a file, in order. -/
def requests {σ : Type} (model : Model (StateM σ)) (c : Config) (s : Source) (now : σ) : List Request :=
  ((process model.traced c s).run (now, [])).2.2

theorem Asked.source {c : Config} {s : Source} {answer : Except Failure String} {rs : List Request}
    (asked : Asked c s answer rs) : ∀ r ∈ rs, r.source = s.path := by
  cases asked with
  | once first wanted stage unusable =>
    rw [List.forall_mem_singleton, wanted]
    rfl
  | twice first second p wanted stages usable =>
    rw [List.forall_mem_cons, List.forall_mem_singleton, wanted.1, wanted.2]
    exact ⟨rfl, rfl⟩

theorem requests_source {σ : Type} (model : Model (StateM σ)) (c : Config) (s : Source) (now : σ) :
    ∀ r ∈ requests model c s now, r.source = s.path := by
  cases ran : (process model c s).run now with
  | mk run after =>
    obtain ⟨rs, asked, traced⟩ := process_traced ran []
    rw [requests, traced]
    exact asked.source

end FileRun

/-- Nothing that goes by the name of one source goes by that of the other: no request, whoever is asked, no
recording, whatever it is a recording of, and no report. -/
structure Source.Apart (s s' : Source) : Prop where
  names : s.path ≠ s'.path
  requests : ∀ (σ σ' : Type) (model : Model (StateM σ)) (model' : Model (StateM σ')) c c' now now',
    ∀ r ∈ FileRun.requests model c s now, ∀ r' ∈ FileRun.requests model' c' s' now', r.source ≠ r'.source
  recordings : ∀ current root stage stage',
    Path.location current (Recording.path root s.path stage) ≠
      Path.location current (Recording.path root s'.path stage')
  reports : ∀ o o' : Outcome, o.source = s → o'.source = s' →
    (FileReport.ofOutcome o).filename ≠ (FileReport.ofOutcome o').filename

theorem Source.apart_of_path {s s' : Source} (named : s.Named) (named' : s'.Named)
    (other : s.path ≠ s'.path) : s.Apart s' := by
  refine ⟨other, ?_, ?_, ?_⟩
  · intro σ σ' model model' c c' now now' r member r' member'
    rw [FileRun.requests_source model c s now r member,
      FileRun.requests_source model' c' s' now' r' member']
    exact other
  · intro current root stage stage' same
    exact other (Recording.path_of_location named named' same)
  · rintro o o' rfl rfl
    rw [FileReport.filename_ofOutcome, FileReport.filename_ofOutcome]
    exact other

section Loading

variable {σ : Type} {host : Host (StateM σ)} {now later now' later' : σ} {path path' : RawPath}
  {language language' : String} {s s' : Source}

/-- A system that has no text at a path unless that ends with a name. -/
def Host.ReadsNames (host : Host (StateM σ)) (now : σ) : Prop :=
  ∀ path text, ((host.readText path).run now).1 = .ok text → ∃ name, path.fileName? = some name

theorem Disk.Rooted.readsNames {d : Disk} (rooted : d.Rooted) : Disk.host.ReadsNames d := by
  intro path text ok
  change d.readFile path = .ok text at ok
  unfold Disk.readFile at ok
  split at ok
  · rename_i spelling spelled
    rw [RawPath.eq_of_text? spelled]
    exact rooted.fileName ok
  · cases ok

theorem ofFile_of_loadSource
    (loaded : (host.loadSource path language).run now = (.ok s, later)) :
    ∃ code, ((host.readText path).run now).1 = .ok code ∧ s = .ofFile path language code := by
  cases found : (host.readText path).run now with
  | mk answer after =>
    simp only [Host.loadSource, StateT.run_bind, found] at loaded
    cases answer with
    | error r => cases loaded
    | ok code =>
      cases loaded
      exact ⟨code, rfl, rfl⟩

/-- Two files that were read are called the same if and only if the names on their paths read the same.
Otherwise nothing is shared between them. That is so for files whose paths lead down from where the program
runs and have names that are text, unless the paths are the same up to dots and slashes. -/
theorem loaded_apart_iff (sound : host.ReadsNames now) (sound' : host.ReadsNames now')
    (loaded : (host.loadSource path language).run now = (.ok s, later))
    (loaded' : (host.loadSource path' language').run now' = (.ok s', later')) :
    (s.path = s'.path ↔ path.names.map Octets.text = path'.names.map Octets.text) ∧
      (path.names.map Octets.text ≠ path'.names.map Octets.text → s.Apart s') ∧
      (path.Descending → path'.Descending → path.Spelled → path'.Spelled →
        path.components ≠ path'.components → s.Apart s') := by
  obtain ⟨code, read, rfl⟩ := ofFile_of_loadSource loaded
  obtain ⟨code', read', rfl⟩ := ofFile_of_loadSource loaded'
  obtain ⟨name, last⟩ := sound path code read
  obtain ⟨name', last'⟩ := sound' path' code' read'
  have same_iff : (Source.ofFile path language code).path = (Source.ofFile path' language' code').path ↔
      path.names.map Octets.text = path'.names.map Octets.text := by
    rw [← Source.segments_path_ofFile last language code,
      ← Source.segments_path_ofFile last' language' code']
    exact ⟨congrArg Path.segments, Path.segments_injective⟩
  have apart (other : path.names.map Octets.text ≠ path'.names.map Octets.text) :=
    Source.apart_of_path (Source.named_ofFile last language code)
      (Source.named_ofFile last' language' code') (mt same_iff.mp other)
  refine ⟨same_iff, apart, ?_⟩
  intro descending descending' spelled spelled' other
  apply apart
  intro texts
  have names : path.names = path'.names := by
    rw [← RawPath.ofText_read spelled, ← RawPath.ofText_read spelled', texts]
  apply other
  rw [RawPath.components_of_descending descending, RawPath.components_of_descending descending', names]

end Loading

namespace Disk

theorem loadSource_run {d : Disk} {path code : String} (read : d.readText path = .ok code)
    (language : String) :
    (host.loadSource path language).run d = (.ok (.ofFile path language code), d) := by
  have found : (host.readText path).run d = (.ok code, d) := by
    rw [← read]
    exact congrArg (·, d) (readFile_ofText d path)
  simp only [Host.loadSource, StateT.run_bind, found]
  rfl

/-- Files of one name in four directories. -/
def shelves : Disk where
  nodes :=
    [(["lib"], .directory), (["lib", "a.py"], .file (some "pass")), (["u"], .directory),
      (["u", "lib"], .directory), (["u", "lib", "a.py"], .file (some "return")),
      (["u", "w"], .directory), (["u", "w", "a.py"], .file (some "break")),
      (["u", "w", "lib"], .directory), (["u", "w", "lib", "a.py"], .file (some "yield"))]
  current := ["u", "w"]

theorem shelves_rooted : shelves.Rooted := by decide

theorem shelves_apart :
    host.ReadsNames shelves ∧
      (host.loadSource "a.py" "").run shelves = (.ok (.ofFile "a.py" "" "break"), shelves) ∧
      (host.loadSource "./lib//a.py" "").run shelves =
        (.ok (.ofFile "./lib//a.py" "" "yield"), shelves) ∧
      (Source.ofFile "a.py" "" "break").Apart (.ofFile "./lib//a.py" "" "yield") := by
  have read : shelves.readText "a.py" = .ok "break" := by decide +kernel
  have read' : shelves.readText "./lib//a.py" = .ok "yield" := by decide +kernel
  have loaded := loadSource_run read ""
  have loaded' := loadSource_run read' ""
  have sound := shelves_rooted.readsNames
  have spelled : (RawPath.ofText "a.py").Spelled := by
    intro name member
    obtain rfl := List.mem_singleton.mp member
    exact ⟨"a.py", rfl⟩
  have spelled' : (RawPath.ofText "./lib//a.py").Spelled := by
    intro name member
    rcases List.mem_pair.mp member with rfl | rfl
    · exact ⟨"lib", rfl⟩
    · exact ⟨"a.py", rfl⟩
  have apart := (loaded_apart_iff sound sound loaded loaded').2.2 ⟨by decide, by decide⟩
    ⟨by decide, by decide⟩ spelled spelled' (by decide)
  exact ⟨sound, loaded, loaded', apart⟩

/-- Two paths of one directory, with names that are no text. -/
def foreignPaths : RawPath × RawPath :=
  (⟨[0x61, 0xFF, 0x2E, 0x70, 0x79]⟩, ⟨[0x61, 0xFE, 0x2E, 0x70, 0x79]⟩)

/-- A system that has nothing but two files with such names. -/
def foreign : Host (StateM Unit) where
  readText path := pure <|
    if path = foreignPaths.1 then .ok "pass" else if path = foreignPaths.2 then .ok "return"
    else .error .notFound
  isDirectory _ := pure false
  makeDirectory _ := pure (.error .notFound)
  writeText _ _ := pure (.error .notFound)

/-- Three files with different texts and paths that differ in more than dots and slashes, and they are all
called the same; and two files that differ in an octet that is no text, which are called the same too. -/
theorem shelves_mixed_up :
    (shelves.Rooted ∧
      (host.loadSource "lib/a.py" "").run shelves = (.ok (.ofFile "lib/a.py" "" "yield"), shelves) ∧
      (host.loadSource "../lib/a.py" "").run shelves =
        (.ok (.ofFile "../lib/a.py" "" "return"), shelves) ∧
      (host.loadSource "/lib/a.py" "").run shelves = (.ok (.ofFile "/lib/a.py" "" "pass"), shelves) ∧
      (["lib/a.py", "../lib/a.py", "/lib/a.py"].map fun path => (RawPath.ofText path).components).Nodup ∧
      (Source.ofFile "lib/a.py" "" "yield").path = "lib/a.py" ∧
      (Source.ofFile "../lib/a.py" "" "return").path = "lib/a.py" ∧
      (Source.ofFile "/lib/a.py" "" "pass").path = "lib/a.py") ∧
    let (path, path') := foreignPaths
    (foreign.loadSource path "").run () = (.ok (.ofFile path "" "pass"), ()) ∧
      (foreign.loadSource path' "").run () = (.ok (.ofFile path' "" "return"), ()) ∧
      path.components ≠ path'.components ∧
      (Source.ofFile path "" "pass").path = "a\uFFFD.py" ∧
      (Source.ofFile path' "" "return").path = "a\uFFFD.py" := by
  refine ⟨⟨shelves_rooted, loadSource_run (by decide +kernel) "", loadSource_run (by decide +kernel) "",
    loadSource_run (by decide +kernel) "", by decide, by decide, by decide, by decide⟩,
    by rfl, by rfl, by decide, by decide, by decide⟩

end Disk

end Retrofit
