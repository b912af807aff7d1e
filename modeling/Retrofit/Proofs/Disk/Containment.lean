import Retrofit.Disk.Store
import Retrofit.Proofs.Disk.RawPath
import Retrofit.Proofs.Run.Stem

/-! Where the base of a file leads. The folder of a file that was read leads down only, and so does its
name; but the base ends with the stem of the name, and that may be nothing but dots. -/
namespace Retrofit

namespace Source

/-- The source is named as files are that have been read. -/
structure Named (s : Source) : Prop where
  filename : Path.Normal s.filename
  folder : ∀ folder, s.folder = some folder → Path.Contained folder

theorem segments_folder {names : List (List UInt8)} (filled : names ≠ [])
    (clean : ∀ name ∈ names, RawPath.Clean name) :
    Path.segments (Text.join "/" (names.map Octets.text)) = names.map Octets.text := by
  apply Path.segments_join
  · simpa using filled
  · rw [List.forall_mem_map]
    exact fun name member => (clean name member).normal.single

theorem folderOf_contained {path : RawPath} {folder : String} (found : folderOf path = some folder) :
    Path.Contained folder := by
  have clean : ∀ name ∈ path.above, RawPath.Clean name := fun name member =>
    RawPath.clean_of_mem_names (fun part => (List.dropLast_sublist _).mem) member
  unfold folderOf at found
  split at found
  · cases found
  · rename_i filled
    obtain rfl := Option.some.inj found
    rw [Path.Contained, segments_folder (by simpa using filled) clean, List.forall_mem_map]
    exact fun name member => (clean name member).normal

theorem named_ofFile {path : RawPath} {name : List UInt8} (last : path.fileName? = some name)
    (language code : String) : (ofFile path language code).Named := by
  refine ⟨?_, fun folder found => folderOf_contained found⟩
  obtain ⟨before, parts⟩ := RawPath.parts_of_fileName last
  have member : .name name ∈ path.components.parts := by
    rw [parts]
    exact List.mem_append_right _ List.mem_cons_self
  rw [ofFile, last]
  exact (RawPath.clean_of_mem_parts member).normal

theorem Named.folder_contained {s : Source} (named : s.Named) :
    Path.Contained (s.folder.getD Layout.defaultFolder) := by
  cases found : s.folder with
  | none =>
    rw [Option.getD_none]
    decide
  | some folder => exact named.folder folder found

end Source

namespace Layout

variable {s : Source}

theorem segments_candidate (s : Source) (n : Nat) :
    Path.segments (candidate s n) =
      Path.segments (s.folder.getD defaultFolder) ++ [ownPart s n] := by
  rw [candidate_eq, Path.segments_append, Path.segments_of_single (ownPart_single s n)]

theorem candidate_contained_iff (named : s.Named) (n : Nat) :
    Path.Contained (candidate s n) ↔ ¬ (Dotted (safeName s.filename) ∧ n = 0) := by
  have folder := named.folder_contained
  rw [Path.Contained, segments_candidate, List.forall_mem_append, List.forall_mem_singleton,
    ← ownPart_normal_iff]
  exact and_iff_right folder

/-- The base leads down, unless the stem of the file is nothing but dots and its plain base is free. -/
theorem uniqueBase_contained_iff (named : s.Named) (taken : List String) :
    Path.Contained (uniqueBase s taken) ↔
      ¬ (Dotted (safeName s.filename) ∧ firstBase s ∉ taken) := by
  obtain ⟨n, -, first, chosen⟩ := uniqueBase_candidate s taken
  have plain : n = 0 ↔ firstBase s ∉ taken := by
    rw [← candidate_zero]
    refine ⟨?_, ?_⟩
    · rintro rfl
      exact first.free
    · intro free
      by_contra later
      exact free (first.better 0 (Nat.pos_of_ne_zero later))
  rw [chosen, candidate_contained_iff named, plain]

/-- Every file of a layout whose base leads down is three steps below the folder. -/
theorem location_of_mem_files {a : Artifacts} {taken : List String} {path content : String}
    (contained : Path.Contained (uniqueBase s taken)) (documented : a.Documented)
    (member : (path, content) ∈ files (uniqueBase s taken) s a) (current : List String)
    (root : String) :
    ∃ own directory name, Path.Normal own ∧ Path.Normal directory ∧ Path.Normal name ∧
      Path.location current (Path.join root path) =
        Path.location current root ++ Path.segments (s.folder.getD defaultFolder) ++
          [own, directory, name] := by
  obtain ⟨directory, name, normal, normal', rfl⟩ := spot_of_mem_files documented member
  obtain ⟨n, -, -, chosen⟩ := uniqueBase_candidate s taken
  have base : Path.segments (uniqueBase s taken) =
      Path.segments (s.folder.getD defaultFolder) ++ [ownPart s n] := by
    rw [chosen, segments_candidate]
  have parts := Path.segments_below (uniqueBase s taken) normal.single normal'.single
  have inside : Path.Contained (uniqueBase s taken ++ "/" ++ directory ++ "/" ++ name) := by
    rw [Path.Contained, parts, List.forall_mem_append, List.forall_mem_cons,
      List.forall_mem_singleton]
    exact ⟨contained, normal, normal'⟩
  have own : Path.Normal (ownPart s n) := by
    apply contained
    rw [base]
    exact List.mem_append_right _ List.mem_cons_self
  refine ⟨ownPart s n, directory, name, own, normal, normal', ?_⟩
  rw [Path.location_join inside, parts, base, List.append_assoc, List.append_assoc]
  rfl

theorem location_ne {base base' : String} (contained : Path.Contained base)
    (contained' : Path.Contained base') (other : base ≠ base') (current : List String)
    (root : String) :
    Path.location current (Path.join root base) ≠ Path.location current (Path.join root base') := by
  rw [Path.location_join contained, Path.location_join contained']
  intro same
  exact other (Path.segments_injective (List.append_cancel_left same))

/-- The base of a file that was read leads down only, except when the name of the file is dots and an
extension and no other file has its plain base. Where it leads down, all artifacts are below the folder of
the file, and files with different bases are in different directories of every disk. -/
theorem base_contained (named : s.Named) (taken : List String) :
    (Path.Contained (uniqueBase s taken) ↔
      ¬ (Dotted (safeName s.filename) ∧ firstBase s ∉ taken)) ∧
    (Path.Contained (uniqueBase s taken) →
      ∀ a : Artifacts, a.Documented →
        ∀ path content, (path, content) ∈ files (uniqueBase s taken) s a →
          ∀ current root, ∃ own directory name,
            Path.Normal own ∧ Path.Normal directory ∧ Path.Normal name ∧
              Path.location current (Path.join root path) =
                Path.location current root ++ Path.segments (s.folder.getD defaultFolder) ++
                  [own, directory, name]) ∧
    ∀ (s' : Source) (taken' : List String), Path.Contained (uniqueBase s taken) →
      Path.Contained (uniqueBase s' taken') → uniqueBase s taken ≠ uniqueBase s' taken' →
        (∀ current root, Path.location current (Path.join root (uniqueBase s taken)) ≠
          Path.location current (Path.join root (uniqueBase s' taken'))) ∧
        ∀ (d : Disk) root found found', d.locate (Path.join root (uniqueBase s taken)) = .ok found →
          d.locate (Path.join root (uniqueBase s' taken')) = .ok found' → found ≠ found' := by
  refine ⟨uniqueBase_contained_iff named taken, ?_, ?_⟩
  · intro contained a documented path content member current root
    exact location_of_mem_files contained documented member current root
  · intro s' taken' contained contained' other
    have apart (current : List String) (root : String) :=
      location_ne contained contained' other current root
    refine ⟨apart, ?_⟩
    intro d root found found' here there same
    rw [Disk.location_of_locate here, Disk.location_of_locate there] at same
    exact apart d.current root same

/-- Next to a file that has taken the plain base of a dotted name, the extension makes a name of the
stem. -/
theorem dotted_beside_contained :
    (Source.ofFile "lib/..tar" "" "").Named ∧ Dotted (safeName "..tar") ∧
      uniqueBase (.ofFile "lib/..tar" "" "") ["lib/."] = "lib/._tar" ∧
      Path.Contained (uniqueBase (.ofFile "lib/..tar" "" "") ["lib/."]) ∧
      (∀ path content,
        (path, content) ∈ files (uniqueBase (.ofFile "lib/..tar" "" "") ["lib/."])
            (.ofFile "lib/..tar" "" "") intruding →
          ∃ own directory name, Path.Normal own ∧ Path.Normal directory ∧ Path.Normal name ∧
            Path.location ["w"] (Path.join "out" path) =
              Path.location ["w"] "out" ++ Path.segments "lib" ++ [own, directory, name]) ∧
      Path.location ["w"] (Path.join "out" (uniqueBase (.ofFile "lib/..tar" "" "") ["lib/."])) ≠
        Path.location ["w"] (Path.join "out" (uniqueBase (.ofFile "lib/a.tar" "" "") [])) := by
  have last : (RawPath.ofText "lib/..tar").fileName? = some (Octets.ofText "..tar") := by decide
  have last' : (RawPath.ofText "lib/a.tar").fileName? = some (Octets.ofText "a.tar") := by decide
  have named := Source.named_ofFile last "" ""
  have named' := Source.named_ofFile last' "" ""
  obtain ⟨contained_iff, below, apart⟩ := base_contained named ["lib/."]
  have contained := contained_iff.mpr fun free => free.2 (by decide)
  have contained' := (base_contained named' []).1.mpr <| by
    rintro ⟨dotted, -⟩
    have stem := (stem_dots_iff (safeName_normal "a.tar").1).mpr dotted
    exact absurd stem (by decide)
  have other : uniqueBase (.ofFile "lib/..tar" "" "") ["lib/."] ≠
      uniqueBase (.ofFile "lib/a.tar" "" "") [] := by
    decide
  refine ⟨named, ⟨"tar", by decide, .inl (by decide)⟩, by decide, contained, ?_,
    (apart _ _ contained contained' other).1 _ _⟩
  intro path content member
  exact below contained intruding (Artifacts.documented_of _ _ _) path content member ["w"] "out"

/-- The base of a file whose name is three dots is the directory that is the root of all output. -/
theorem ellipsis_escapes :
    (Source.ofFile "..." "" "").Named ∧ uniqueBase (.ofFile "..." "" "") [] = "output/.." ∧
      ¬ Path.Contained (uniqueBase (.ofFile "..." "" "") []) ∧
      Path.location ["w"] (Path.join "out" (uniqueBase (.ofFile "..." "" "") [])) = ["w", "out"] := by
  have last : (RawPath.ofText "...").fileName? = some (Octets.ofText "...") := by decide
  refine ⟨Source.named_ofFile last "" "", by decide, ?_, by decide⟩
  intro contained
  have up : ".." ∈ Path.segments (uniqueBase (.ofFile "..." "" "") []) := by decide
  exact (contained ".." up).descends rfl

end Layout

end Retrofit
