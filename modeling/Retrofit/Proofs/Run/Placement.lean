import Mathlib.Data.List.Nodup
import Retrofit.Proofs.Disk.Path
import Retrofit.Proofs.Run.Layout

/-! Every artifact of a file has a place of its own, two steps below the base of the file. Whatever names
the model chooses, no artifact gets in the way of another, and files with different bases have no place in
common. -/
namespace Retrofit

/-- The documents of the artifacts are those of their project. -/
def Artifacts.Documented (a : Artifacts) : Prop :=
  ∃ legacyCode modernCode summary,
    a.documents = Document.bundle a.project legacyCode modernCode summary

theorem Artifacts.documented_of (s : Source) (p : Project) (m : Modernization) :
    (Artifacts.of s p m).Documented :=
  ⟨s.code, m.code, m.summary, rfl⟩

namespace Document

/-- All names that a document can have. -/
def names : List String :=
  [overviewName, readmeName, architectureName, migrationName, debtName, apiName, testingName]

theorem bundle_names (p : Project) (legacyCode modernCode summary : String) :
    (bundle p legacyCode modernCode summary).map (·.name) =
      if p.debts.isEmpty then names.erase debtName else names := by
  unfold bundle
  cases p.debts.isEmpty <;> rfl

theorem names_normal : ∀ name ∈ names, Path.Normal name := by
  decide

end Document

namespace Artifacts

variable {a : Artifacts}

theorem Documented.names (documented : a.Documented) :
    a.documents.map (·.name) =
      if a.project.debts.isEmpty then Document.names.erase Document.debtName else Document.names := by
  obtain ⟨legacyCode, modernCode, summary, same⟩ := documented
  rw [same, Document.bundle_names]

theorem Documented.names_nodup (documented : a.Documented) : (a.documents.map (·.name)).Nodup := by
  rw [documented.names]
  split <;> decide

theorem Documented.names_normal (documented : a.Documented) {d : Document}
    (member : d ∈ a.documents) : Path.Normal d.name := by
  have named : d.name ∈ a.documents.map (·.name) := List.mem_map_of_mem member
  rw [documented.names] at named
  apply Document.names_normal
  split at named
  · exact List.mem_of_mem_erase named
  · exact named

theorem Documented.length (documented : a.Documented) :
    a.documents.length = if a.project.debts = [] then 6 else 7 := by
  have size := congrArg List.length documented.names
  rw [List.length_map] at size
  rw [size]
  cases a.project.debts <;> rfl

end Artifacts

namespace Layout

/-- A safe name is a name of something in the directory it is put in, on systems of either kind of
separator. -/
theorem safeName_normal (name : String) :
    Path.Normal (safeName name) ∧ '\\' ∉ (safeName name).toList := by
  unfold safeName
  split
  · rename_i part found
    have usable := List.find?_some found
    simp only [isUsable, Bool.and_eq_true, decide_eq_true_eq] at usable
    have uncut := Chars.uncut_of_mem_splitWhere (List.mem_reverse.mp (List.mem_of_find?_eq_some found))
    have absent (c : Char) (cut : isSeparator c = true) : c ∉ part := by
      intro member
      rw [uncut c member] at cut
      cases cut
    have other {text : String} (ne : part ≠ text.toList) : String.ofList part ≠ text := by
      intro same
      rw [← same, String.toList_ofList] at ne
      exact ne rfl
    rw [String.toList_ofList]
    refine ⟨⟨other usable.1.1, other usable.1.2, other usable.2, ?_⟩, absent '\\' (by rfl)⟩
    rw [String.toList_ofList]
    exact absent '/' (by rfl)
  · exact ⟨⟨by decide, by decide, by decide, by decide⟩, by decide⟩

/-- What is put where. -/
inductive Place (base : String) (s : Source) (a : Artifacts) : (path content : String) → Prop
  | modernized :
      Place base s a s!"{base}/modernized/{safeName a.modernization.filename}" a.modernization.code
  | document (d : Document) (listed : d ∈ a.documents) :
      Place base s a s!"{base}/docs/{d.name}" d.content
  | skeleton : Place base s a s!"{base}/skeleton/{safeName s.filename}" a.skeleton
  | project : Place base s a s!"{base}/analysis/ir.json" a.project.pretty
  | inspection : Place base s a s!"{base}/analysis/ANALYSIS.md" a.inspection

variable {base : String} {s : Source} {a : Artifacts}

theorem mem_entries_iff (path content : String) :
    (path, content) ∈ entries base s a ↔ Place base s a path content := by
  simp only [entries, List.cons_append, List.mem_cons, List.mem_append, List.mem_map,
    List.not_mem_nil, or_false, Prod.mk.injEq]
  refine ⟨?_, ?_⟩
  · rintro (⟨rfl, rfl⟩ | ⟨d, listed, rfl, rfl⟩ | ⟨rfl, rfl⟩ | ⟨rfl, rfl⟩ | ⟨rfl, rfl⟩)
    · exact .modernized
    · exact .document d listed
    · exact .skeleton
    · exact .project
    · exact .inspection
  · intro place
    cases place with
    | modernized => exact .inl ⟨rfl, rfl⟩
    | document d listed => exact .inr (.inl ⟨d, listed, rfl, rfl⟩)
    | skeleton => exact .inr (.inr (.inl ⟨rfl, rfl⟩))
    | project => exact .inr (.inr (.inr (.inl ⟨rfl, rfl⟩)))
    | inspection => exact .inr (.inr (.inr (.inr ⟨rfl, rfl⟩)))

/-- Directory and name of each place, below the base. -/
def spots (s : Source) (a : Artifacts) : List (String × String) :=
  ("modernized", safeName a.modernization.filename) :: a.documents.map (fun d => ("docs", d.name)) ++
    [("skeleton", safeName s.filename), ("analysis", "ir.json"), ("analysis", "ANALYSIS.md")]

def below (base : String) (spot : String × String) : String :=
  base ++ "/" ++ spot.1 ++ "/" ++ spot.2

theorem entries_paths (base : String) (s : Source) (a : Artifacts) :
    (entries base s a).map (·.1) = (spots s a).map (below base) := by
  have joined (directory name : String) {start : String} (middle : start = "/" ++ directory ++ "/") :
      base ++ start ++ name = below base (directory, name) := by
    simp only [below, middle, String.append_assoc]
  have documents : a.documents.map (fun d => s!"{base}/docs/{d.name}") =
      a.documents.map (fun d => below base ("docs", d.name)) :=
    List.map_congr_left fun d _ => joined "docs" d.name (by decide)
  have project : s!"{base}/analysis/ir.json" = below base ("analysis", "ir.json") := by
    rw [← joined "analysis" "ir.json" rfl, String.append_assoc]
    rfl
  have inspection : s!"{base}/analysis/ANALYSIS.md" = below base ("analysis", "ANALYSIS.md") := by
    rw [← joined "analysis" "ANALYSIS.md" rfl, String.append_assoc]
    rfl
  simp only [entries, spots, List.map_cons, List.map_append, List.map_map, List.map_nil,
    Function.comp_def]
  rw [documents, project, inspection, ← joined "modernized" _ rfl, ← joined "skeleton" _ rfl]
  rfl

theorem spots_normal (documented : a.Documented) :
    ∀ spot ∈ spots s a, Path.Normal spot.1 ∧ Path.Normal spot.2 := by
  have modernized : Path.Normal "modernized" := by decide
  have docs : Path.Normal "docs" := by decide
  have skeleton : Path.Normal "skeleton" := by decide
  have analysis : Path.Normal "analysis" := by decide
  have project : Path.Normal "ir.json" := by decide
  have inspection : Path.Normal "ANALYSIS.md" := by decide
  simp only [spots, List.cons_append, List.forall_mem_cons, List.forall_mem_append, List.forall_mem_map,
    List.not_mem_nil, false_imp_iff, implies_true, and_true]
  exact ⟨⟨modernized, (safeName_normal _).1⟩, fun d listed => ⟨docs, documented.names_normal listed⟩,
    ⟨skeleton, (safeName_normal _).1⟩, ⟨analysis, project⟩, ⟨analysis, inspection⟩⟩

theorem spots_nodup (documented : a.Documented) : (spots s a).Nodup := by
  have documents : (a.documents.map fun d => ("docs", d.name)).Nodup := by
    have paired : Function.Injective fun name : String => ("docs", name) :=
      fun _ _ same => (Prod.mk.inj same).2
    have apart := documented.names_nodup.map paired
    rwa [List.map_map] at apart
  simp [spots, List.nodup_append, documents]

theorem entries_nodup (documented : a.Documented) (base : String) (s : Source) :
    ((entries base s a).map (·.1)).Nodup := by
  rw [entries_paths]
  refine (spots_nodup documented).map_on ?_
  intro x inside y inside' same
  have normal := spots_normal documented x inside
  have normal' := spots_normal documented y inside'
  obtain ⟨-, directory, name⟩ := Path.below_injective ⟨normal.1.single, normal.2.single⟩
    ⟨normal'.1.single, normal'.2.single⟩ same
  exact Prod.ext directory name

theorem mem_files_iff (documented : a.Documented) (path content : String) :
    (path, content) ∈ files base s a ↔ Place base s a path content := by
  rw [(files_perm (entries_nodup documented base s)).mem_iff, mem_entries_iff]

theorem files_length (documented : a.Documented) (base : String) (s : Source) :
    (files base s a).length = if a.project.debts = [] then 10 else 11 := by
  rw [(files_perm (entries_nodup documented base s)).length_eq, entries]
  simp only [List.cons_append, List.length_cons, List.length_append, List.length_map,
    List.length_nil, documented.length]
  split <;> rfl

/-- Two steps below the base, everything has a proper name. -/
theorem spot_of_mem_files (documented : a.Documented) {path content : String}
    (member : (path, content) ∈ files base s a) :
    ∃ directory name, Path.Normal directory ∧ Path.Normal name ∧
      path = base ++ "/" ++ directory ++ "/" ++ name := by
  have listed : path ∈ (entries base s a).map (·.1) := by
    rw [(files_perm (entries_nodup documented base s)).mem_iff] at member
    exact List.mem_map_of_mem member
  rw [entries_paths] at listed
  obtain ⟨spot, inside, rfl⟩ := List.mem_map.mp listed
  have normal := spots_normal documented spot inside
  exact ⟨spot.1, spot.2, normal.1, normal.2, rfl⟩

theorem base_of_mem_files {base' : String} {s' : Source} {a' : Artifacts} {path content content' : String}
    (documented : a.Documented) (documented' : a'.Documented)
    (member : (path, content) ∈ files base s a) (member' : (path, content') ∈ files base' s' a') :
    base = base' := by
  obtain ⟨directory, name, normal, normal₂, rfl⟩ := spot_of_mem_files documented member
  obtain ⟨directory', name', normal', normal₂', same⟩ := spot_of_mem_files documented' member'
  exact (Path.below_injective ⟨normal.single, normal₂.single⟩ ⟨normal'.single, normal₂'.single⟩
    same).1

/-- The files of a layout are the artifacts, each at its own place and none lost; the names that others
have chosen are names in their directory; and two bases have no place in common. -/
theorem files_placed (documented : a.Documented) (base : String) (s : Source) :
    ((files base s a).Pairwise fun x y => x.1 < y.1) ∧
    (∀ path content, (path, content) ∈ files base s a ↔ Place base s a path content) ∧
    (files base s a).length = (if a.project.debts = [] then 10 else 11) ∧
    (∀ name ∈ [safeName a.modernization.filename, safeName s.filename],
      Path.Normal name ∧ '\\' ∉ name.toList) ∧
    ∀ (base' : String) (s' : Source) (a' : Artifacts), a'.Documented → base ≠ base' →
      ((files base s a).map (·.1)).Disjoint ((files base' s' a').map (·.1)) := by
  refine ⟨files_sorted base s a, mem_files_iff documented, files_length documented base s, ?_, ?_⟩
  · rw [List.forall_mem_cons, List.forall_mem_singleton]
    exact ⟨safeName_normal _, safeName_normal _⟩
  · intro base' s' a' documented' other path here there
    obtain ⟨⟨_, content⟩, member, rfl⟩ := List.mem_map.mp here
    obtain ⟨⟨_, content'⟩, member', rfl⟩ := List.mem_map.mp there
    exact other (base_of_mem_files documented documented' member member')

/-- What came of a file when the model named its code as if it were to be put elsewhere. -/
def intruding : Artifacts :=
  .of ⟨"main.py", none, "python", ""⟩
    ⟨"python", "main.py", "main.py", "", [⟨"main", .module, "", [], [], [], []⟩],
      [⟨.security, "eval", .high, "none"⟩], [], []⟩
    ⟨"pass", "../../etc/passwd", "", true⟩

theorem intruding_placed :
    intruding.Documented ∧
      ("output/main/modernized/passwd", "pass") ∈
        files "output/main" ⟨"main.py", none, "python", ""⟩ intruding ∧
      (files "output/main" ⟨"main.py", none, "python", ""⟩ intruding).length = 11 ∧
      ((files "output/main" ⟨"main.py", none, "python", ""⟩ intruding).map (·.1)).Disjoint
        ((files "output/main/docs" ⟨"docs", none, "", ""⟩ intruding).map (·.1)) := by
  have documented : intruding.Documented := Artifacts.documented_of _ _ _
  obtain ⟨-, placed, size, -, apart⟩ :=
    files_placed documented "output/main" ⟨"main.py", none, "python", ""⟩
  have path : "output/main" ++ "/modernized/" ++ safeName intruding.modernization.filename =
      "output/main/modernized/passwd" := by
    decide
  refine ⟨documented, ?_, size, apart _ _ _ documented (by decide)⟩
  rw [← path]
  exact (placed _ _).mpr .modernized

end Layout

end Retrofit
