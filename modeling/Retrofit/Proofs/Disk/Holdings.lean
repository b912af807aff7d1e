import Retrofit.Proofs.Disk.Isolation
import Retrofit.Proofs.Disk.Rooted

/-! What writing leaves on a system. The first files of a layout, up to some point, are stored, and all of
them unless one is refused. Nothing else is touched, whatever the system refuses and whenever it does. -/
namespace Retrofit

/-- What there is on a system without links: where relative paths begin, and the files by their places.
There is no text in a file whose bytes are not UTF-8. -/
structure Holdings where
  current : List String
  files : List String → Option (Option String)

namespace Holdings

variable {h : Holdings} {root : String} {files : List (String × String)}

/-- Where the file of a layout goes, below a root. -/
def place (h : Holdings) (root : String) (file : String × String) : List String :=
  Path.location h.current (Path.join root file.1)

/-- The same with this content at a path. -/
def store (h : Holdings) (path content : String) : Holdings where
  current := h.current
  files place := if place = Path.location h.current path then some (some content) else h.files place

def storeAll (h : Holdings) (root : String) (files : List (String × String)) : Holdings :=
  files.foldl (fun h file => h.store (Path.join root file.1) file.2) h

theorem storeAll_cons (h : Holdings) (root : String) (file : String × String)
    (files : List (String × String)) :
    h.storeAll root (file :: files) = (h.store (Path.join root file.1) file.2).storeAll root files :=
  rfl

theorem storeAll_current (h : Holdings) (root : String) (files : List (String × String)) :
    (h.storeAll root files).current = h.current := by
  induction files generalizing h with
  | nil => rfl
  | cons file files ih => exact ih (h.store _ _)

theorem storeAll_other {place : List String} (other : ∀ file ∈ files, place ≠ h.place root file) :
    (h.storeAll root files).files place = h.files place := by
  induction files generalizing h with
  | nil => rfl
  | cons file files ih =>
    rw [List.forall_mem_cons] at other
    have later := ih (h := h.store (Path.join root file.1) file.2) other.2
    exact later.trans (if_neg other.1)

/-- Files with places of their own are all stored. -/
theorem storeAll_stored (apart : files.Pairwise fun x y => h.place root x ≠ h.place root y)
    {file : String × String} (member : file ∈ files) :
    (h.storeAll root files).files (h.place root file) = some (some file.2) := by
  induction files generalizing h with
  | nil => cases member
  | cons first files ih =>
    obtain ⟨before, behind⟩ := List.pairwise_cons.mp apart
    rw [storeAll_cons]
    rcases List.mem_cons.mp member with rfl | later
    · have kept := storeAll_other (h := h.store (Path.join root file.1) file.2) before
      exact kept.trans (if_pos rfl)
    · exact ih (h := h.store _ _) behind later

end Holdings

section Invariants

variable {σ α β : Type} {P : σ → Prop}

/-- What holds before holds afterwards. -/
def Invariant (P : σ → Prop) (x : StateM σ α) : Prop := ∀ now, P now → P (x.run now).2

theorem Invariant.pure (a : α) : Invariant P (pure a : StateM σ α) := fun _ before => before

theorem Invariant.bind {x : StateM σ α} {f : α → StateM σ β} (first : Invariant P x)
    (next : ∀ a, Invariant P (f a)) : Invariant P (x >>= f) := by
  intro now before
  rw [StateT.run_bind]
  exact next _ _ (first now before)

end Invariants

namespace Host

variable {σ : Type} {host : Host (StateM σ)} {P : σ → Prop}

/-- Makes the directory that a file goes into. -/
def prepare (host : Host (StateM σ)) (path : String) : StateM σ (Except Refusal Unit) :=
  match (Path.ofText path).parent? with
  | some above => host.makeDirectories above
  | none => pure (.ok ())

section Directories

variable (looked : ∀ path, Invariant P (host.isDirectory path))
  (made : ∀ path, Invariant P (host.makeDirectory path))
include looked made

theorem makeAll_invariant (n : Nat) (p : Path) : Invariant P (host.makeAll n p) := by
  have there (path : String) (r : Refusal) : Invariant P (host.unlessThere path r) :=
    .bind (looked path) fun _ => .pure _
  induction n generalizing p with
  | zero => exact .pure _
  | succ n ih =>
    unfold makeAll
    split
    · exact .pure _
    · refine .bind (made _) fun first => ?_
      split
      · exact .pure _
      · split
        · exact .pure _
        · refine .bind (ih _) fun above => ?_
          split
          · exact .pure _
          · refine .bind (made _) fun second => ?_
            split
            · exact .pure _
            · exact there _ _
      · exact there _ _

theorem prepare_invariant (path : String) : Invariant P (host.prepare path) := by
  unfold prepare
  split
  · exact makeAll_invariant looked made _ _
  · exact .pure _

end Directories

theorem place_run {path : String} {now between : σ} {answer : Except Refusal Unit}
    (prepared : (host.prepare path).run now = (answer, between)) (content : String) :
    (host.place path content).run now =
      match answer with
      | .error r => (.error r, between)
      | .ok () => (host.writeText path content).run between := by
  unfold prepare at prepared
  unfold place
  cases parent : (Path.ofText path).parent? with
  | some above =>
    rw [parent] at prepared
    dsimp only at prepared ⊢
    rw [run_bind_of prepared]
    cases answer <;> rfl
  | none =>
    rw [parent] at prepared
    cases prepared
    rfl

/-- Nothing that is asked of the system puts an end to this. -/
structure Preserves (host : Host (StateM σ)) (P : σ → Prop) : Prop where
  looked : ∀ path, Invariant P (host.isDirectory path)
  made : ∀ path, Invariant P (host.makeDirectory path)
  wrote : ∀ path content, Invariant P (host.writeText path content)

theorem Preserves.place (preserves : host.Preserves P) (path content : String) :
    Invariant P (host.place path content) := by
  intro now before
  cases prepared : (host.prepare path).run now with
  | mk answer between =>
    have ready := prepare_invariant preserves.looked preserves.made path now before
    rw [prepared] at ready
    rw [place_run prepared]
    cases answer with
    | error r => exact ready
    | ok u => exact preserves.wrote path content between ready

theorem Preserves.writeFiles (preserves : host.Preserves P) (root : String)
    (files : List (String × String)) : Invariant P (host.writeFiles root files) := by
  induction files with
  | nil => exact .pure _
  | cons file files ih =>
    refine .bind (preserves.place _ _) fun answer => ?_
    split
    · exact .pure _
    · exact .bind ih fun others => .pure _

variable {view : σ → Holdings}

/-- The files of the system change only when a text is written, and then no other file does. A refusal
leaves them as they are. -/
structure Keeps (host : Host (StateM σ)) (view : σ → Holdings) : Prop where
  looked : ∀ path now, view ((host.isDirectory path).run now).2 = view now
  made : ∀ path now, view ((host.makeDirectory path).run now).2 = view now
  refused : ∀ path content now r later,
    (host.writeText path content).run now = (.error r, later) → view later = view now
  written : ∀ path content now later,
    (host.writeText path content).run now = (.ok (), later) →
      view later = (view now).store path content

theorem Keeps.prepare (keeps : host.Keeps view) (path : String) (now : σ) :
    view ((host.prepare path).run now).2 = view now := by
  have looked (path : String) : Invariant (view · = view now) (host.isDirectory path) :=
    fun state same => (keeps.looked path state).trans same
  have made (path : String) : Invariant (view · = view now) (host.makeDirectory path) :=
    fun state same => (keeps.made path state).trans same
  exact prepare_invariant looked made path now rfl

theorem Keeps.place_ok (keeps : host.Keeps view) {path content : String} {now later : σ}
    (run : (host.place path content).run now = (.ok (), later)) :
    view later = (view now).store path content := by
  cases prepared : (host.prepare path).run now with
  | mk answer between =>
    have same := keeps.prepare path now
    rw [prepared] at same
    rw [place_run prepared] at run
    cases answer with
    | error r => cases run
    | ok u =>
      rw [keeps.written path content between later run]
      exact congrArg (Holdings.store · path content) same

theorem Keeps.place_error (keeps : host.Keeps view) {path content : String} {now later : σ}
    {r : Refusal} (run : (host.place path content).run now = (.error r, later)) :
    view later = view now := by
  cases prepared : (host.prepare path).run now with
  | mk answer between =>
    have same := keeps.prepare path now
    rw [prepared] at same
    rw [place_run prepared] at run
    cases answer with
    | error r =>
      cases run
      exact same
    | ok u => exact (keeps.refused path content between r later run).trans same

/-- The files that are noted down are the first of those to write, and these are stored; and they are all
if and only if nothing is refused. -/
theorem Keeps.writeFiles (keeps : host.Keeps view) {root : String} {files : List (String × String)}
    {now later : σ} {events : List Event} {result : Except Refusal Unit}
    (run : (host.writeFiles root files).run now = ((events, result), later)) :
    ∃ written rest, files = written ++ rest ∧ events = wrote root written ∧
      view later = (view now).storeAll root written ∧ (result = .ok () ↔ rest = []) := by
  induction files generalizing now events with
  | nil =>
    cases run
    exact ⟨[], [], rfl, rfl, rfl, iff_of_true rfl rfl⟩
  | cons file files ih =>
    cases answer : (host.place (Path.join root file.1) file.2).run now with
    | mk placed between =>
      cases placed with
      | error r =>
        rw [writeFiles_error answer] at run
        cases run
        exact ⟨[], file :: files, rfl, rfl, keeps.place_error answer, iff_of_false nofun nofun⟩
      | ok u =>
        cases others : (host.writeFiles root files).run between with
        | mk answers last =>
          obtain ⟨noted, verdict⟩ := answers
          rw [writeFiles_ok answer others] at run
          cases run
          obtain ⟨written, rest, all, notes, seen, whole⟩ := ih others
          refine ⟨file :: written, rest, congrArg (file :: ·) all, congrArg (_ :: ·) notes, ?_, whole⟩
          rw [seen, keeps.place_ok answer]
          rfl

/-- Does something unless there is a fault, and counts it. -/
def guarded (fault : Nat → Option Refusal) (x : StateM σ (Except Refusal Unit)) :
    StateM (σ × Nat) (Except Refusal Unit) := fun (now, n) =>
  match fault n with
  | some r => (.error r, (now, n + 1))
  | none => ((x.run now).1, ((x.run now).2, n + 1))

theorem guarded_cases (fault : Nat → Option Refusal) {x : StateM σ (Except Refusal Unit)}
    {now later : σ × Nat} {result : Except Refusal Unit}
    (run : (guarded fault x).run now = (result, later)) :
    (∃ r, result = .error r ∧ later.1 = now.1) ∨ x.run now.1 = (result, later.1) := by
  obtain ⟨state, n⟩ := now
  simp only [guarded, StateT.run] at run
  split at run
  · cases run
    exact .inl ⟨_, rfl, rfl⟩
  · obtain ⟨answer, rfl⟩ := Prod.mk.inj run
    exact .inr (Prod.ext answer rfl)

/-- The system with faults that come whenever they will: a directory or a text is then refused. -/
def faulty (host : Host (StateM σ)) (fault : Nat → Option Refusal) : Host (StateM (σ × Nat)) where
  readText path := fun (now, n) => ((host.readText path now).1, ((host.readText path now).2, n))
  isDirectory path := fun (now, n) =>
    ((host.isDirectory path now).1, ((host.isDirectory path now).2, n))
  makeDirectory path := guarded fault (host.makeDirectory path)
  writeText path content := guarded fault (host.writeText path content)

/-- Faults do no harm to the files. -/
theorem Keeps.faulty (keeps : host.Keeps view) (fault : Nat → Option Refusal) :
    (host.faulty fault).Keeps fun now => view now.1 where
  looked path now := keeps.looked path now.1
  made path := by
    intro now
    obtain ⟨r, -, same⟩ | done := guarded_cases fault (x := host.makeDirectory path) rfl
    · exact congrArg view same
    · have kept := keeps.made path now.1
      rwa [done] at kept
  refused path content := by
    intro now r later run
    obtain ⟨r', -, same⟩ | done := guarded_cases fault run
    · exact congrArg view same
    · exact keeps.refused path content now.1 r later.1 done
  written path content := by
    intro now later run
    obtain ⟨r', failed, -⟩ | done := guarded_cases fault run
    · cases failed
    · exact keeps.written path content now.1 later.1 done

end Host

namespace Disk

variable {d : Disk}

/-- What stands in a file, if there is a file. -/
def fileText : Option Node → Option (Option String)
  | some (.file text) => some text
  | _ => none

/-- What there is on a disk. -/
def holdings (d : Disk) : Holdings where
  current := d.current
  files place := fileText (d.at? place)

theorem fileText_put {above : List String} {name : String} (node : Node) (place : List String) :
    fileText ((d.put (above ++ [name]) node).at? place) =
      if place = above ++ [name] then fileText (some node) else fileText (d.at? place) := by
  rw [at?_put (List.append_ne_nil_of_right_ne_nil _ (List.cons_ne_nil _ _))]
  split <;> rfl

/-- A disk keeps its files. -/
theorem host_keeps : host.Keeps holdings where
  looked path d := rfl
  made path := by
    intro d
    cases made : d.makeDirectory path with
    | error r => simp only [host, attempt, StateT.run, made]
    | ok later =>
      simp only [host, attempt, StateT.run, made]
      obtain ⟨above, name, -, -, absent, rfl⟩ := makeDirectory_ok made
      -- there was no file where the directory is now
      refine congrArg (Holdings.mk d.current) (funext fun place => ?_)
      rw [fileText_put]
      split
      · rename_i here
        rw [here, absent]
        rfl
      · rfl
  refused path content := by
    intro d r later run
    cases wrote : d.writeText path content with
    | error r' =>
      simp only [host, attempt, StateT.run, wrote] at run
      cases run
      rfl
    | ok d' =>
      simp only [host, attempt, StateT.run, wrote] at run
      cases run
  written path content := by
    intro d later run
    cases wrote : d.writeText path content with
    | error r' =>
      simp only [host, attempt, StateT.run, wrote] at run
      cases run
    | ok d' =>
      simp only [host, attempt, StateT.run, wrote] at run
      cases run
      obtain ⟨above, name, place, -, -, rfl⟩ := writeText_ok wrote
      refine congrArg (Holdings.mk d.current) (funext fun other => ?_)
      rw [fileText_put, ← place]
      rfl

end Disk

namespace Layout

variable {base : String} {s : Source} {a : Artifacts}

theorem contained_of_mem_files (contained : Path.Contained base) (documented : a.Documented)
    {file : String × String} (member : file ∈ files base s a) : Path.Contained file.1 := by
  obtain ⟨directory, name, normal, normal', same⟩ := spot_of_mem_files documented member
  rw [same, Path.Contained, Path.segments_below base normal.single normal'.single,
    List.forall_mem_append, List.forall_mem_cons, List.forall_mem_singleton]
  exact ⟨contained, normal, normal'⟩

theorem place_of_contained {file : String × String} (contained : Path.Contained file.1)
    (h : Holdings) (root : String) :
    h.place root file = Path.location h.current root ++ Path.segments file.1 :=
  Path.location_join contained h.current root

/-- Below a root, contained paths lead to different places. -/
theorem path_of_place {x y : String × String} (contained : Path.Contained x.1)
    (contained' : Path.Contained y.1) {h : Holdings} {root : String}
    (same : h.place root x = h.place root y) : x.1 = y.1 := by
  rw [place_of_contained contained, place_of_contained contained'] at same
  exact Path.segments_injective (List.append_cancel_left same)

theorem files_apart (contained : Path.Contained base) (documented : a.Documented) (h : Holdings)
    (root : String) :
    (files base s a).Pairwise fun x y => h.place root x ≠ h.place root y := by
  refine (files_sorted base s a).imp_of_mem ?_
  intro x y inside inside' before same
  have path := path_of_place (contained_of_mem_files contained documented inside)
    (contained_of_mem_files contained documented inside') same
  rw [path] at before
  exact String.lt_irrefl _ before

end Layout

namespace Holdings

/-- Of these files the first `k` have been stored, each at its place, and no other file has been touched:
none of those that would have come later, and none that was there. -/
structure Stored (root : String) (files : List (String × String)) (k : Nat)
    (before after : Holdings) : Prop where
  written : ∀ file ∈ files.take k, after.files (before.place root file) = some (some file.2)
  later : ∀ file ∈ files.drop k,
    after.files (before.place root file) = before.files (before.place root file)
  others : ∀ place, (∀ file ∈ files.take k, place ≠ before.place root file) →
    after.files place = before.files place

theorem stored_of_storeAll {before after : Holdings} {root : String}
    {written rest : List (String × String)}
    (apart : (written ++ rest).Pairwise fun x y => before.place root x ≠ before.place root y)
    (seen : after = before.storeAll root written) :
    Stored root (written ++ rest) written.length before after := by
  obtain ⟨each, -, between⟩ := List.pairwise_append.mp apart
  subst seen
  refine ⟨?_, ?_, ?_⟩
  · intro file member
    rw [List.take_left] at member
    exact storeAll_stored each member
  · intro file member
    rw [List.drop_left] at member
    exact storeAll_other fun other inside same => between other inside file member same.symm
  · intro place other
    rw [List.take_left] at other
    exact storeAll_other other

end Holdings

namespace Writing

variable {σ : Type} {host : Host (StateM σ)} {view : σ → Holdings} {base : String} {a : Artifacts}

/-- A file that is the only one to write is reported with the number of its artifacts. -/
theorem written_single {root : String} {o : Outcome} (ok : o.result = .ok a) {taken : List String}
    (allotted : Layout.uniqueBase o.source taken = base) {now : σ}
    (stored : ((host.writeFiles root (Layout.files base o.source a)).run now).1.2 = .ok ()) :
    ((writeAll host root taken [o]).run now).1.written =
      [⟨o.source.path, base, (Layout.files base o.source a).length⟩] := by
  subst allotted
  simp only [writeAll, Layout.takeBase, ok, StateT.run_bind]
  cases run : (host.writeFiles root (Layout.files (Layout.uniqueBase o.source taken) o.source a)).run
      now with
  | mk answer later =>
    obtain ⟨events, result⟩ := answer
    rw [run] at stored
    cases stored
    rfl

/-- Writing the layout of a file stores all of it, or else its first files in the order of their paths,
those before the one that is refused; and it touches nothing else. As many files are noted down as are
stored, and their number is reported if they are all. -/
theorem layout_stored (keeps : host.Keeps view) (contained : Path.Contained base)
    (documented : a.Documented) (s : Source) (root : String) (now : σ) :
    let files := Layout.files base s a
    let run := (host.writeFiles root files).run now
    Layout.Sorted files ∧
    (run.1.2 = .ok () →
      run.1.1.length = files.length ∧
      Holdings.Stored root files files.length (view now) (view run.2) ∧
      ∀ (o : Outcome) (taken : List String), o.source = s → o.result = .ok a →
        Layout.uniqueBase s taken = base →
        ((writeAll host root taken [o]).run now).1.written = [⟨s.path, base, files.length⟩]) ∧
    ∀ r, run.1.2 = .error r →
      ∃ k < files.length, run.1.1.length = k ∧
        Holdings.Stored root files k (view now) (view run.2) := by
  intro files run
  have apart : files.Pairwise fun x y => (view now).place root x ≠ (view now).place root y :=
    Layout.files_apart contained documented (view now) root
  obtain ⟨written, rest, all, notes, seen, whole⟩ :
      ∃ written rest, files = written ++ rest ∧ run.1.1 = Host.wrote root written ∧
        view run.2 = (view now).storeAll root written ∧ (run.1.2 = .ok () ↔ rest = []) :=
    keeps.writeFiles rfl
  have size : files.length = written.length + rest.length := by rw [all, List.length_append]
  have noted : run.1.1.length = written.length := by rw [notes, Host.wrote, List.length_map]
  have stored : Holdings.Stored root files written.length (view now) (view run.2) := by
    rw [all] at apart ⊢
    exact Holdings.stored_of_storeAll apart seen
  refine ⟨Layout.files_sorted base s a, ?_, ?_⟩
  · intro ok
    have none : rest = [] := whole.mp ok
    have complete : files.length = written.length := by rw [size, none]; rfl
    refine ⟨noted.trans complete.symm, complete ▸ stored, ?_⟩
    rintro o taken rfl success allotted
    exact written_single success allotted ok
  · intro r failed
    have some : rest ≠ [] := by
      intro none
      rw [whole.mpr none] at failed
      cases failed
    have more := List.length_pos_iff.mpr some
    exact ⟨written.length, by omega, noted, stored⟩

/-- A device that has room for the directories, and then for two texts. -/
def filling (n : Nat) : Option Refusal :=
  if n < 11 then none else some (.other "No space left on device (os error 28)")

def intrudingFiles : List (String × String) :=
  Layout.files "output/main" ⟨"main.py", none, "python", ""⟩ Layout.intruding

def fillingRun : (List Event × Except Refusal Unit) × (Disk × Nat) :=
  ((Disk.host.faulty filling).writeFiles "out" intrudingFiles).run (⟨[], []⟩, 0)

theorem fillingRun_refused : fillingRun.1.1.length = 2 ∧ fillingRun.1.2.isOk = false := by
  decide +kernel

theorem layout_stored_filling :
    Path.Contained "output/main" ∧ Layout.intruding.Documented ∧
      (Disk.host.faulty filling).Keeps (fun now => now.1.holdings) ∧
      (∃ r, fillingRun.1.2 = .error r) ∧
      Holdings.Stored "out" intrudingFiles 2 (Disk.mk [] []).holdings fillingRun.2.1.holdings := by
  have contained : Path.Contained "output/main" := by decide
  have documented : Layout.intruding.Documented := Artifacts.documented_of _ _ _
  have keeps := Disk.host_keeps.faulty filling
  have stopped := (layout_stored keeps contained documented
    ⟨"main.py", none, "python", ""⟩ "out" (⟨[], []⟩, 0)).2.2
  refine ⟨contained, documented, keeps, ?_⟩
  have refused := fillingRun_refused
  unfold fillingRun intrudingFiles at refused ⊢
  generalize ((Disk.host.faulty filling).writeFiles "out" _).run (⟨[], []⟩, 0) = run at stopped refused ⊢
  obtain ⟨count, failed⟩ := refused
  cases answer : run.1.2 with
  | ok u =>
    rw [answer] at failed
    cases failed
  | error r =>
    obtain ⟨k, -, noted, stored⟩ := stopped r answer
    rw [← noted.symm.trans count]
    exact ⟨⟨r, rfl⟩, stored⟩

end Writing

end Retrofit
