import Retrofit.Proofs.Disk.Writing
import Retrofit.Proofs.Run.Placement

/-! How far the base of a file depends on what becomes of the others. A file whose artifacts the system
refuses keeps its base from the files behind it. A file that failed before has none, and then a later one
may move up to it. -/
namespace Retrofit

/-- The sources of the successes of a batch, which get their bases one after the other. -/
def succeededSources (os : List Outcome) : List Source :=
  (os.filter (·.succeeded)).map (·.source)

theorem succeededSources_sublist (os : List Outcome) :
    (succeededSources os).Sublist (os.map (·.source)) :=
  List.filter_sublist.map _

theorem succeededSources_cons_ok {o : Outcome} {a : Artifacts} (ok : o.result = .ok a)
    (os : List Outcome) : succeededSources (o :: os) = o.source :: succeededSources os := by
  rw [succeededSources, List.filter_cons_of_pos (Outcome.succeeded_of_ok ok)]
  rfl

theorem succeededSources_cons_error {o : Outcome} {f : StageFailure} (failed : o.result = .error f)
    (os : List Outcome) : succeededSources (o :: os) = succeededSources os := by
  rw [succeededSources, List.filter_cons_of_neg (Outcome.not_succeeded_of_error failed)]
  rfl

theorem succeededCount_cons_ok {o : Outcome} {a : Artifacts} (ok : o.result = .ok a)
    (os : List Outcome) : succeededCount (o :: os) = succeededCount os + 1 :=
  List.countP_cons_of_pos (Outcome.succeeded_of_ok ok)

theorem succeededCount_cons_error {o : Outcome} {f : StageFailure} (failed : o.result = .error f)
    (os : List Outcome) : succeededCount (o :: os) = succeededCount os :=
  List.countP_cons_of_neg (Outcome.not_succeeded_of_error failed)

theorem exists_outcomes (a : Artifacts) {xs ys : List Source} (chosen : xs.Sublist ys) :
    ∃ os : List Outcome, os.map (·.source) = ys ∧ succeededSources os = xs := by
  induction chosen with
  | slnil => exact ⟨[], rfl, rfl⟩
  | cons s chosen ih =>
    obtain ⟨os, batch, successes⟩ := ih
    refine ⟨⟨s, .error ⟨.analysis, .model ""⟩⟩ :: os, congrArg (s :: ·) batch, ?_⟩
    rw [succeededSources_cons_error rfl, successes]
  | cons_cons s chosen ih =>
    obtain ⟨os, batch, successes⟩ := ih
    refine ⟨⟨s, .ok a⟩ :: os, congrArg (s :: ·) batch, ?_⟩
    rw [succeededSources_cons_ok rfl, successes]

namespace Host

variable {σ : Type} {host : Host (StateM σ)} {root : String}

theorem run_of_ok {x : StateM σ (Except Refusal Unit)} {now : σ} (ok : (x.run now).1 = .ok ()) :
    ∃ later, x.run now = (.ok (), later) :=
  ⟨(x.run now).2, Prod.ext ok rfl⟩

/-- A system that refuses no file. -/
def Obliging (host : Host (StateM σ)) : Prop :=
  ∀ path content now, ((host.place path content).run now).1 = .ok ()

theorem obliging_of_open (makes : ∀ path now, ((host.makeDirectory path).run now).1 = .ok ())
    (writes : ∀ path content now, ((host.writeText path content).run now).1 = .ok ()) :
    host.Obliging := by
  have made (p : Path) (now : σ) : ((host.makeDirectories p).run now).1 = .ok () := by
    unfold makeDirectories
    rw [makeAll]
    by_cases empty : p.text = ""
    · rw [if_pos empty]
      rfl
    · obtain ⟨later, answer⟩ := run_of_ok (makes p.text now)
      simp only [if_neg empty, StateT.run_bind, answer]
      rfl
  intro path content now
  unfold place
  cases (Path.ofText path).parent? with
  | none => exact writes path content now
  | some above =>
    obtain ⟨later, answer⟩ := run_of_ok (made above now)
    simp only [StateT.run_bind, answer]
    exact writes path content later

theorem Obliging.writeFiles (obliging : host.Obliging) (root : String)
    (files : List (String × String)) (now : σ) :
    ((host.writeFiles root files).run now).1.2 = .ok () := by
  induction files generalizing now with
  | nil => rfl
  | cons file files ih =>
    obtain ⟨later, answer⟩ := run_of_ok (obliging (Path.join root file.1) file.2 now)
    simp only [Host.writeFiles, StateT.run_bind, answer]
    exact ih later

theorem writeFiles_error {file : String × String} {now between : σ} {r : Refusal}
    (placed : (host.place (Path.join root file.1) file.2).run now = (.error r, between))
    (files : List (String × String)) :
    (host.writeFiles root (file :: files)).run now = (([], .error r), between) := by
  rw [writeFiles, run_bind_of placed]
  rfl

theorem writeFiles_ok {file : String × String} {now between : σ}
    (placed : (host.place (Path.join root file.1) file.2).run now = (.ok (), between))
    {files : List (String × String)} {events : List Event} {result : Except Refusal Unit} {later : σ}
    (others : (host.writeFiles root files).run between = ((events, result), later)) :
    (host.writeFiles root (file :: files)).run now =
      ((.wrote (Path.join root file.1) :: events, result), later) := by
  rw [writeFiles, run_bind_of placed]
  dsimp only
  rw [run_bind_of others]
  rfl

/-- What is noted down when all of the files are written. -/
def wrote (root : String) (files : List (String × String)) : List Event :=
  files.map fun file => .wrote (Path.join root file.1)

theorem wrote_of_writeFiles {files : List (String × String)} {now later : σ} {events : List Event}
    (stored : (host.writeFiles root files).run now = ((events, .ok ()), later)) :
    events = wrote root files := by
  induction files generalizing now events with
  | nil =>
    cases stored
    rfl
  | cons file files ih =>
    cases answer : (host.place (Path.join root file.1) file.2).run now with
    | mk result between =>
      cases result with
      | error r =>
        rw [writeFiles_error answer] at stored
        cases stored
      | ok u =>
        cases rest : (host.writeFiles root files).run between with
        | mk answers last =>
          obtain ⟨noted, result⟩ := answers
          rw [writeFiles_ok answer rest] at stored
          cases stored
          exact congrArg (_ :: ·) (ih rest)

end Host

namespace Writing

variable {σ : Type} {host : Host (StateM σ)} {root : String} {taken : List String} {before after : σ}
  {os : List Outcome} {w : Writing}

/-- What is reported on file `i`, if it is a success: the entries stand in the order of the successes. -/
def account? (w : Writing) (i : Nat) : Option Written :=
  match w.outcomes[i]? with
  | some o => if o.succeeded then w.written[succeededCount (w.outcomes.take i)]? else none
  | none => none

/-- File `i`, with these artifacts, is reported to be stored below a base, and its whole layout has been
written there. -/
structure StoredAt (root : String) (w : Writing) (i : Nat) (s : Source) (a : Artifacts)
    (base : String) : Prop where
  reported : w.account? i = some ⟨s.path, base, (Layout.files base s a).length⟩
  wrote : Host.wrote root (Layout.files base s a) <:+: w.events

theorem StoredAt.unique {i : Nat} {s s' : Source} {a a' : Artifacts} {base base' : String}
    (stored : StoredAt root w i s a base) (stored' : StoredAt root w i s' a' base') :
    base = base' := by
  have entry := stored.reported.symm.trans stored'.reported
  injection entry with entry
  injection entry

theorem Course.unrefused (obliging : host.Obliging) (course : Course host root taken before os w after) :
    w.outcomes = os := by
  induction course with
  | done => rfl
  | failed taken before o f rest later after already course ih => exact congrArg (o :: ·) ih
  | kept taken before o a base events between rest later after ok allotted stored course ih =>
    exact congrArg (o :: ·) ih
  | refused taken before o a base events r between rest later after ok allotted stopped course ih =>
    have success := obliging.writeFiles root (Layout.files base o.source a) before
    rw [stopped] at success
    cases success

theorem account?_zero {o : Outcome} {a : Artifacts} (ok : o.result = .ok a) (outcomes : List Outcome)
    (x : Written) (written : List Written) (events : List Event) :
    account? ⟨o :: outcomes, x :: written, events⟩ 0 = some x :=
  if_pos (Outcome.succeeded_of_ok ok)

theorem account?_succ_ok {o : Outcome} {a : Artifacts} (ok : o.result = .ok a) (w : Writing) (x : Written)
    (events : List Event) (i : Nat) :
    account? ⟨o :: w.outcomes, x :: w.written, events⟩ (i + 1) = w.account? i := by
  simp only [account?, List.getElem?_cons_succ, List.take_succ_cons, succeededCount_cons_ok ok]

theorem account?_succ_error {o : Outcome} {f : StageFailure} (failed : o.result = .error f) (w : Writing)
    (events : List Event) (i : Nat) :
    account? ⟨o :: w.outcomes, w.written, events⟩ (i + 1) = w.account? i := by
  simp only [account?, List.getElem?_cons_succ, List.take_succ_cons, succeededCount_cons_error failed]

/-- Where a file goes that is written: it gets the best of its names that none of the successes before it
has, and those that the system refused count among them. -/
theorem Course.storedAt (course : Course host root taken before os w after) {i : Nat} {o : Outcome}
    {a : Artifacts} (here : os[i]? = some o) (ok : o.result = .ok a) (kept : w.outcomes[i]? = some o) :
    StoredAt root w i o.source a
      (Layout.uniqueBase o.source (Layout.allot taken (succeededSources (os.take i)) ++ taken)) := by
  induction course generalizing i with
  | done => cases here
  | failed taken before x f rest later after already course ih =>
    cases i with
    | zero =>
      cases here
      rw [already] at ok
      cases ok
    | succ i =>
      obtain ⟨reported, wrote⟩ := ih here kept
      rw [List.take_succ_cons, succeededSources_cons_error already]
      exact ⟨(account?_succ_error already later _ i).trans reported, wrote⟩
  | kept taken before x b base events between rest later after success allotted stored course ih =>
    have noted := Host.wrote_of_writeFiles stored
    cases i with
    | zero =>
      cases here
      cases success.symm.trans ok
      subst allotted
      refine ⟨account?_zero ok _ _ _ _, ?_⟩
      rw [noted]
      exact (List.prefix_append _ _).isInfix
    | succ i =>
      obtain ⟨reported, wrote⟩ := ih here kept
      rw [List.take_succ_cons, succeededSources_cons_ok success, Layout.allot_cons, Layout.uniqueBase_first,
        allotted]
      exact ⟨(account?_succ_ok success later _ _ i).trans reported,
        wrote.trans (List.suffix_append _ _).isInfix⟩
  | refused taken before x b base events r between rest later after success allotted stopped course ih =>
    cases i with
    | zero =>
      -- the file itself is refused, and so it is not kept
      cases here
      have same : refuse o r = o := Option.some.inj kept
      rw [← same] at ok
      cases ok
    | succ i =>
      obtain ⟨reported, wrote⟩ := ih here kept
      rw [List.take_succ_cons, succeededSources_cons_ok success, Layout.allot_cons, Layout.uniqueBase_first,
        allotted]
      refine ⟨(account?_succ_error rfl later _ i).trans reported, wrote.trans ?_⟩
      exact ((List.suffix_cons _ _).trans (List.suffix_append _ _)).isInfix

/-- The writing of a batch from a state of the system. -/
def ofRun (host : Host (StateM σ)) (root : String) (now : σ) (os : List Outcome) : Writing :=
  ((writeAll host root [] os).run now).1

theorem ofRun_storedAt (root : String) {now : σ} {i : Nat} {o : Outcome} {a : Artifacts}
    (here : os[i]? = some o) (ok : o.result = .ok a)
    (kept : (ofRun host root now os).outcomes[i]? = some o) :
    StoredAt root (ofRun host root now os) i o.source a
      (Layout.uniqueBase o.source (Layout.allot [] (succeededSources (os.take i)))) := by
  have stored := (writeAll_course host root [] os now).storedAt here ok kept
  rwa [List.append_nil] at stored

theorem obliged_storedAt (obliging : host.Obliging) (root : String) (now : σ) {i : Nat}
    {o : Outcome} {a : Artifacts} (here : os[i]? = some o) (ok : o.result = .ok a) :
    StoredAt root (ofRun host root now os) i o.source a
      (Layout.uniqueBase o.source (Layout.allot [] (succeededSources (os.take i)))) := by
  apply ofRun_storedAt root here ok
  rw [ofRun, (writeAll_course host root [] os now).unrefused obliging]
  exact here

theorem obliged_storedAt_alone (obliging : host.Obliging) (root : String) (now : σ) {i : Nat}
    {o : Outcome} {a : Artifacts} (here : os[i]? = some o) (ok : o.result = .ok a)
    (alone : succeededSources (os.take i) = []) :
    StoredAt root (ofRun host root now os) i o.source a (Layout.firstBase o.source) := by
  have stored := obliged_storedAt obliging root now here ok
  rwa [alone, Layout.allot, Layout.uniqueBase_of_free List.not_mem_nil] at stored

theorem exists_outcomes_around (a : Artifacts) {sources xs : List Source} {i : Nat} {s : Source}
    (here : sources[i]? = some s) (chosen : xs.Sublist (sources.take i)) :
    ∃ os : List Outcome, os.map (·.source) = sources ∧ os[i]? = some ⟨s, .ok a⟩ ∧
      succeededSources (os.take i) = xs := by
  obtain ⟨earlier, before, successes⟩ := exists_outcomes a chosen
  obtain ⟨later, behind, -⟩ := exists_outcomes a (List.nil_sublist (sources.drop (i + 1)))
  obtain ⟨bound, found⟩ := List.getElem?_eq_some_iff.mp here
  have size : earlier.length = i := by
    have lengths := congrArg List.length before
    rw [List.length_map, List.length_take] at lengths
    omega
  refine ⟨earlier ++ ⟨s, .ok a⟩ :: later, ?_, ?_, ?_⟩
  · rw [List.map_append, List.map_cons, before, behind]
    rw [← found, List.getElem_cons_drop, List.take_append_drop]
  · rw [← size, List.getElem?_append_right (Nat.le_refl _), Nat.sub_self]
    rfl
  · rw [List.take_left' size, successes]

/-- Where a file is written depends on which of the files before it succeeded, and on nothing else: not on
what the system refuses to others, nor on the files behind. And a system that refuses nothing stores the
file below the same base whatever becomes of the others if and only if no selection of the files before
it would have the plain base of the file among their own. -/
theorem base_isolated_iff (host : Host (StateM σ)) (obliging : host.Obliging) (root : String) (now : σ)
    (a : Artifacts) {sources : List Source} {i : Nat} {s : Source} (here : sources[i]? = some s) :
    (∀ {τ : Type} (system : Host (StateM τ)) (start : τ) (os : List Outcome),
      os[i]? = some ⟨s, .ok a⟩ → (ofRun system root start os).outcomes[i]? = some ⟨s, .ok a⟩ →
      StoredAt root (ofRun system root start os) i s a
        (Layout.uniqueBase s (Layout.allot [] (succeededSources (os.take i))))) ∧
    (∀ os, (ofRun host root now os).outcomes = os) ∧
    ((∀ os os' : List Outcome, os.map (·.source) = sources → os'.map (·.source) = sources →
        os[i]? = some ⟨s, .ok a⟩ → os'[i]? = some ⟨s, .ok a⟩ →
        ∃ base, StoredAt root (ofRun host root now os) i s a base ∧
          StoredAt root (ofRun host root now os') i s a base) ↔
      ∀ xs, xs.Sublist (sources.take i) → Layout.firstBase s ∉ Layout.allot [] xs) := by
  refine ⟨fun system start os found kept => ofRun_storedAt root found rfl kept,
    fun os => (writeAll_course host root [] os now).unrefused obliging, ?_, ?_⟩
  · intro isolated xs chosen taken
    obtain ⟨os, batch, success, successes⟩ := exists_outcomes_around a here chosen
    -- against a batch in which everything before the file fails
    obtain ⟨os', batch', success', failures⟩ :=
      exists_outcomes_around a here (List.nil_sublist (sources.take i))
    obtain ⟨base, stored, stored'⟩ := isolated os os' batch batch' success success'
    obtain rfl := stored'.unique (obliged_storedAt_alone obliging root now success' rfl failures)
    have moved := stored.unique (obliged_storedAt obliging root now success rfl)
    rw [successes] at moved
    exact Layout.uniqueBase_eq_firstBase_iff.mp moved.symm taken
  · intro spared
    have plain (os : List Outcome) (batch : os.map (·.source) = sources)
        (success : os[i]? = some ⟨s, .ok a⟩) :
        StoredAt root (ofRun host root now os) i s a (Layout.firstBase s) := by
      have chosen := succeededSources_sublist (os.take i)
      rw [List.map_take, batch] at chosen
      have stored := obliged_storedAt obliging root now success rfl
      rwa [Layout.uniqueBase_of_free (spared _ chosen)] at stored
    intro os os' batch batch' success success'
    exact ⟨_, plain os batch success, plain os' batch' success'⟩

/-- A system without bounds that keeps every text. -/
def drawer : Host (StateM (List (String × String))) where
  readText path := do
    let kept ← get
    match path.text?.bind fun name => kept.lookup name with
    | some text => return .ok text
    | none => return .error .notFound
  isDirectory _ := return true
  makeDirectory _ := return .ok ()
  writeText path content := do
    modify ((path, content) :: ·)
    return .ok ()

theorem drawer_obliging : drawer.Obliging :=
  Host.obliging_of_open (fun _ _ => rfl) (fun _ _ _ => rfl)

def named (filename : String) : Source := ⟨filename, none, "", ""⟩

def unanswered : StageFailure := ⟨.analysis, .model "no answer for a.py"⟩

/-- Two files, of which the second succeeds. -/
def pair (result : Except StageFailure Artifacts) (second : String) : List Outcome :=
  [⟨named "a.py", result⟩, ⟨named second, .ok Layout.intruding⟩]

theorem base_isolated_other_stem :
    drawer.Obliging ∧ [named "a.py", named "b.js"][1]? = some (named "b.js") ∧
      ∃ base,
        StoredAt "out" (ofRun drawer "out" [] (pair (.ok Layout.intruding) "b.js")) 1 (named "b.js")
          Layout.intruding base ∧
        StoredAt "out" (ofRun drawer "out" [] (pair (.error unanswered) "b.js")) 1 (named "b.js")
          Layout.intruding base := by
  have spared (xs : List Source) (chosen : xs.Sublist [named "a.py"]) :
      Layout.firstBase (named "b.js") ∉ Layout.allot [] xs := by
    obtain rfl | rfl := List.sublist_singleton.mp chosen <;> decide +kernel
  have here : [named "a.py", named "b.js"][1]? = some (named "b.js") := rfl
  have isolated := (base_isolated_iff drawer drawer_obliging "out" [] Layout.intruding here).2.2.mpr
    spared (pair (.ok Layout.intruding) "b.js") (pair (.error unanswered) "b.js")
  exact ⟨drawer_obliging, here, isolated rfl rfl rfl rfl⟩

/-- If the first file fails, the second has the plain base, and else it has not. -/
theorem failure_moves_base :
    drawer.Obliging ∧
      (pair (.ok Layout.intruding) "a.js").map (·.source) =
        (pair (.error unanswered) "a.js").map (·.source) ∧
      StoredAt "out" (ofRun drawer "out" [] (pair (.ok Layout.intruding) "a.js")) 1 (named "a.js")
        Layout.intruding "output/a_js" ∧
      StoredAt "out" (ofRun drawer "out" [] (pair (.error unanswered) "a.js")) 1 (named "a.js")
        Layout.intruding "output/a" ∧
      ¬ ∃ base,
        StoredAt "out" (ofRun drawer "out" [] (pair (.ok Layout.intruding) "a.js")) 1 (named "a.js")
          Layout.intruding base ∧
        StoredAt "out" (ofRun drawer "out" [] (pair (.error unanswered) "a.js")) 1 (named "a.js")
          Layout.intruding base := by
  have here (result : Except StageFailure Artifacts) :
      (pair result "a.js")[1]? = some ⟨named "a.js", .ok Layout.intruding⟩ := rfl
  have beside := obliged_storedAt drawer_obliging "out" [] (here (.ok Layout.intruding)) rfl
  have alone := obliged_storedAt drawer_obliging "out" [] (here (.error unanswered)) rfl
  have second : Layout.uniqueBase (named "a.js")
      (Layout.allot [] (succeededSources ((pair (.ok Layout.intruding) "a.js").take 1))) =
        "output/a_js" := by
    change Layout.uniqueBase (named "a.js") (Layout.allot [] [named "a.py"]) = _
    decide +kernel
  have only : Layout.uniqueBase (named "a.js")
      (Layout.allot [] (succeededSources ((pair (.error unanswered) "a.js").take 1))) =
        "output/a" := by
    change Layout.uniqueBase (named "a.js") (Layout.allot [] []) = _
    decide +kernel
  rw [second] at beside
  rw [only] at alone
  refine ⟨drawer_obliging, rfl, beside, alone, ?_⟩
  rintro ⟨base, stored, stored'⟩
  have same := (beside.unique stored).trans (stored'.unique alone)
  exact absurd same (by decide)

end Writing

end Retrofit
