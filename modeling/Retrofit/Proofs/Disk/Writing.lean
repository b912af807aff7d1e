import Retrofit.Disk.Store
import Retrofit.Proofs.Run.Base
import Retrofit.Proofs.Run.Batch

/-! The books after a batch has been written. Whatever the system refuses, every file is accounted for,
and the files reported as written are those that still count as successes. The system is any host whose
answers depend on a state of any kind. -/
namespace Retrofit

theorem Outcome.succeeded_of_ok {o : Outcome} {a : Artifacts} (ok : o.result = .ok a) :
    o.succeeded = true := by
  rw [Outcome.succeeded, ok]
  rfl

theorem Outcome.not_succeeded_of_error {o : Outcome} {f : StageFailure}
    (failed : o.result = .error f) : ¬ o.succeeded = true := by
  rw [Outcome.succeeded, failed]
  exact Bool.false_ne_true

namespace Writing

/-- The outcome of a file whose artifacts the system refused. -/
def refuse (o : Outcome) (r : Refusal) : Outcome :=
  { o with result := .error ⟨.output, .ofRefusal r⟩ }

variable {σ : Type}

/-- How the files of a batch are written one after the other: from the bases that are taken and a state of
the system to what is left to say and the state behind it. -/
inductive Course (host : Host (StateM σ)) (root : String) :
    (taken : List String) → (before : σ) → List Outcome → Writing → (after : σ) → Prop
  | done (taken before) : Course host root taken before [] ⟨[], [], []⟩ before
  | failed (taken before o f rest later after) (already : o.result = .error f)
      (course : Course host root taken before rest later after) :
      Course host root taken before (o :: rest)
        ⟨o :: later.outcomes, later.written, later.events⟩ after
  | kept (taken before o a base events between rest later after) (ok : o.result = .ok a)
      (allotted : Layout.uniqueBase o.source taken = base)
      (stored : (host.writeFiles root (Layout.files base o.source a)).run before =
        ((events, .ok ()), between))
      (course : Course host root (base :: taken) between rest later after) :
      Course host root taken before (o :: rest)
        ⟨o :: later.outcomes,
          ⟨o.source.path, base, (Layout.files base o.source a).length⟩ :: later.written,
          events ++ later.events⟩ after
  | refused (taken before o a base events r between rest later after) (ok : o.result = .ok a)
      (allotted : Layout.uniqueBase o.source taken = base)
      (stopped : (host.writeFiles root (Layout.files base o.source a)).run before =
        ((events, .error r), between))
      (course : Course host root (base :: taken) between rest later after) :
      Course host root taken before (o :: rest)
        ⟨refuse o r :: later.outcomes, later.written,
          events ++ .notWritten o.source.path base (.ofRefusal r) :: later.events⟩ after

variable {host : Host (StateM σ)} {root : String} {taken : List String} {before after : σ}
  {os : List Outcome} {w : Writing}

theorem writeAll_course (host : Host (StateM σ)) (root : String) (taken : List String)
    (os : List Outcome) (before : σ) :
    Course host root taken before os ((writeAll host root taken os).run before).1
      ((writeAll host root taken os).run before).2 := by
  induction os generalizing taken before with
  | nil => exact .done taken before
  | cons o rest ih =>
    cases result : o.result with
    | error f =>
      simp only [writeAll, result, StateT.run_bind]
      exact .failed taken before o f rest _ _ result (ih taken before)
    | ok a =>
      cases stored : (host.writeFiles root
          (Layout.files (Layout.uniqueBase o.source taken) o.source a)).run before with
      | mk answer between =>
        obtain ⟨events, verdict⟩ := answer
        have course := ih (Layout.uniqueBase o.source taken :: taken) between
        simp only [writeAll, Layout.takeBase, result, StateT.run_bind, stored]
        cases verdict with
        | ok u => exact .kept taken before o a _ events between rest _ _ result rfl stored course
        | error r =>
          exact .refused taken before o a _ events r between rest _ _ result rfl stored course

/-- What becomes of an outcome: a failure stays as it is, and so does a success, unless the system refuses
to store it. -/
inductive Settled (host : Host (StateM σ)) (root : String) : Outcome → Outcome → Prop
  | failed (o f) (already : o.result = .error f) : Settled host root o o
  | kept (o a) (ok : o.result = .ok a) : Settled host root o o
  | refused (o a base r) (now : σ) (ok : o.result = .ok a)
      (stopped : ((host.writeFiles root (Layout.files base o.source a)).run now).1.2 = .error r) :
      Settled host root o (refuse o r)

/-- The entry on a success: where its layout has been stored, and of how many files it is. -/
structure Accounts (host : Host (StateM σ)) (root : String) (o : Outcome) (x : Written) : Prop where
  named : x.source = o.source.path
  stored : ∃ a, o.result = .ok a ∧ x.files = (Layout.files x.base o.source a).length ∧
    ∃ now, ((host.writeFiles root (Layout.files x.base o.source a)).run now).1.2 = .ok ()

theorem Course.settled (course : Course host root taken before os w after) :
    List.Forall₂ (Settled host root) os w.outcomes := by
  induction course with
  | done => exact .nil
  | failed taken before o f rest later after already course ih => exact .cons (.failed o f already) ih
  | kept taken before o a base events between rest later after ok allotted stored course ih =>
    exact .cons (.kept o a ok) ih
  | refused taken before o a base events r between rest later after ok allotted stopped course ih =>
    have refusal : ((host.writeFiles root (Layout.files base o.source a)).run before).1.2 = .error r := by
      rw [stopped]
    exact .cons (.refused o a base r before ok refusal) ih

theorem Settled.source {o o' : Outcome} (settled : Settled host root o o') : o'.source = o.source := by
  cases settled <;> rfl

theorem sources_of_settled {later : List Outcome}
    (settled : List.Forall₂ (Settled host root) os later) :
    later.map (·.source) = os.map (·.source) := by
  induction settled with
  | nil => rfl
  | cons settled _ ih => rw [List.map_cons, List.map_cons, settled.source, ih]

theorem Course.accounts (course : Course host root taken before os w after) :
    List.Forall₂ (Accounts host root) (w.outcomes.filter (·.succeeded)) w.written := by
  induction course with
  | done => exact .nil
  | failed taken before o f rest later after already course ih =>
    rwa [List.filter_cons_of_neg (Outcome.not_succeeded_of_error already)]
  | kept taken before o a base events between rest later after ok allotted stored course ih =>
    have success : ((host.writeFiles root (Layout.files base o.source a)).run before).1.2 = .ok () := by
      rw [stored]
    rw [List.filter_cons_of_pos (Outcome.succeeded_of_ok ok)]
    exact .cons ⟨rfl, a, ok, rfl, before, success⟩ ih
  | refused taken before o a base events r between rest later after ok allotted stopped course ih =>
    have failure : ¬ (refuse o r).succeeded = true := Outcome.not_succeeded_of_error rfl
    rwa [List.filter_cons_of_neg failure]

/-- The bases reported are among those that the successes were allotted, in the same order. -/
theorem Course.bases (course : Course host root taken before os w after) :
    (w.written.map (·.base)).Sublist
      (Layout.allot taken ((os.filter (·.succeeded)).map (·.source))) := by
  induction course with
  | done => exact .slnil
  | failed taken before o f rest later after already course ih =>
    rwa [List.filter_cons_of_neg (Outcome.not_succeeded_of_error already)]
  | kept taken before o a base events between rest later after ok allotted stored course ih =>
    rw [List.filter_cons_of_pos (Outcome.succeeded_of_ok ok)]
    simp only [List.map_cons, Layout.allot_cons, allotted]
    exact ih.cons_cons base
  | refused taken before o a base events r between rest later after ok allotted stopped course ih =>
    -- the base has been allotted, but nothing is reported to be there
    rw [List.filter_cons_of_pos (Outcome.succeeded_of_ok ok), List.map_cons, Layout.allot_cons, allotted]
    exact ih.cons base

/-- After writing, every file is still there; failures are as they were, and a success that is none any
more failed at the output stage; and the entries written are those of the successes that are left, each
with a base of its own. -/
theorem writeAll_accounts (host : Host (StateM σ)) (root : String) (os : List Outcome) (before : σ) :
    let w := ((writeAll host root [] os).run before).1
    w.outcomes.length = os.length ∧
      w.outcomes.map (·.source) = os.map (·.source) ∧
      List.Forall₂ (Settled host root) os w.outcomes ∧
      List.Forall₂ (Accounts host root) (w.outcomes.filter (·.succeeded)) w.written ∧
      succeededCount w.outcomes = w.written.length ∧
      (w.written.map (·.base)).Nodup ∧
      (w.written.map (·.base)).Sublist
        (Layout.allot [] ((os.filter (·.succeeded)).map (·.source))) := by
  intro w
  have course := writeAll_course host root [] os before
  have settled := course.settled
  have accounts := course.accounts
  have count : succeededCount w.outcomes = w.written.length := by
    rw [succeededCount, List.countP_eq_length_filter]
    exact accounts.length_eq
  have distinct : (w.written.map (·.base)).Nodup := by
    apply List.Nodup.sublist course.bases
    exact Layout.allot_nodup _ _
  exact ⟨settled.length_eq.symm, sources_of_settled settled, settled, accounts, count, distinct,
    course.bases⟩

end Writing

end Retrofit
