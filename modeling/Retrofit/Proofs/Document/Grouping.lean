import Mathlib.Data.List.Perm.Basic
import Retrofit.Document.Inspection
import Retrofit.Proofs.Report.Feedback

/-! Debt is grouped by severity, and the groups one after the other are the debts sorted by it, the worst
first. A text that goes through the groups is therefore also the text of one pass over the sorted debts, with
a heading wherever the severity changes. -/
namespace Retrofit

namespace Debt

/-- The first debt is at least as severe as the second. -/
def precedes (a b : Debt) : Bool :=
  decide (b.severity.index.val ≤ a.severity.index.val)

/-- By descending severity; the sort of the library keeps debts of equal severity in their order. -/
def ranked (ds : List Debt) : List Debt :=
  ds.mergeSort precedes

/-- The same debts with the worst first, and in their old order where they are equally severe. -/
structure Ranking (ds sorted : List Debt) : Prop where
  perm : sorted.Perm ds
  descending : sorted.Pairwise fun a b => b.severity.index.val ≤ a.severity.index.val
  stable : ∀ s : Severity, sorted.filter (·.severity = s) = ds.filter (·.severity = s)

variable {ds xs ys : List Debt}

theorem index_injective {s t : Severity} (same : s.index.val = t.index.val) : s = t := by
  revert same
  cases s <;> cases t <;> decide

theorem perm_of_stable
    (stable : ∀ s : Severity, xs.filter (·.severity = s) = ds.filter (·.severity = s)) :
    xs.Perm ds := by
  rw [List.perm_iff_count]
  intro d
  have kept (ys : List Debt) : (ys.filter (·.severity = d.severity)).count d = ys.count d :=
    List.count_filter (by simp)
  rw [← kept xs, stable, kept]

/-- A list in descending order is determined by its parts of equal severity. -/
theorem eq_of_stable (descending : xs.Pairwise fun a b => b.severity.index.val ≤ a.severity.index.val)
    (descending' : ys.Pairwise fun a b => b.severity.index.val ≤ a.severity.index.val)
    (stable : ∀ s : Severity, xs.filter (·.severity = s) = ys.filter (·.severity = s)) : xs = ys := by
  induction xs generalizing ys with
  | nil => exact (perm_of_stable stable).nil_eq
  | cons x xs ih =>
    cases ys with
    | nil => exact (perm_of_stable stable).eq_nil
    | cons y ys =>
      have perm := perm_of_stable stable
      rw [List.pairwise_cons] at descending descending'
      have below : y.severity.index.val ≤ x.severity.index.val := by
        rcases List.mem_cons.mp (perm.mem_iff.mpr List.mem_cons_self) with rfl | later
        · exact Nat.le_refl _
        · exact descending.1 y later
      have above : x.severity.index.val ≤ y.severity.index.val := by
        rcases List.mem_cons.mp (perm.mem_iff.mp List.mem_cons_self) with rfl | later
        · exact Nat.le_refl _
        · exact descending'.1 x later
      have same : y.severity = x.severity := index_injective (Nat.le_antisymm below above)
      have first := stable x.severity
      simp only [List.filter_cons, same, decide_true, if_true, List.cons.injEq] at first
      obtain ⟨rfl, -⟩ := first
      rw [ih descending.2 descending'.2]
      intro s
      have parts := stable s
      rw [List.filter_cons, List.filter_cons] at parts
      split at parts
      · exact (List.cons.inj parts).2
      · exact parts

theorem Ranking.unique (first : Ranking ds xs) (second : Ranking ds ys) : xs = ys :=
  eq_of_stable first.descending second.descending fun s => (first.stable s).trans (second.stable s).symm

theorem ranked_ranking (ds : List Debt) : Ranking ds (ranked ds) := by
  have trans (a b c : Debt) (first : a.precedes b = true) (second : b.precedes c = true) :
      a.precedes c = true := by
    simp only [precedes, decide_eq_true_eq] at first second ⊢
    exact Nat.le_trans second first
  have total (a b : Debt) : (a.precedes b || b.precedes a) = true := by
    simp only [precedes, Bool.or_eq_true, decide_eq_true_eq]
    exact Nat.le_total _ _
  have perm : (ranked ds).Perm ds := List.mergeSort_perm ds precedes
  refine ⟨perm, ?_, ?_⟩
  · exact (List.pairwise_mergeSort trans total ds).imp fun within => by simpa [precedes] using within
  · intro s
    -- debts of one severity are in order as they are, and sorting keeps what is in order
    have level : (ds.filter (·.severity = s)).Pairwise fun a b => a.precedes b = true := by
      apply List.pairwise_of_forall_mem_list
      intro a ha b hb
      have sa : a.severity = s := by simpa using (List.mem_filter.mp ha).2
      have sb : b.severity = s := by simpa using (List.mem_filter.mp hb).2
      simp [precedes, sa, sb]
    have part := List.sublist_mergeSort trans total level List.filter_sublist
    have inside := part.filter (·.severity = s)
    rw [List.filter_filter] at inside
    simp only [Bool.and_self] at inside
    exact (inside.eq_of_length (perm.filter _).length_eq.symm).symm

section Pass

variable {α : Type} (heading : Severity → List α) (entry : Debt → List α)

/-- One pass over a list of debts, which carries the severity of the debt before. A debt of another severity
gets a heading. -/
def passed : Option Severity → List Debt → List α
  | _, [] => []
  | last, d :: ds =>
    (if last = some d.severity then [] else heading d.severity) ++ entry d ++
      passed (some d.severity) ds

variable {s : Severity} {last : Option Severity}

theorem passed_level (level : ∀ d ∈ xs, d.severity = s) (ys : List Debt) :
    passed heading entry (some s) (xs ++ ys) =
      xs.flatMap entry ++ passed heading entry (some s) ys := by
  induction xs with
  | nil => rfl
  | cons x xs ih =>
    rw [List.forall_mem_cons] at level
    rw [List.cons_append, passed, level.1, if_pos rfl, ih level.2, List.nil_append, List.flatMap_cons,
      List.append_assoc]

theorem passed_group (level : ∀ d ∈ xs, d.severity = s) (solid : xs ≠ []) (change : last ≠ some s)
    (ys : List Debt) :
    passed heading entry last (xs ++ ys) =
      heading s ++ xs.flatMap entry ++ passed heading entry (some s) ys := by
  cases xs with
  | nil => exact absurd rfl solid
  | cons x xs =>
    rw [List.forall_mem_cons] at level
    rw [List.cons_append, passed, level.1, if_neg change, passed_level heading entry level.2,
      List.flatMap_cons]
    simp only [List.append_assoc]

/-- Going through groups of different severities, with a heading for each, is one pass. -/
theorem passed_groups (groups : List (Severity × List Debt))
    (level : ∀ g ∈ groups, ∀ d ∈ g.2, d.severity = g.1) (solid : ∀ g ∈ groups, g.2 ≠ [])
    (apart : groups.Pairwise fun g h => g.1 ≠ h.1) (change : ∀ g ∈ groups, last ≠ some g.1) :
    passed heading entry last (groups.flatMap (·.2)) =
      groups.flatMap fun g => heading g.1 ++ g.2.flatMap entry := by
  induction groups generalizing last with
  | nil => rfl
  | cons g groups ih =>
    rw [List.forall_mem_cons] at level solid change
    rw [List.pairwise_cons] at apart
    have later : ∀ h ∈ groups, some g.1 ≠ some h.1 :=
      fun h member same => apart.1 h member (Option.some.inj same)
    rw [List.flatMap_cons, List.flatMap_cons, passed_group heading entry level.1 solid.1 change.1,
      ih level.2 solid.2 apart.2 later]

end Pass

end Debt

namespace Project

theorem filter_debtsOf (p : Project) (s t : Severity) :
    (p.debtsOf s).filter (·.severity = t) = if s = t then p.debtsOf t else [] := by
  rw [debtsOf, List.filter_filter]
  split
  · rename_i same
    subst same
    simp only [Bool.and_self]
    rfl
  · rename_i other
    rw [List.filter_eq_nil_iff]
    intro d _ both
    simp only [Bool.and_eq_true, decide_eq_true_eq] at both
    exact other (both.2.symm.trans both.1)

theorem severity_of_mem_debtsOf {p : Project} {s : Severity} {d : Debt} (member : d ∈ p.debtsOf s) :
    d.severity = s := by
  simpa using (List.mem_filter.mp member).2

/-- The groups hold the debts of their severity, and a severity without debts has none. -/
theorem mem_debtGroups_iff {p : Project} {g : Severity × List Debt} :
    g ∈ p.debtGroups ↔ g.2 = p.debtsOf g.1 ∧ g.2 ≠ [] := by
  obtain ⟨s, ds⟩ := g
  have every : s ∈ Severity.descending := by cases s <;> decide
  simp only [debtGroups, List.mem_filter, List.mem_map, Prod.mk.injEq, decide_eq_true_eq]
  refine and_congr_left fun _ => ⟨?_, ?_⟩
  · rintro ⟨t, -, rfl, rfl⟩
    rfl
  · rintro rfl
    exact ⟨s, every, rfl, rfl⟩

theorem debtGroups_descending (p : Project) :
    p.debtGroups.Pairwise fun g h => h.1.index.val < g.1.index.val := by
  have order : Severity.descending.Pairwise fun s t => t.index.val < s.index.val := by decide
  exact (List.pairwise_map.mpr order).filter _

/-- An empty group adds nothing to the debts of all groups. -/
theorem flatMap_debtGroups (p : Project) :
    p.debtGroups.flatMap (·.2) = Severity.descending.flatMap p.debtsOf := by
  unfold debtGroups
  induction Severity.descending with
  | nil => rfl
  | cons s ss ih =>
    rw [List.map_cons, List.filter_cons, List.flatMap_cons]
    split
    · rw [List.flatMap_cons, ih]
    · rename_i empty
      have none : p.debtsOf s = [] := by simpa using empty
      rw [ih, none, List.nil_append]

theorem debtGroups_ranking (p : Project) : Debt.Ranking p.debts (p.debtGroups.flatMap (·.2)) := by
  have stable (s : Severity) : (p.debtGroups.flatMap (·.2)).filter (·.severity = s) =
      p.debts.filter (·.severity = s) := by
    rw [flatMap_debtGroups, List.filter_flatMap]
    simp only [filter_debtsOf]
    cases s <;> simp [Severity.descending, debtsOf]
  refine ⟨Debt.perm_of_stable stable, ?_, stable⟩
  rw [List.pairwise_flatMap]
  refine ⟨?_, ?_⟩
  · intro g member
    apply List.pairwise_of_forall_mem_list
    intro a ha b hb
    obtain ⟨same, -⟩ := mem_debtGroups_iff.mp member
    rw [same] at ha hb
    rw [severity_of_mem_debtsOf ha, severity_of_mem_debtsOf hb]
  · refine p.debtGroups_descending.imp_of_mem ?_
    intro g h first second order a ha b hb
    rw [(mem_debtGroups_iff.mp first).1] at ha
    rw [(mem_debtGroups_iff.mp second).1] at hb
    rw [severity_of_mem_debtsOf ha, severity_of_mem_debtsOf hb]
    exact Nat.le_of_lt order

theorem flatMap_debtGroups_eq_ranked (p : Project) : p.debtGroups.flatMap (·.2) = Debt.ranked p.debts :=
  p.debtGroups_ranking.unique (Debt.ranked_ranking p.debts)

/-- Any text that is put together group by group is that of one pass over the sorted debts. -/
theorem passed_ranked {α : Type} (heading : Severity → List α) (entry : Debt → List α) (p : Project) :
    Debt.passed heading entry none (Debt.ranked p.debts) =
      p.debtGroups.flatMap fun g => heading g.1 ++ g.2.flatMap entry := by
  rw [← flatMap_debtGroups_eq_ranked]
  apply Debt.passed_groups
  · intro g member d inside
    rw [(mem_debtGroups_iff.mp member).1] at inside
    exact severity_of_mem_debtsOf inside
  · intro g member
    exact (mem_debtGroups_iff.mp member).2
  · refine p.debtGroups_descending.imp ?_
    intro g h order same
    rw [same] at order
    exact Nat.lt_irrefl _ order
  · intro g _ impossible
    cases impossible

/-- Looking a severity up in the groups finds its debts, and nothing when it has none. -/
theorem lookup_debtGroups (p : Project) (s : Severity) :
    p.debtGroups.lookup s = if p.debtsOf s = [] then none else some (p.debtsOf s) := by
  split
  · rename_i empty
    rw [List.lookup_eq_none_iff]
    intro g member
    rw [bne_iff_ne]
    rintro rfl
    obtain ⟨same, solid⟩ := mem_debtGroups_iff.mp member
    exact solid (same.trans empty)
  · rename_i solid
    have own : (s, p.debtsOf s) ∈ p.debtGroups := mem_debtGroups_iff.mpr ⟨rfl, solid⟩
    obtain ⟨front, back, split⟩ := List.append_of_mem own
    have order := p.debtGroups_descending
    rw [split, List.pairwise_append] at order
    rw [List.lookup_eq_some_iff]
    refine ⟨front, back, split, ?_⟩
    intro g member
    rw [bne_iff_ne]
    intro same
    have below : s.index.val < g.1.index.val := order.2.2 g member _ List.mem_cons_self
    rw [same] at below
    exact Nat.lt_irrefl _ below

theorem debtCount_eq_lookup (p : Project) (s : Severity) :
    p.debtCount s = ((p.debtGroups.lookup s).map List.length).getD 0 := by
  have count : p.debtCount s = (p.debtsOf s).length := List.countP_eq_length_filter
  rw [count, lookup_debtGroups]
  split
  · rename_i empty
    rw [empty]
    rfl
  · rfl

end Project

namespace Document

def headline : Severity → String
  | .critical => "### 🔴 CRITICAL Priority"
  | .high => "### 🟠 HIGH Priority"
  | .medium => "### 🟡 MEDIUM Priority"
  | .low => "### 🟢 LOW Priority"

def theme : DebtCategory → String
  | .performance => "Performance"
  | .security => "Security"
  | .maintainability => "Maintainability"
  | .scalability => "Scalability"
  | .compatibility => "Compatibility"

theorem severityHeading_eq (s : Severity) : severityHeading s = headline s := by
  cases s <;> decide +kernel

theorem title_category (c : DebtCategory) : Text.title c.tag = theme c := by
  cases c <;> decide +kernel

theorem debtEntry_eq (d : Debt) :
    debtEntry d = ["#### " ++ theme d.category, "**Issue:** " ++ d.description,
      "**Resolution:** " ++ d.recommendation ++ "\n"] := by
  rw [debtEntry, title_category]
  rfl

theorem inspectDebt_eq (d : Debt) :
    inspectDebt d = "**" ++ theme d.category ++ ":** " ++ d.description ++ "\n" ++
      "*Recommendation:* " ++ d.recommendation ++ "\n\n" := by
  rw [inspectDebt, title_category, paragraph]
  simp only [toString, String.append_assoc]

/-- The section on debt, as one pass over the debts in order of severity. -/
def debtPass (ds : List Debt) : String :=
  Text.join "\n" <| Debt.passed (fun s => [headline s ++ "\n"])
    (fun d => ["#### " ++ theme d.category, "**Issue:** " ++ d.description,
      "**Resolution:** " ++ d.recommendation ++ "\n"])
    none (Debt.ranked ds)

/-- The part of the report that is about debt, as one pass over the debts in order of severity. -/
def inspectPass (ds : List Debt) : String :=
  if ds.isEmpty then ""
  else
    "## ⚠️ Technical Debt Analysis\n" ++
    String.join (Debt.passed (fun s => ["\n" ++ (headline s ++ "\n\n")])
      (fun d => ["**" ++ theme d.category ++ ":** " ++ d.description ++ "\n" ++
        "*Recommendation:* " ++ d.recommendation ++ "\n\n"])
      none (Debt.ranked ds))

theorem debtSection_eq_pass (p : Project) : debtSection p = debtPass p.debts := by
  unfold debtPass debtSection debtGroup
  rw [Project.passed_ranked]
  simp only [← severityHeading_eq, ← debtEntry_eq, List.singleton_append]
  rfl

theorem join_flatMap {α : Type} (f : α → List String) (xs : List α) :
    String.join (xs.flatMap f) = String.join (xs.map fun x => String.join (f x)) := by
  induction xs with
  | nil => rfl
  | cons x xs ih => rw [List.flatMap_cons, String.join_append, ih, List.map_cons, String.join_cons]

theorem inspectDebts_eq_pass (p : Project) : inspectDebts p = inspectPass p.debts := by
  have entries (ds : List Debt) : ds.flatMap (fun d => [inspectDebt d]) = ds.map inspectDebt :=
    List.map_eq_flatMap.symm
  unfold inspectDebts inspectPass
  rw [Project.passed_ranked, join_flatMap]
  simp only [← severityHeading_eq, ← inspectDebt_eq, entries, List.singleton_append, String.join_cons]
  rfl

/-- The report has the part on debt in one place, and the debts are nowhere else in it. -/
theorem inspection_debts (p : Project) :
    ∃ front back, ∀ ds, inspection { p with debts := ds } = front ++ inspectPass ds ++ back := by
  apply Exists.intro
  apply Exists.intro
  intro ds
  have back : inspectDependencies { p with debts := ds } = inspectDependencies p := rfl
  simp only [inspection, inspectDebts_eq_pass, back]
  exact String.append_assoc

end Document

/-- Severity groups are a stable sort of the debts with the worst first, and the section and the report on
debt are both written by one pass over the sorted debts. -/
theorem Project.debts_grouped (p : Project) :
    (∀ g ∈ p.debtGroups, g.2 ≠ [] ∧ g.2 = p.debts.filter (·.severity = g.1)) ∧
    (p.debtGroups.Pairwise fun g h => h.1.index.val < g.1.index.val) ∧
    Debt.Ranking p.debts (p.debtGroups.flatMap (·.2)) ∧
    p.debtGroups.flatMap (·.2) = Debt.ranked p.debts ∧
    (∀ s, p.debtCount s = ((p.debtGroups.lookup s).map List.length).getD 0) ∧
    p.debtCount .critical + p.debtCount .high + p.debtCount .medium + p.debtCount .low = p.debts.length ∧
    Document.debtSection p = Document.debtPass p.debts ∧
    Document.inspectDebts p = Document.inspectPass p.debts ∧
    ∃ front back, ∀ ds,
      Document.inspection { p with debts := ds } = front ++ Document.inspectPass ds ++ back := by
  refine ⟨?_, p.debtGroups_descending, p.debtGroups_ranking, p.flatMap_debtGroups_eq_ranked,
    p.debtCount_eq_lookup, p.debtCount_sum, Document.debtSection_eq_pass p,
    Document.inspectDebts_eq_pass p, Document.inspection_debts p⟩
  intro g member
  obtain ⟨same, solid⟩ := mem_debtGroups_iff.mp member
  exact ⟨solid, same⟩

end Retrofit
