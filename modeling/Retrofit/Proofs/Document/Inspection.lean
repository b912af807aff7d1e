import Retrofit.Proofs.Document.Grouping
import Retrofit.Proofs.Project.Strings
import Retrofit.Proofs.Text.Words
import Retrofit.Run.Batch

/-! The report on an analysis holds all that the analysis says, each word of it as it is, and the modules one
after the other. -/
namespace Retrofit

/-! What a report has to say -/

/-- The name of a returned value is not among what is reported. -/
inductive Function.Reports (f : Function) : String → Prop
  | name : f.Reports f.name
  | description : f.Reports f.description
  | modifier {s} (listed : s ∈ f.modifiers) : f.Reports s
  | input {a s} (listed : a ∈ f.inputs) (said : s ∈ a.strings) : f.Reports s
  | outputType {o} (listed : o ∈ f.outputs) : f.Reports o.type
  | outputDescription {o s} (listed : o ∈ f.outputs) (given : o.description = some s) : f.Reports s
  | businessLogic {s} (given : f.businessLogic = some s) : f.Reports s
  | sideEffect {s} (listed : s ∈ f.sideEffects) : f.Reports s
  | decision {d s} (listed : d ∈ f.decisions) (said : s ∈ d.strings) : f.Reports s
  | exception {s} (listed : s ∈ f.exceptions) : f.Reports s
  | dependency {s} (listed : s ∈ f.dependencies) : f.Reports s

inductive Module.Reports (m : Module) : String → Prop
  | name : m.Reports m.name
  | description : m.Reports m.description
  | imported {s} (listed : s ∈ m.imports) : m.Reports s
  | designPattern {s} (listed : s ∈ m.designPatterns) : m.Reports s
  | field {a s} (listed : a ∈ m.attributes) (said : s ∈ a.strings) : m.Reports s
  | function {f s} (listed : f ∈ m.functions) (said : f.Reports s) : m.Reports s

inductive Project.Reports (p : Project) : String → Prop
  | language : p.Reports (Text.upper p.language)
  | legacyName : p.Reports p.legacyName
  | modernName : p.Reports p.modernName
  | summary : p.Reports p.summary
  | module {m s} (listed : m ∈ p.modules) (said : m.Reports s) : p.Reports s
  | debt {d s} (listed : d ∈ p.debts) (said : s ∈ d.strings) : p.Reports s
  | priority {s} (listed : s ∈ p.priorities) : p.Reports s
  | dependency {s} (listed : s ∈ p.dependencies) : p.Reports s

/-! Texts inside texts -/

namespace Text

/-- The first text stands somewhere in the second. -/
def Within (s t : String) : Prop :=
  s.toList <:+: t.toList

namespace Within

variable {s t u : String}

theorem refl (s : String) : Within s s :=
  List.infix_rfl

theorem trans (first : Within s t) (second : Within t u) : Within s u :=
  List.IsInfix.trans first second

theorem left (within : Within s t) (u : String) : Within s (t ++ u) := by
  rw [Within, String.toList_append]
  exact List.infix_append_of_infix_left within

theorem right (t : String) (within : Within s u) : Within s (t ++ u) := by
  rw [Within, String.toList_append]
  exact List.infix_append_of_infix_right within

theorem concat (within : Within s t) {ts : List String} (listed : t ∈ ts) : Within s (String.join ts) := by
  obtain ⟨front, back, rfl⟩ := List.append_of_mem listed
  rw [String.join_append, String.join_cons]
  exact right _ (left within _)

theorem of_mem_map {α : Type} {f : α → String} {xs : List α} {x : α} (listed : x ∈ xs)
    (within : Within s (f x)) : Within s (String.join (xs.map f)) :=
  within.concat (List.mem_map_of_mem listed)

theorem unless_empty {α : Type} {xs : List α} {x : α} (within : Within s t) (listed : x ∈ xs) :
    Within s (if xs.isEmpty then "" else t) := by
  cases xs with
  | nil => cases listed
  | cons _ _ => exact within

theorem of_mem_join {ts : List String} (listed : t ∈ ts) (sep : String) : Within t (join sep ts) := by
  induction ts with
  | nil => cases listed
  | cons first ts ih =>
    cases ts with
    | nil =>
      rw [List.mem_singleton.mp listed]
      exact refl first
    | cons next ts =>
      rw [join]
      rcases List.mem_cons.mp listed with rfl | later
      · exact left (left (refl t) sep) _
      · exact right _ (ih later)
      · exact List.cons_ne_nil next ts

end Within

end Text

namespace Document

open Text (Within)

section Parts

variable {s : String} {xs : List String}

theorem within_paragraph (s : String) : Within s (paragraph s) :=
  (Within.refl s).left _

theorem within_labelled (member : s ∈ xs) (label : String) : Within s (labelled label xs) := by
  have entry : Within s (label ++ Text.join ", " xs) := (Within.of_mem_join member ", ").right label
  unfold labelled
  exact (entry.trans (within_paragraph _)).unless_empty member

theorem within_listed (member : s ∈ xs) (label : String) : Within s (listed label xs) := by
  have line : Within s (s ++ "\n") := (Within.refl s).left _
  unfold listed
  refine Within.unless_empty ?_ member
  exact ((Within.of_mem_map member line).right _).left _

theorem within_entry {α : Type} {entry : α → String} {ys : List α} {y : α} (member : y ∈ ys)
    (inside : Within s (entry y)) (label : String) : Within s (listed label (ys.map entry)) :=
  inside.trans (within_listed (List.mem_map_of_mem member) label)

theorem within_descriptionOr {description : Option String} (given : description = some s) :
    Within s (descriptionOr description) := by
  rw [given]
  exact Within.refl s

theorem within_typedEntry {a : Parameter} (said : s ∈ a.strings) : Within s (typedEntry a) := by
  have pieces : typedEntry a =
      String.join ["- `", a.type, " ", a.name, "`: ", descriptionOr a.description] := by
    simp [typedEntry, Text.toString_same, String.append_assoc]
  simp only [Parameter.strings, List.mem_cons, Option.mem_toList] at said
  rw [pieces]
  rcases said with rfl | rfl | given
  · exact (Within.refl _).concat (by simp)
  · exact (Within.refl _).concat (by simp)
  · exact (within_descriptionOr given).concat (by simp)

theorem within_returnEntry {o : Parameter} (said : s = o.type ∨ o.description = some s) :
    Within s (returnEntry o) := by
  have pieces : returnEntry o = String.join ["- `", o.type, "`: ", descriptionOr o.description] := by
    simp [returnEntry, Text.toString_same, String.append_assoc]
  rw [pieces]
  rcases said with rfl | given
  · exact (Within.refl _).concat (by simp)
  · exact (within_descriptionOr given).concat (by simp)

theorem within_decisionEntry {d : Decision} (said : s ∈ d.strings) : Within s (decisionEntry d) := by
  have pieces : decisionEntry d =
      String.join ["- ", d.condition, ": ", descriptionOr d.description] := by
    simp [decisionEntry, Text.toString_same, String.append_assoc]
  simp only [Decision.strings, List.mem_cons, Option.mem_toList] at said
  rw [pieces]
  rcases said with rfl | given
  · exact (Within.refl _).concat (by simp)
  · exact (within_descriptionOr given).concat (by simp)

theorem within_inspectDebt {d : Debt} (said : s ∈ d.strings) : Within s (inspectDebt d) := by
  have pieces : inspectDebt d =
      String.join ["**", Text.title d.category.tag, ":** ", d.description, "\n", "*Recommendation:* ",
        paragraph d.recommendation] := by
    simp [inspectDebt, paragraph, Text.toString_same, String.append_assoc]
  simp only [Debt.strings, List.mem_cons, List.not_mem_nil, or_false] at said
  rw [pieces]
  rcases said with rfl | rfl
  · exact (Within.refl _).concat (by simp)
  · exact (within_paragraph _).concat (by simp)

/-- An entry stands in its numbered line. -/
theorem within_numbered (member : s ∈ xs) (n : Nat) : ∃ line ∈ numbered n xs, Within s line := by
  induction xs generalizing n with
  | nil => cases member
  | cons x xs ih =>
    rw [numbered]
    rcases List.mem_cons.mp member with rfl | later
    · exact ⟨_, List.mem_cons_self, (Within.refl s).right _⟩
    · obtain ⟨line, found, inside⟩ := ih later (n + 1)
      exact ⟨line, List.mem_cons_of_mem _ found, inside⟩

end Parts

/-! Functions, modules and projects as joins of their pieces, in which a piece is found by what it is and not
by its place -/

theorem inspectFunction_eq_join (f : Function) :
    inspectFunction f = String.join
      [paragraph s!"##### `{f.name}`", paragraph f.description, labelled "**Modifiers:** " f.modifiers,
        listed "**Parameters:**" (f.inputs.map typedEntry),
        listed "**Returns:**" (f.outputs.map returnEntry),
        labelled "**Business Logic:** " f.businessLogic.toList,
        labelled "**Side Effects:** " f.sideEffects,
        listed "**Decision Points:**" (f.decisions.map decisionEntry),
        labelled "**Exceptions:** " f.exceptions, labelled "**Dependencies:** " f.dependencies] := by
  simp only [inspectFunction, String.join_cons, String.join_nil, String.append_assoc, String.append_empty]

theorem within_inspectFunction {f : Function} {s : String} (said : f.Reports s) :
    Within s (inspectFunction f) := by
  rw [inspectFunction_eq_join]
  cases said with
  | name =>
    have heading : Within f.name s!"##### `{f.name}`" := ((Within.refl _).right _).left _
    exact (heading.trans (within_paragraph _)).concat (by simp)
  | description => exact (within_paragraph _).concat (by simp)
  | modifier member =>
    have entry := within_labelled member "**Modifiers:** "
    exact entry.concat (by simp)
  | input member said =>
    have entry := within_entry member (within_typedEntry said) "**Parameters:**"
    exact entry.concat (by simp)
  | outputType member =>
    have entry := within_entry member (within_returnEntry (.inl rfl)) "**Returns:**"
    exact entry.concat (by simp)
  | outputDescription member given =>
    have entry := within_entry member (within_returnEntry (.inr given)) "**Returns:**"
    exact entry.concat (by simp)
  | businessLogic given =>
    have entry := within_labelled (Option.mem_toList.mpr given) "**Business Logic:** "
    exact entry.concat (by simp)
  | sideEffect member =>
    have entry := within_labelled member "**Side Effects:** "
    exact entry.concat (by simp)
  | decision member said =>
    have entry := within_entry member (within_decisionEntry said) "**Decision Points:**"
    exact entry.concat (by simp)
  | exception member =>
    have entry := within_labelled member "**Exceptions:** "
    exact entry.concat (by simp)
  | dependency member =>
    have entry := within_labelled member "**Dependencies:** "
    exact entry.concat (by simp)

theorem within_inspectFunctions {fs : List Function} {f : Function} (member : f ∈ fs) :
    Within (inspectFunction f) (inspectFunctions fs) := by
  have text : Within (inspectFunction f) (String.join (fs.map inspectFunction)) :=
    Within.of_mem_map member (Within.refl _)
  unfold inspectFunctions
  refine Within.unless_empty ?_ member
  exact text.right _

theorem inspectModule_eq_join (m : Module) :
    inspectModule m = String.join
      [paragraph s!"### {Text.title m.kind.tag}: `{m.name}`", paragraph m.description,
        labelled "**Design Patterns:** " m.designPatterns, labelled "**Imports:** " m.imports,
        listed "**Attributes:**" (m.attributes.map typedEntry), inspectFunctions m.functions,
        paragraph "---"] := by
  simp only [inspectModule, String.join_cons, String.join_nil, String.append_assoc, String.append_empty]

theorem within_inspectModule {m : Module} {s : String} (said : m.Reports s) :
    Within s (inspectModule m) := by
  rw [inspectModule_eq_join]
  cases said with
  | name =>
    have heading : Within m.name s!"### {Text.title m.kind.tag}: `{m.name}`" :=
      ((Within.refl _).right _).left _
    exact (heading.trans (within_paragraph _)).concat (by simp)
  | description => exact (within_paragraph _).concat (by simp)
  | imported member =>
    have entry := within_labelled member "**Imports:** "
    exact entry.concat (by simp)
  | designPattern member =>
    have entry := within_labelled member "**Design Patterns:** "
    exact entry.concat (by simp)
  | field member said =>
    have entry := within_entry member (within_typedEntry said) "**Attributes:**"
    exact entry.concat (by simp)
  | function member said =>
    have whole := (within_inspectFunction said).trans (within_inspectFunctions member)
    exact whole.concat (by simp)

variable {p : Project} {s : String}

/-- A debt stands in the group of its severity. -/
theorem within_inspectDebts {d : Debt} (member : d ∈ p.debts) (said : s ∈ d.strings) :
    Within s (inspectDebts p) := by
  have own : d ∈ p.debtsOf d.severity := List.mem_filter.mpr ⟨member, by simp⟩
  have group : (d.severity, p.debtsOf d.severity) ∈ p.debtGroups :=
    Project.mem_debtGroups_iff.mpr ⟨rfl, List.ne_nil_of_mem own⟩
  have entry : Within s (String.join ((p.debtsOf d.severity).map inspectDebt)) :=
    Within.of_mem_map own (within_inspectDebt said)
  unfold inspectDebts
  refine Within.unless_empty ?_ member
  exact Within.right _ (Within.of_mem_map group (entry.right _))

theorem within_inspectDependencies (member : s ∈ p.dependencies) : Within s (inspectDependencies p) := by
  have line : Within s s!"- {s}\n" := ((Within.refl s).right _).left _
  unfold inspectDependencies
  refine Within.unless_empty ?_ member
  exact Within.right _ (Within.of_mem_map member line)

theorem inspection_eq_join (p : Project) :
    inspection p = String.join
      [paragraph s!"# {Text.upper p.language} Code Analysis",
        s!"**Original File:** `{p.legacyName}`  \n",
        paragraph s!"**Suggested Modern Name:** `{p.modernName}`",
        paragraph "## Project Summary", paragraph p.summary, paragraph "## Architecture Overview",
        String.join (p.modules.map inspectModule), inspectDebts p,
        listed "## 🚀 Modernization Roadmap" (numbered 1 p.priorities), inspectDependencies p] := by
  simp only [inspection, String.join_cons, String.join_nil, String.append_assoc, String.append_empty]

theorem within_inspection (said : p.Reports s) : Within s (inspection p) := by
  rw [inspection_eq_join]
  cases said with
  | language =>
    have heading : Within (Text.upper p.language) s!"# {Text.upper p.language} Code Analysis" :=
      ((Within.refl _).right _).left _
    exact (heading.trans (within_paragraph _)).concat (by simp)
  | legacyName =>
    have line : Within p.legacyName s!"**Original File:** `{p.legacyName}`  \n" :=
      ((Within.refl _).right _).left _
    exact line.concat (by simp)
  | modernName =>
    have line : Within p.modernName s!"**Suggested Modern Name:** `{p.modernName}`" :=
      ((Within.refl _).right _).left _
    exact (line.trans (within_paragraph _)).concat (by simp)
  | summary => exact (within_paragraph _).concat (by simp)
  | module member said =>
    have whole := Within.of_mem_map member (within_inspectModule said)
    exact whole.concat (by simp)
  | debt member said => exact (within_inspectDebts member said).concat (by simp)
  | priority member =>
    obtain ⟨line, found, inside⟩ := within_numbered member 1
    have entry := within_listed found "## 🚀 Modernization Roadmap"
    exact (inside.trans entry).concat (by simp)
  | dependency member => exact (within_inspectDependencies member).concat (by simp)

/-- The modules are in one place of the report, and nothing else in it depends on them. -/
theorem inspection_modules (p : Project) :
    ∃ front back, ∀ ms,
      inspection { p with modules := ms } = front ++ String.join (ms.map inspectModule) ++ back := by
  apply Exists.intro
  apply Exists.intro
  intro ms
  have debts : inspectDebts { p with modules := ms } = inspectDebts p := rfl
  have dependencies : inspectDependencies { p with modules := ms } = inspectDependencies p := rfl
  simp only [inspection, debts, dependencies]
  rw [String.append_assoc, String.append_assoc]

end Document

/-- The report on a project holds everything that is to be reported, further modules are put in right after
the others, and the request for modern code begins with the report. -/
theorem Project.inspection_reports (p : Project) :
    (∀ s, p.Reports s → Text.Within s (Document.inspection p)) ∧
    (∃ front back, ∀ a b,
      Document.inspection { p with modules := a } =
        front ++ String.join (a.map Document.inspectModule) ++ back ∧
      Document.inspection { p with modules := a ++ b } =
        front ++ String.join (a.map Document.inspectModule) ++
          String.join (b.map Document.inspectModule) ++ back) ∧
    ∀ c s, (Document.inspection p).toList <+: (Request.modernization c s p).user.toList := by
  refine ⟨fun _ => Document.within_inspection, ?_, ?_⟩
  · obtain ⟨front, back, whole⟩ := Document.inspection_modules p
    refine ⟨front, back, fun a b => ⟨whole a, ?_⟩⟩
    rw [whole, List.map_append, String.join_append, ← String.append_assoc]
  · intro c s
    simp only [Request.modernization, Text.toString_same, String.toList_append, List.append_assoc]
    exact List.prefix_append _ _

def payroll : Project :=
  let raise : Function := ⟨"RAISE", "", [], [], [], [], [⟨"GRADE > 7", none⟩], [], [], none⟩
  ⟨"cobol", "payroll.cbl", "payroll.go", "", [⟨"PAYROLL", .module, "", [], [raise], [], []⟩], [], [], []⟩

theorem payroll_reported :
    payroll.Reports "GRADE > 7" ∧ Text.Within "GRADE > 7" (Document.inspection payroll) := by
  have raised : payroll.Reports "GRADE > 7" :=
    .module List.mem_cons_self
      (.function List.mem_cons_self (.decision List.mem_cons_self List.mem_cons_self))
  exact ⟨raised, payroll.inspection_reports.1 _ raised⟩

end Retrofit
