import Retrofit.Proofs.Skeleton.Declarations

/-! Prose is what a project says in words: summary, names of files, descriptions, the logic of functions.
Where comments begin with two slashes, it is not seen in the code of a skeleton. -/
namespace Retrofit

def Parameter.withoutProse (a : Parameter) : Parameter :=
  { a with description := none }

def Function.withoutProse (f : Function) : Function :=
  { f with
    description := ""
    inputs := f.inputs.map Parameter.withoutProse
    outputs := f.outputs.map Parameter.withoutProse
    businessLogic := none }

def Module.withoutProse (m : Module) : Module :=
  { m with
    description := ""
    functions := m.functions.map Function.withoutProse
    attributes := m.attributes.map Parameter.withoutProse }

/-- The project with the same declarations and no prose; two projects that differ in prose only have it in
common. -/
def Project.withoutProse (p : Project) : Project :=
  { p with
    legacyName := ""
    modernName := ""
    summary := ""
    modules := p.modules.map Module.withoutProse }

namespace Skeleton

variable (b : LineBreaks)

/-! A declaration without prose is the same declaration. -/

theorem javaDeclaration_withoutProse (declared : Bool) (f : Function) :
    javaDeclaration declared f.withoutProse = javaDeclaration declared f := by
  have params : javaParams f.withoutProse.inputs = javaParams f.inputs :=
    congrArg (Text.join ", ") (map_blind Parameter.withoutProse (fun _ => rfl) f.inputs)
  have returned : javaReturn f.withoutProse = javaReturn f := by
    unfold javaReturn Function.withoutProse
    cases f.outputs <;> rfl
  unfold javaDeclaration javaSignature
  rw [params, returned]
  rfl

theorem scriptDeclaration_withoutProse (keyword : String) (f : Function) :
    scriptDeclaration keyword f.withoutProse = scriptDeclaration keyword f := by
  have params : scriptParams f.withoutProse.inputs = scriptParams f.inputs :=
    congrArg (Text.join ", ") (map_blind Parameter.withoutProse (fun _ => rfl) f.inputs)
  unfold scriptDeclaration
  rw [params]
  rfl

theorem neutralDeclaration_withoutProse (f : Function) :
    neutralDeclaration f.withoutProse = neutralDeclaration f := by
  have params : neutralParams f.withoutProse.inputs = neutralParams f.inputs :=
    congrArg (Text.join ", ") (map_blind Parameter.withoutProse (fun _ => rfl) f.inputs)
  have returned : neutralReturn f.withoutProse = neutralReturn f := by
    unfold neutralReturn Function.withoutProse
    cases f.outputs <;> rfl
  unfold neutralDeclaration
  rw [params, returned]
  rfl

/-! A module without prose has the same code. -/

theorem javaModule_withoutProse (p : Project) (m : Module) :
    codeOf b .java 0 (javaModule p.withoutProse m.withoutProse) =
      codeOf b .java 0 (javaModule p m) := by
  have fields (declared : Bool) :
      m.withoutProse.attributes.map (javaField declared) = m.attributes.map (javaField declared) :=
    map_blind Parameter.withoutProse (fun _ => rfl) m.attributes
  have functions (declared : Bool) :
      m.withoutProse.functions.flatMap (javaDeclaration declared) =
        m.functions.flatMap (javaDeclaration declared) :=
    flatMap_blind Function.withoutProse (javaDeclaration_withoutProse declared) m.functions
  rw [javaModule_kept, javaModule_kept, fields, functions]
  rfl

theorem neutralModule_withoutProse (p : Project) (m : Module) :
    codeOf b .generic 0 (neutralModule p.withoutProse m.withoutProse) =
      codeOf b .generic 0 (neutralModule p m) := by
  have fields : m.withoutProse.attributes.map neutralField = m.attributes.map neutralField :=
    map_blind Parameter.withoutProse (fun _ => rfl) m.attributes
  have functions : m.withoutProse.functions.flatMap neutralDeclaration =
      m.functions.flatMap neutralDeclaration :=
    flatMap_blind Function.withoutProse neutralDeclaration_withoutProse m.functions
  rw [neutralModule_kept, neutralModule_kept, fields, functions]
  rfl

theorem scriptAttribute_withoutProse (owner : String) (depth : Nat) {a : Parameter}
    (unbroken : ∀ c ∈ a.type.toList, b.isBreak c = false) :
    (scriptAttribute owner a.withoutProse).kept b .javaScript depth =
      (scriptAttribute owner a).kept b .javaScript depth := by
  have sealed := leak_typeNote b a unbroken
  have sealed' := leak_typeNote b a.withoutProse unbroken
  rw [scriptAttribute_kept, scriptAttribute_kept, sealed, sealed']
  rfl

theorem scriptModule_withoutProse (p : Project) {m : Module}
    (unbroken : ∀ a ∈ m.attributes, ∀ c ∈ a.type.toList, b.isBreak c = false) :
    codeOf b .javaScript 0 (scriptModule p.withoutProse m.withoutProse) =
      codeOf b .javaScript 0 (scriptModule p m) := by
  have fields (owner : String) (depth : Nat) :
      codeOf b .javaScript depth (m.withoutProse.attributes.map (scriptAttribute owner)) =
        codeOf b .javaScript depth (m.attributes.map (scriptAttribute owner)) := by
    rw [Module.withoutProse, List.map_map, codeOf_map, codeOf_map]
    exact List.flatMap_congr fun a member =>
      scriptAttribute_withoutProse b owner depth (unbroken a member)
  have functions (keyword : String) :
      m.withoutProse.functions.flatMap (scriptDeclaration keyword) =
        m.functions.flatMap (scriptDeclaration keyword) :=
    flatMap_blind Function.withoutProse (scriptDeclaration_withoutProse keyword) m.functions
  have fieldless : m.withoutProse.attributes.isEmpty = m.attributes.isEmpty := List.isEmpty_map
  have kind : m.withoutProse.kind = m.kind := rfl
  have name : m.withoutProse.name = m.name := rfl
  rw [scriptModule_kept, scriptModule_kept, kind, name, fieldless, functions, functions, fields]
  cases m.attributes.isEmpty <;> simp [fields]

theorem moduleLines_withoutProse {t : Target} (braced : t ≠ .python) (p : Project) {m : Module}
    (unbroken : ∀ a ∈ m.attributes, ∀ c ∈ a.type.toList, b.isBreak c = false) :
    codeOf b t 0 (moduleLines t p.withoutProse m.withoutProse) =
      codeOf b t 0 (moduleLines t p m) := by
  cases t with
  | python => exact absurd rfl braced
  | java => exact javaModule_withoutProse b p m
  | javaScript => exact scriptModule_withoutProse b p unbroken
  | generic => exact neutralModule_withoutProse b p m

theorem skeletonFor_withoutProse {t : Target} (braced : t ≠ .python) {p : Project}
    (unbroken : ∀ m ∈ p.modules, ∀ a ∈ m.attributes, ∀ c ∈ a.type.toList, b.isBreak c = false) :
    b.code (p.withoutProse.skeletonFor t).toList = b.code (p.skeletonFor t).toList := by
  rw [code_skeletonFor, code_skeletonFor]
  have modules : p.withoutProse.modules = p.modules.map Module.withoutProse := rfl
  rw [modules, List.flatMap_map]
  exact List.flatMap_congr fun m member => moduleLines_withoutProse b braced p (unbroken m member)

/-- The types of attributes are no prose. -/
theorem unbroken_of_withoutProse {p q : Project} (same : p.withoutProse = q.withoutProse)
    (unbroken : ∀ m ∈ p.modules, ∀ a ∈ m.attributes, ∀ c ∈ a.type.toList, b.isBreak c = false) :
    ∀ m ∈ q.modules, ∀ a ∈ m.attributes, ∀ c ∈ a.type.toList, b.isBreak c = false := by
  have modules : p.modules.map Module.withoutProse = q.modules.map Module.withoutProse :=
    congrArg Project.modules same
  intro m member a listed
  have there : m.withoutProse ∈ p.modules.map Module.withoutProse := by
    rw [modules]
    exact List.mem_map_of_mem member
  obtain ⟨m', member', equal⟩ := List.mem_map.mp there
  have attributes : m'.attributes.map Parameter.withoutProse =
      m.attributes.map Parameter.withoutProse := congrArg Module.attributes equal
  have found : a.withoutProse ∈ m'.attributes.map Parameter.withoutProse := by
    rw [attributes]
    exact List.mem_map_of_mem listed
  obtain ⟨a', listed', equal'⟩ := List.mem_map.mp found
  have type : a'.withoutProse.type = a.withoutProse.type := congrArg Parameter.type equal'
  change a'.type = a.type at type
  rw [← type]
  exact unbroken m' member' a' listed'

end Skeleton

/-- Two projects that differ in nothing but prose have skeletons with the same code, in every language in
which comments begin with two slashes. -/
theorem Project.skeletonFor_code_of_prose (b : LineBreaks) {t : Target} (braced : t ≠ .python)
    {p q : Project} (same : p.withoutProse = q.withoutProse)
    (unbroken : ∀ m ∈ p.modules, ∀ a ∈ m.attributes, ∀ c ∈ a.type.toList, b.isBreak c = false) :
    b.code (p.skeletonFor t).toList = b.code (q.skeletonFor t).toList := by
  have unbroken' := Skeleton.unbroken_of_withoutProse b same unbroken
  calc b.code (p.skeletonFor t).toList
      = b.code (p.withoutProse.skeletonFor t).toList :=
        (Skeleton.skeletonFor_withoutProse b braced unbroken).symm
    _ = b.code (q.withoutProse.skeletonFor t).toList := by rw [same]
    _ = b.code (q.skeletonFor t).toList := Skeleton.skeletonFor_withoutProse b braced unbroken'

/-- A class with one field and one function, and the given text wherever a project has prose. -/
def spoken (text : String) : Project :=
  ⟨"javascript", text, text, text, [⟨"Till", .concreteClass, text, [],
    [⟨"count", text, [⟨"coins", "int[] // cents", some text⟩], [], [], [], [], [], [], some text⟩],
    [⟨"total", "int // cents", some text⟩], []⟩], [], [], []⟩

/-- Line breaks, the marks of comments and braces can be said without harm. -/
theorem spoken_code :
    let b := LineBreaks.all
    let p := spoken "/* \x7d\n\tdestroy() // \r\u2028 */"
    Target.javaScript ≠ .python ∧ p.withoutProse = (spoken "").withoutProse ∧
      (∀ m ∈ p.modules, ∀ a ∈ m.attributes, ∀ c ∈ a.type.toList, b.isBreak c = false) ∧
      b.code (p.skeletonFor .javaScript).toList = b.code ((spoken "").skeletonFor .javaScript).toList := by
  intro b p
  have braced : Target.javaScript ≠ .python := by decide
  have same : p.withoutProse = (spoken "").withoutProse := by decide
  have unbroken : ∀ m ∈ p.modules, ∀ a ∈ m.attributes, ∀ c ∈ a.type.toList, b.isBreak c = false :=
    List.forall_mem_singleton.mpr (List.forall_mem_singleton.mpr
      (b.unbroken_of_all (by decide)))
  exact ⟨braced, same, unbroken, Project.skeletonFor_code_of_prose b braced same unbroken⟩

end Retrofit
