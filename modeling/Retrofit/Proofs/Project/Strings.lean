import Retrofit.Project.Basic

/-! All the strings that a project is made of. -/
namespace Retrofit

def Parameter.strings (a : Parameter) : List String :=
  a.name :: a.type :: a.description.toList

def Decision.strings (d : Decision) : List String :=
  d.condition :: d.description.toList

def Function.strings (f : Function) : List String :=
  f.name :: f.description :: f.inputs.flatMap Parameter.strings ++
    f.outputs.flatMap Parameter.strings ++ f.modifiers ++ f.sideEffects ++
    f.decisions.flatMap Decision.strings ++ f.exceptions ++ f.dependencies ++ f.businessLogic.toList

def Module.strings (m : Module) : List String :=
  m.name :: m.description :: m.imports ++ m.functions.flatMap Function.strings ++
    m.attributes.flatMap Parameter.strings ++ m.designPatterns

def Debt.strings (d : Debt) : List String :=
  [d.description, d.recommendation]

def Project.strings (p : Project) : List String :=
  p.language :: p.legacyName :: p.modernName :: p.summary :: p.modules.flatMap Module.strings ++
    p.debts.flatMap Debt.strings ++ p.dependencies ++ p.priorities

variable {s : String}

theorem Function.mem_strings_of_input {f : Function} {a : Parameter} (listed : a ∈ f.inputs)
    (member : s ∈ a.strings) : s ∈ f.strings := by
  have found : s ∈ f.inputs.flatMap Parameter.strings := List.mem_flatMap.mpr ⟨a, listed, member⟩
  simp [Function.strings, found]

theorem Function.mem_strings_of_output {f : Function} {a : Parameter} (listed : a ∈ f.outputs)
    (member : s ∈ a.strings) : s ∈ f.strings := by
  have found : s ∈ f.outputs.flatMap Parameter.strings := List.mem_flatMap.mpr ⟨a, listed, member⟩
  simp [Function.strings, found]

theorem Module.mem_strings_of_function {m : Module} {f : Function} (listed : f ∈ m.functions)
    (member : s ∈ f.strings) : s ∈ m.strings := by
  have found : s ∈ m.functions.flatMap Function.strings := List.mem_flatMap.mpr ⟨f, listed, member⟩
  simp [Module.strings, found]

theorem Module.mem_strings_of_attribute {m : Module} {a : Parameter} (listed : a ∈ m.attributes)
    (member : s ∈ a.strings) : s ∈ m.strings := by
  have found : s ∈ m.attributes.flatMap Parameter.strings := List.mem_flatMap.mpr ⟨a, listed, member⟩
  simp [Module.strings, found]

theorem Project.mem_strings_of_module {p : Project} {m : Module} (listed : m ∈ p.modules)
    (member : s ∈ m.strings) : s ∈ p.strings := by
  have found : s ∈ p.modules.flatMap Module.strings := List.mem_flatMap.mpr ⟨m, listed, member⟩
  simp [Project.strings, found]

end Retrofit
