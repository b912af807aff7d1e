/-! What is known about one legacy source file: its modules with their functions, the debt it carries,
and the order in which to modernize it. -/
namespace Retrofit

/-- A named, typed value: an input, an output or an attribute. The type is free text. -/
structure Parameter where
  name : String
  type : String
  description : Option String
  deriving DecidableEq

structure Decision where
  condition : String
  description : Option String
  deriving DecidableEq

structure Function where
  name : String
  description : String
  inputs : List Parameter
  outputs : List Parameter
  modifiers : List String
  sideEffects : List String
  decisions : List Decision
  exceptions : List String
  dependencies : List String
  businessLogic : Option String
  deriving DecidableEq

inductive ModuleKind where
  | concreteClass
  | module
  | interface
  | abstractClass
  deriving DecidableEq

structure Module where
  name : String
  kind : ModuleKind
  description : String
  imports : List String
  functions : List Function
  attributes : List Parameter
  designPatterns : List String
  deriving DecidableEq

inductive DebtCategory where
  | performance
  | security
  | maintainability
  | scalability
  | compatibility
  deriving DecidableEq

inductive Severity where
  | low
  | medium
  | high
  | critical
  deriving DecidableEq

/-- A fault of the legacy code, and what to do about it. -/
structure Debt where
  category : DebtCategory
  description : String
  severity : Severity
  recommendation : String
  deriving DecidableEq

structure Project where
  language : String
  legacyName : String
  modernName : String
  summary : String
  modules : List Module
  debts : List Debt
  dependencies : List String
  priorities : List String
  deriving DecidableEq

def ModuleKind.tags : List String := ["class", "module", "interface", "abstract_class"]

def ModuleKind.index : ModuleKind → Fin 4
  | .concreteClass => 0
  | .module => 1
  | .interface => 2
  | .abstractClass => 3

def ModuleKind.tag (k : ModuleKind) : String := ModuleKind.tags.get k.index

def ModuleKind.ofIndex : Fin 4 → ModuleKind
  | 0 => .concreteClass
  | 1 => .module
  | 2 => .interface
  | 3 => .abstractClass

def DebtCategory.tags : List String :=
  ["performance", "security", "maintainability", "scalability", "compatibility"]

def DebtCategory.index : DebtCategory → Fin 5
  | .performance => 0
  | .security => 1
  | .maintainability => 2
  | .scalability => 3
  | .compatibility => 4

def DebtCategory.tag (c : DebtCategory) : String := DebtCategory.tags.get c.index

def DebtCategory.ofIndex : Fin 5 → DebtCategory
  | 0 => .performance
  | 1 => .security
  | 2 => .maintainability
  | 3 => .scalability
  | 4 => .compatibility

def Severity.tags : List String := ["low", "medium", "high", "critical"]

def Severity.index : Severity → Fin 4
  | .low => 0
  | .medium => 1
  | .high => 2
  | .critical => 3

def Severity.tag (s : Severity) : String := Severity.tags.get s.index

def Severity.ofIndex : Fin 4 → Severity
  | 0 => .low
  | 1 => .medium
  | 2 => .high
  | 3 => .critical

/-- The order in which debt is shown. -/
def Severity.descending : List Severity := [.critical, .high, .medium, .low]

namespace Project

def functions (p : Project) : List Function := p.modules.flatMap (·.functions)

def functionCount (p : Project) : Nat :=
  p.modules.foldl (fun n m => n + m.functions.length) 0

def debtsOf (p : Project) (s : Severity) : List Debt := p.debts.filter (·.severity = s)

def debtCount (p : Project) (s : Severity) : Nat := p.debts.countP (·.severity = s)

/-- The debts grouped by severity, the worst first, without the severities that none has. -/
def debtGroups (p : Project) : List (Severity × List Debt) :=
  (Severity.descending.map fun s => (s, p.debtsOf s)).filter (·.2 ≠ [])

def worst? (p : Project) : Option Severity := p.debtGroups.head?.map (·.1)

def leadingCategories (p : Project) (n : Nat) : List String :=
  (p.debts.take n).map (·.category.tag)

/-- Keeps the first of equal entries. `seen` are the entries that came before. -/
def distinct (seen : List String) : List String → List String
  | [] => []
  | s :: rest => if s ∈ seen then distinct seen rest else s :: distinct (s :: seen) rest

/-- The design patterns of all modules, each where it is named first. -/
def designPatterns (p : Project) : List String :=
  distinct [] (p.modules.flatMap (·.designPatterns))

end Project

end Retrofit
