import Retrofit.Json.Decoder
import Retrofit.Json.Printer
import Retrofit.Project.Basic

/-! The document form of a project: the shape that a reader demands, and the way there and back. -/
namespace Retrofit

open Json

abbrev Parameter.shape : Shape :=
  .record "Parameter" <|
    .cons "name" .always .text <|
    .cons "type" .always .text <|
    .cons "description" .never (.optional .text) .nil

def Parameter.ofContent : Parameter.shape.Content → Parameter :=
  fun (name, type, description, _) => ⟨name, type, description⟩

def Parameter.content (p : Parameter) : Parameter.shape.Content :=
  (p.name, p.type, p.description, ())

abbrev Decision.shape : Shape :=
  .record "DecisionPoint" <|
    .cons "condition" .always .text <|
    .cons "description" .never (.optional .text) .nil

def Decision.ofContent : Decision.shape.Content → Decision :=
  fun (condition, description, _) => ⟨condition, description⟩

def Decision.content (d : Decision) : Decision.shape.Content :=
  (d.condition, d.description, ())

abbrev Function.shape : Shape :=
  .record "Function" <|
    .cons "name" .always .text <|
    .cons "description" .always .text <|
    .cons "inputs" .never (.list Parameter.shape) <|
    .cons "outputs" .never (.list Parameter.shape) <|
    .cons "modifiers" .never (.list .text) <|
    .cons "side_effects" .never (.list .text) <|
    .cons "decisions" .never (.list Decision.shape) <|
    .cons "exceptions" .never (.list .text) <|
    .cons "dependencies" .never (.list .text) <|
    .cons "business_logic" .never (.optional .text) .nil

def Function.ofContent : Function.shape.Content → Function :=
  fun (name, description, inputs, outputs, modifiers, sideEffects, decisions, exceptions,
      dependencies, businessLogic, _) =>
    { name, description
      inputs := inputs.map Parameter.ofContent
      outputs := outputs.map Parameter.ofContent
      modifiers, sideEffects
      decisions := decisions.map Decision.ofContent
      exceptions, dependencies, businessLogic }

def Function.content (f : Function) : Function.shape.Content :=
  (f.name, f.description, f.inputs.map (·.content), f.outputs.map (·.content), f.modifiers,
    f.sideEffects, f.decisions.map (·.content), f.exceptions, f.dependencies, f.businessLogic, ())

abbrev Module.shape : Shape :=
  .record "Module" <|
    .cons "name" .always .text <|
    .cons "type" .always (.choice ModuleKind.tags) <|
    .cons "description" .always .text <|
    .cons "imports" .never (.list .text) <|
    .cons "functions" .never (.list Function.shape) <|
    .cons "attributes" .never (.list Parameter.shape) <|
    .cons "design_patterns" .never (.list .text) .nil

def Module.ofContent : Module.shape.Content → Module :=
  fun (name, kind, description, imports, functions, attributes, designPatterns, _) =>
    { name
      kind := ModuleKind.ofIndex kind
      description, imports
      functions := functions.map Function.ofContent
      attributes := attributes.map Parameter.ofContent
      designPatterns }

def Module.content (m : Module) : Module.shape.Content :=
  (m.name, m.kind.index, m.description, m.imports, m.functions.map (·.content),
    m.attributes.map (·.content), m.designPatterns, ())

abbrev Debt.shape : Shape :=
  .record "TechnicalDebtItem" <|
    .cons "category" .always (.choice DebtCategory.tags) <|
    .cons "description" .always .text <|
    .cons "severity" .always (.choice Severity.tags) <|
    .cons "recommendation" .always .text .nil

def Debt.ofContent : Debt.shape.Content → Debt :=
  fun (category, description, severity, recommendation, _) =>
    ⟨DebtCategory.ofIndex category, description, Severity.ofIndex severity, recommendation⟩

def Debt.content (d : Debt) : Debt.shape.Content :=
  (d.category.index, d.description, d.severity.index, d.recommendation, ())

namespace Project

abbrev shape : Shape :=
  .record "ProjectIR" <|
    .cons "language" .always .text <|
    .cons "original_filename" .always .text <|
    .cons "suggested_filename" .always .text <|
    .cons "summary" .always .text <|
    .cons "modules" .always (.list Module.shape) <|
    .cons "technical_debt" .never (.list Debt.shape) <|
    .cons "dependencies" .never (.list .text) <|
    .cons "modernization_priority" .never (.list .text) .nil

def ofContent : Project.shape.Content → Project :=
  fun (language, legacyName, modernName, summary, modules, debts, dependencies, priorities, _) =>
    { language, legacyName, modernName, summary
      modules := modules.map Module.ofContent
      debts := debts.map Debt.ofContent
      dependencies, priorities }

def content (p : Project) : Project.shape.Content :=
  (p.language, p.legacyName, p.modernName, p.summary, p.modules.map (·.content),
    p.debts.map (·.content), p.dependencies, p.priorities, ())

def toValue (p : Project) : Value := Project.shape.toValue p.content

def pretty (p : Project) : String := Json.pretty p.toValue

def compact (p : Project) : String := Json.compact p.toValue

/-- The project that a document describes, whether or not the project makes sense. -/
def decode (text : String) : Except Fault Project :=
  (Project.shape.decode text).map ofContent

end Project

end Retrofit
