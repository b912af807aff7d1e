import Retrofit.Document.Overview

/-! The report on an analysis: everything that is known about a project, function by function. It is also
what the model is given when it is asked for modern code. -/
namespace Retrofit.Document

def paragraph (s : String) : String := s ++ "\n\n"

/-- A label and its entries in one paragraph, or nothing without entries. -/
def labelled (label : String) (xs : List String) : String :=
  if xs.isEmpty then "" else paragraph (label ++ Text.join ", " xs)

/-- A label and a line for each entry, or nothing without entries. -/
def listed (label : String) (lines : List String) : String :=
  if lines.isEmpty then "" else paragraph label ++ String.join (lines.map (· ++ "\n")) ++ "\n"

def typedEntry (p : Parameter) : String :=
  s!"- `{p.type} {p.name}`: {descriptionOr p.description}"

def returnEntry (o : Parameter) : String :=
  s!"- `{o.type}`: {descriptionOr o.description}"

def decisionEntry (d : Decision) : String :=
  s!"- {d.condition}: {descriptionOr d.description}"

def inspectFunction (f : Function) : String :=
  paragraph s!"##### `{f.name}`" ++
  paragraph f.description ++
  labelled "**Modifiers:** " f.modifiers ++
  listed "**Parameters:**" (f.inputs.map typedEntry) ++
  listed "**Returns:**" (f.outputs.map returnEntry) ++
  labelled "**Business Logic:** " f.businessLogic.toList ++
  labelled "**Side Effects:** " f.sideEffects ++
  listed "**Decision Points:**" (f.decisions.map decisionEntry) ++
  labelled "**Exceptions:** " f.exceptions ++
  labelled "**Dependencies:** " f.dependencies

def inspectFunctions (fs : List Function) : String :=
  if fs.isEmpty then ""
  else paragraph s!"#### Methods ({fs.length} total)" ++ String.join (fs.map inspectFunction)

def inspectModule (m : Module) : String :=
  paragraph s!"### {Text.title m.kind.tag}: `{m.name}`" ++
  paragraph m.description ++
  labelled "**Design Patterns:** " m.designPatterns ++
  labelled "**Imports:** " m.imports ++
  listed "**Attributes:**" (m.attributes.map typedEntry) ++
  inspectFunctions m.functions ++
  paragraph "---"

def inspectDebt (d : Debt) : String :=
  s!"**{Text.title d.category.tag}:** {d.description}\n" ++
  paragraph s!"*Recommendation:* {d.recommendation}"

def inspectDebts (p : Project) : String :=
  if p.debts.isEmpty then ""
  else
    "## ⚠️ Technical Debt Analysis\n" ++
    String.join (p.debtGroups.map fun (s, ds) =>
      "\n" ++ paragraph (severityHeading s) ++ String.join (ds.map inspectDebt))

def inspectDependencies (p : Project) : String :=
  if p.dependencies.isEmpty then ""
  else
    paragraph "## 📦 External Dependencies" ++
    String.join (p.dependencies.map fun d => s!"- {d}\n")

def inspection (p : Project) : String :=
  paragraph s!"# {Text.upper p.language} Code Analysis" ++
  s!"**Original File:** `{p.legacyName}`  \n" ++
  paragraph s!"**Suggested Modern Name:** `{p.modernName}`" ++
  paragraph "## Project Summary" ++
  paragraph p.summary ++
  paragraph "## Architecture Overview" ++
  String.join (p.modules.map inspectModule) ++
  inspectDebts p ++
  listed "## 🚀 Modernization Roadmap" (numbered 1 p.priorities) ++
  inspectDependencies p

end Retrofit.Document
