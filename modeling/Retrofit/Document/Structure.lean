import Retrofit.Document.Debt
import Retrofit.Target.Conventions
import Retrofit.Target.Template

/-! The sections on how a project is built, and on how its modern form is run and accepted. -/
namespace Retrofit.Document

/-- A function with "main" in its name is taken as a sign of a script. -/
def isScript (p : Project) : Bool :=
  p.functions.any fun f => Text.contains (Text.lower f.name) "main"

def hasClasses (p : Project) : Bool :=
  p.modules.any (·.kind = .concreteClass)

def paradigmShift (p : Project) : String :=
  let direction :=
    if hasClasses p then
      ["**From:** Monolithic class structure", "**To:** Service-oriented, modular design"]
    else if isScript p then
      ["**From:** Procedural, script-based approach", "**To:** Modular, object-oriented architecture"]
    else []
  Text.join "\n" (direction ++ [s!"**Key Changes:** {legacyPatterns p}"])

def moduleOverview (m : Module) : List String :=
  [s!"#### Module: `{m.name}`",
    s!"**Type:** {Text.title m.kind.tag}",
    s!"**Purpose:** {m.description}",
    s!"**Functions:** {m.functions.length}"] ++
    (if m.designPatterns.isEmpty then []
      else ["**Patterns:** " ++ Text.join ", " m.designPatterns]) ++
    [""]

def conventionsOf (p : Project) : Conventions :=
  (Target.ofLanguage p.language).conventions

/-- The modules one by one, and the naming conventions of the language. -/
def architecture (p : Project) : String :=
  Text.join "\n" <|
    "### Modularization Strategy\n" :: p.modules.flatMap moduleOverview ++
      "### Naming Conventions" :: (conventionsOf p).naming

def folderStructure (p : Project) : String :=
  Template.fill (conventionsOf p).folders p.modernName p.language

def executionGuide (p : Project) : String :=
  Template.fill (conventionsOf p).execution p.modernName p.language

def checks : List String := [
  "- [ ] All functions produce identical outputs",
  "- [ ] No runtime errors or warnings",
  "- [ ] Unit tests pass (if applicable)",
  "- [ ] Performance benchmarks meet expectations",
  "- [ ] Code follows modern style guidelines",
  "- [ ] Dependencies are up-to-date",
  "- [ ] Documentation is complete",
  "- [ ] Security scan passes"]

def checklist (p : Project) : String :=
  Text.join "\n" <| checks ++
    if p.debts.isEmpty then []
    else [s!"- [ ] All {p.debts.length} technical debt items addressed"]

def descriptionOr (description : Option String) : String :=
  description.getD "N/A"

def inputEntry (i : Parameter) : String :=
  s!"- `{i.name}` ({i.type}): {descriptionOr i.description}"

def outputEntry (o : Parameter) : String :=
  s!"- {o.type}: {descriptionOr o.description}"

/-- A heading, the entries and an empty line, or nothing when there are no entries. -/
def entries (heading : String) (lines : List String) : List String :=
  if lines.isEmpty then [] else heading :: lines ++ [""]

def functionReference (f : Function) : List String :=
  [s!"### `{f.name}`\n", s!"{f.description}\n"] ++
    entries "**Parameters:**" (f.inputs.map inputEntry) ++
    entries "**Returns:**" (f.outputs.map outputEntry)

def moduleReference (m : Module) : List String :=
  [s!"## {m.name}\n", s!"{m.description}\n"] ++ m.functions.flatMap functionReference

def apiReference (p : Project) : String :=
  Text.join "\n" ("# API Reference\n" :: p.modules.flatMap moduleReference)

end Retrofit.Document
