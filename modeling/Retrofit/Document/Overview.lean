import Retrofit.Document.Comparison
import Retrofit.Document.Structure

/-! The main document of a modernization: nine numbered sections and a summary. The sections on debt and
on the roadmap are left out when there is nothing to say in them. -/
namespace Retrofit.Document

def rule : String := "\n---\n"

/-- The entries with their numbers, counted on from `n`. -/
def numbered : Nat → List String → List String
  | _, [] => []
  | n, s :: rest => s!"{n}. {s}" :: numbered (n + 1) rest

def metadataSection (p : Project) (summary : String) : List String :=
  ["## 1. Metadata & Environment\n",
    "### Source",
    s!"- **Language:** {Text.upper p.language}",
    s!"- **Original File:** `{p.legacyName}`",
    s!"- **Legacy Patterns:** {legacyPatterns p}\n",
    "### Target",
    s!"- **Modern File:** `{p.modernName}`",
    s!"- **Target Version:** {Target.version p.language}",
    s!"- **Modernization Focus:** {summary}\n",
    "### Paradigm Shift",
    paradigmShift p,
    rule]

def codeSection (p : Project) (legacyCode modernCode : String) : List String :=
  ["## 5. Complete Code Transformation\n",
    "### Legacy Code (Before)",
    codeListing p.language legacyCode,
    "### Modern Code (After)",
    codeListing p.language modernCode,
    rule]

def debtPart (p : Project) : List String :=
  if p.debts.isEmpty then [] else ["## 6. Technical Debt Addressed\n", debtSection p, rule]

def roadmapPart (p : Project) : List String :=
  if p.priorities.isEmpty then []
  else "## 9. Modernization Roadmap\n" :: numbered 1 p.priorities ++ [rule]

def overviewLines (p : Project) (legacyCode modernCode summary : String) : List String :=
  ["# Code Modernization Documentation",
    s!"## {p.legacyName} → {p.modernName}\n",
    "---\n"] ++
  metadataSection p summary ++
  ["## 2. Modernized Code Architecture\n", architecture p, rule] ++
  ["## 3. Proposed Folder Structure\n", "```", folderStructure p, "```\n", rule] ++
  ["## 4. Legacy vs Modern: Side-by-Side Comparison\n", comparisonTable p legacyCode, rule] ++
  codeSection p legacyCode modernCode ++
  debtPart p ++
  ["## 7. Execution Guide\n", executionGuide p, rule] ++
  ["## 8. Validation Checklist\n", checklist p, rule] ++
  roadmapPart p ++
  ["\n## Summary\n",
    s!"**Total Modules:** {p.modules.length}",
    s!"**Total Functions:** {p.functionCount}",
    s!"**Technical Debt Items:** {p.debts.length}",
    "**Status:** ✅ Modernization Complete\n"]

def overview (p : Project) (legacyCode modernCode summary : String) : String :=
  Text.join "\n" (overviewLines p legacyCode modernCode summary)

end Retrofit.Document
