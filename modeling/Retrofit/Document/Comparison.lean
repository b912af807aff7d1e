import Retrofit.Document.Debt
import Retrofit.Target.Conventions

/-! Old and new side by side: the table of patterns, and the listings of code. -/
namespace Retrofit.Document

def comparisonRows : Nat := 5

def cellChars : Nat := 50

def previewChars : Nat := 2000

def comparisonRow (d : Debt) : String :=
  s!"| {Text.title d.category.tag} | {Text.takeChars cellChars d.description} | " ++
    s!"{Text.takeChars cellChars d.recommendation} | {d.category.benefit} |"

/-- The row for the habit of the legacy language that shows in the code. -/
def heuristicRow (language code : String) : List String :=
  match (Target.ofLanguage language).conventions.heuristic with
  | some h => if h.applies language code then [h.row] else []
  | none => []

def comparisonLines (p : Project) (legacyCode : String) : List String :=
  ["| Aspect | Legacy Pattern | Modern Pattern | Why? |",
    "|--------|---------------|----------------|------|"] ++
    (p.debts.take comparisonRows).map comparisonRow ++ heuristicRow p.language legacyCode

def comparisonTable (p : Project) (legacyCode : String) : String :=
  Text.join "\n" (comparisonLines p legacyCode)

/-- Code in a fence, cut off behind the preview. -/
def codeListing (language code : String) : String :=
  Text.join "\n" [s!"```{language}", Text.truncate previewChars "..." code, "```\n"]

end Retrofit.Document
