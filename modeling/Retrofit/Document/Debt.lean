import Retrofit.Project.Basic
import Retrofit.Text.Blank
import Retrofit.Text.Title

/-! Technical debt in documents: its marks, and the section that lists it by severity. -/
namespace Retrofit

def Severity.marker : Severity → String
  | .critical => "🔴"
  | .high => "🟠"
  | .medium => "🟡"
  | .low => "🟢"

def DebtCategory.benefit : DebtCategory → String
  | .performance => "⚡ Faster execution, lower memory"
  | .security => "🔒 Prevents vulnerabilities"
  | .maintainability => "🧹 Easier to read and modify"
  | .scalability => "📈 Handles growth better"
  | .compatibility => "🔄 Works with modern tools"

def DebtCategory.benefitOfTag (tag : String) : String :=
  match DebtCategory.tags.findFinIdx? (· == tag) with
  | some i => (DebtCategory.ofIndex i).benefit
  | none => "✨ Improved code quality"

namespace Document

def severityHeading (s : Severity) : String :=
  s!"### {s.marker} {Text.upper s.tag} Priority"

/-- The categories of the first three debts. -/
def legacyPatterns (p : Project) : String :=
  Text.join ", " (p.leadingCategories 3)

def debtEntry (d : Debt) : List String :=
  [s!"#### {Text.title d.category.tag}",
    s!"**Issue:** {d.description}",
    s!"**Resolution:** {d.recommendation}\n"]

def debtGroup (s : Severity) (ds : List Debt) : List String :=
  s!"{severityHeading s}\n" :: ds.flatMap debtEntry

def debtSection (p : Project) : String :=
  Text.join "\n" (p.debtGroups.flatMap fun (s, ds) => debtGroup s ds)

end Document

end Retrofit
