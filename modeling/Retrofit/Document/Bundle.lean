import Retrofit.Document.Guide
import Retrofit.Document.Overview

/-! All documents for one file, in the order in which they are listed. -/
namespace Retrofit

structure Document where
  name : String
  content : String
  deriving DecidableEq

namespace Document

/-- There is a document on debt only when there is debt. -/
def bundle (p : Project) (legacyCode modernCode summary : String) : List Document :=
  [⟨overviewName, overview p legacyCode modernCode summary⟩,
    ⟨readmeName, readme p summary⟩,
    ⟨architectureName, architectureGuide p⟩,
    ⟨migrationName, migrationGuide p⟩] ++
  (if p.debts.isEmpty then [] else [⟨debtName, debtGuide p⟩]) ++
  [⟨apiName, apiReference p⟩,
    ⟨testingName, testingGuide p⟩]

end Document

end Retrofit
