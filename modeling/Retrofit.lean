import Retrofit.Main
import Retrofit.Disk.Tree
import Retrofit.Proofs.Json.Token
import Retrofit.Proofs.Json.Sketch
import Retrofit.Proofs.Json.Skim
import Retrofit.Proofs.Json.Reading
import Retrofit.Proofs.Json.Interpretation
import Retrofit.Proofs.Json.Acceptance
import Retrofit.Proofs.Json.Form
import Retrofit.Proofs.Json.Derailment
import Retrofit.Proofs.Json.Content
import Retrofit.Proofs.Project.RoundTrip
import Retrofit.Proofs.Project.Acceptance
import Retrofit.Proofs.Disk.Path
import Retrofit.Proofs.Disk.RawPath
import Retrofit.Proofs.Run.Base
import Retrofit.Proofs.Run.Batch
import Retrofit.Proofs.Run.Allotment
import Retrofit.Proofs.Run.Placement
import Retrofit.Proofs.Disk.Writing
import Retrofit.Proofs.Run.Stem
import Retrofit.Proofs.Disk.Containment
import Retrofit.Proofs.Disk.Isolation
import Retrofit.Proofs.Disk.Naming
import Retrofit.Proofs.Run.Attribution
import Retrofit.Proofs.Report.Feedback
import Retrofit.Proofs.Report.RoundTrip
import Retrofit.Proofs.Skeleton.Literal
import Retrofit.Proofs.Skeleton.Prose
import Retrofit.Proofs.Skeleton.TypeTags
import Retrofit.Proofs.Command.Loading
import Retrofit.Proofs.Command.Consistency
import Retrofit.Proofs.Project.Rejection
import Retrofit.Proofs.Project.Meaning
import Retrofit.Proofs.Response.Fence
import Retrofit.Proofs.Text.Octets
import Retrofit.Proofs.Text.Occurrence
import Retrofit.Proofs.Project.Strings
import Retrofit.Proofs.Skeleton.Signs
import Retrofit.Proofs.Skeleton.Outline
import Retrofit.Proofs.Skeleton.Stub
import Retrofit.Proofs.Skeleton.Nesting
import Retrofit.Proofs.Skeleton.Printer
import Retrofit.Proofs.Response.Analysis
import Retrofit.Proofs.Response.Modernization
import Retrofit.Proofs.Target.Template
import Retrofit.Proofs.Document.Grouping
import Retrofit.Proofs.Document.Inspection
import Retrofit.Proofs.Document.Comparison
import Retrofit.Proofs.Document.Preview
import Retrofit.Proofs.Document.Listing
import Retrofit.Proofs.Report.Advice
import Retrofit.Proofs.Json.Breach
import Retrofit.Proofs.Json.Wording
import Retrofit.Proofs.Report.Hints
import Retrofit.Proofs.Disk.Holdings
import Retrofit.Proofs.Disk.Trail
import Retrofit.Proofs.Disk.Making
import Retrofit.Proofs.Disk.Obstruction
