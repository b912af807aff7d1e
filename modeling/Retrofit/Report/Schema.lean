import Retrofit.Json.Decoder
import Retrofit.Json.Printer
import Retrofit.Report.Diagnostic

/-! Reports on files and on whole runs, and their document form. -/
namespace Retrofit

open Json

/-- A count as the document form knows it, which is a word of 64 bits. -/
abbrev Count := Fin UInt64.size

def Count.of (n : Nat) : Count := Fin.ofNat UInt64.size n

structure Stats where
  modules : Count
  functions : Count
  debts : Count
  critical : Count
  high : Count
  medium : Count
  low : Count
  deriving DecidableEq

structure FileReport where
  filename : String
  success : Bool
  diagnostics : List Diagnostic
  stats : Option Stats
  documents : List String
  deriving DecidableEq

structure RunReport where
  model : String
  processed : Count
  succeeded : Count
  files : List FileReport
  deriving DecidableEq

abbrev Suggestion.shape : Shape :=
  .record "Suggestion" <|
    .cons "message" .always .text <|
    .cons "confidence" .always .real .nil

def Suggestion.ofContent : Suggestion.shape.Content → Suggestion :=
  fun (message, confidence, _) => ⟨message, confidence⟩

def Suggestion.content (s : Suggestion) : Suggestion.shape.Content :=
  (s.message, s.confidence, ())

abbrev Diagnostic.shape : Shape :=
  .record "ErrorReport" <|
    .cons "code" .always .text <|
    .cons "level" .always (.choice Level.tags) <|
    .cons "kind" .inLists (.optional .text) <|
    .cons "message" .always .text <|
    .cons "stage" .inLists (.optional (.choice Stage.tags)) <|
    .cons "snippet" .inLists (.optional .text) <|
    .cons "suggestions" .always (.list Suggestion.shape) .nil

def Diagnostic.ofContent : Diagnostic.shape.Content → Diagnostic :=
  fun (code, level, kind, message, stage, snippet, suggestions, _) =>
    { code
      level := Level.ofIndex level
      kind, message
      stage := stage.map Stage.ofIndex
      snippet
      suggestions := suggestions.map Suggestion.ofContent }

def Diagnostic.content (d : Diagnostic) : Diagnostic.shape.Content :=
  (d.code, d.level.index, d.kind, d.message, d.stage.map (·.index), d.snippet,
    d.suggestions.map (·.content), ())

abbrev Stats.shape : Shape :=
  .record "IrStats" <|
    .cons "modules" .always .count <|
    .cons "functions" .always .count <|
    .cons "debt_items" .always .count <|
    .cons "critical" .always .count <|
    .cons "high" .always .count <|
    .cons "medium" .always .count <|
    .cons "low" .always .count .nil

def Stats.ofContent : Stats.shape.Content → Stats :=
  fun (modules, functions, debts, critical, high, medium, low, _) =>
    ⟨modules, functions, debts, critical, high, medium, low⟩

def Stats.content (s : Stats) : Stats.shape.Content :=
  (s.modules, s.functions, s.debts, s.critical, s.high, s.medium, s.low, ())

abbrev FileReport.shape : Shape :=
  .record "FileFeedback" <|
    .cons "filename" .always .text <|
    .cons "success" .always .flag <|
    .cons "diagnostics" .always (.list Diagnostic.shape) <|
    .cons "stats" .inLists (.optional Stats.shape) <|
    .cons "documents" .always (.list .text) .nil

def FileReport.ofContent : FileReport.shape.Content → FileReport :=
  fun (filename, success, diagnostics, stats, documents, _) =>
    ⟨filename, success, diagnostics.map Diagnostic.ofContent, stats.map Stats.ofContent, documents⟩

def FileReport.content (f : FileReport) : FileReport.shape.Content :=
  (f.filename, f.success, f.diagnostics.map (·.content), f.stats.map (·.content), f.documents, ())

abbrev RunReport.shape : Shape :=
  .record "RunFeedback" <|
    .cons "model" .always .text <|
    .cons "processed" .always .count <|
    .cons "succeeded" .always .count <|
    .cons "files" .always (.list FileReport.shape) .nil

def RunReport.ofContent : RunReport.shape.Content → RunReport :=
  fun (model, processed, succeeded, files, _) =>
    ⟨model, processed, succeeded, files.map FileReport.ofContent⟩

def RunReport.content (r : RunReport) : RunReport.shape.Content :=
  (r.model, r.processed, r.succeeded, r.files.map (·.content), ())

namespace FileReport

def pretty (f : FileReport) : String := Json.pretty (FileReport.shape.toValue f.content)

end FileReport

namespace RunReport

def toValue (r : RunReport) : Value := RunReport.shape.toValue r.content

def pretty (r : RunReport) : String := Json.pretty r.toValue

def compact (r : RunReport) : String := Json.compact r.toValue

def decode (text : String) : Except Fault RunReport :=
  (RunReport.shape.decode text).map ofContent

end RunReport

end Retrofit
