import TypeForm.Diagnostic
import TypeForm.Json.Writer

/-!
# Reports

A report lists diagnostics and counts them by severity, together with the documents they come
from. `Report.addDocument` counts a document as valid if none of its diagnostics is an error.
-/
namespace TypeForm

/-- Version of the report format. -/
structure Version where
  major : Nat
  minor : Nat
deriving DecidableEq, Repr

namespace Version

def current : Version := ⟨1, 0⟩

def text (version : Version) : String :=
  s!"{version.major}.{version.minor}"

def toJson (version : Version) : Json :=
  .object [("major", .number (.int version.major)), ("minor", .number (.int version.minor))]

def ofJson? (value : Json) : Option Version := do
  let record ← value.record? 2
  let major ← record.required 0 "major" (Json.count? 32)
  let minor ← record.required 1 "minor" (Json.count? 32)
  some ⟨major, minor⟩

end Version

/-- The counts of a report. -/
structure Summary where
  total : Nat
  errors : Nat
  warnings : Nat
  info : Nat
  documentsChecked : Nat
  documentsValid : Nat
deriving DecidableEq, Repr

namespace Summary

def zero : Summary := ⟨0, 0, 0, 0, 0, 0⟩

/-- Count a diagnostic. -/
def count (summary : Summary) (severity : Severity) : Summary :=
  let summary := { summary with total := summary.total + 1 }
  match severity with
  | .error => { summary with errors := summary.errors + 1 }
  | .warn => { summary with warnings := summary.warnings + 1 }
  | .info => { summary with info := summary.info + 1 }

/-- Count a document. -/
def countDocument (summary : Summary) (valid : Bool) : Summary :=
  { summary with
    documentsChecked := summary.documentsChecked + 1
    documentsValid := summary.documentsValid + if valid then 1 else 0 }

def toJson (summary : Summary) : Json :=
  .object [("total", .number (.int summary.total)), ("errors", .number (.int summary.errors)),
    ("warnings", .number (.int summary.warnings)), ("info", .number (.int summary.info)),
    ("documents_checked", .number (.int summary.documentsChecked)),
    ("documents_valid", .number (.int summary.documentsValid))]

def ofJson? (value : Json) : Option Summary := do
  let record ← value.record? 6
  let total ← record.required 0 "total" (Json.count? 64)
  let errors ← record.required 1 "errors" (Json.count? 64)
  let warnings ← record.required 2 "warnings" (Json.count? 64)
  let info ← record.required 3 "info" (Json.count? 64)
  let documentsChecked ← record.required 4 "documents_checked" (Json.count? 64)
  let documentsValid ← record.required 5 "documents_valid" (Json.count? 64)
  some ⟨total, errors, warnings, info, documentsChecked, documentsValid⟩

end Summary

structure Report where
  version : Version
  timestamp : String
  summary : Summary
  diagnostics : List Diagnostic
  metadata : Option Json
deriving DecidableEq, Repr

namespace Report

/-- A report without diagnostics. -/
def empty (timestamp : String) : Report :=
  ⟨.current, timestamp, .zero, [], none⟩

def addDiagnostic (report : Report) (diagnostic : Diagnostic) : Report :=
  { report with
    summary := report.summary.count diagnostic.severity
    diagnostics := report.diagnostics ++ [diagnostic] }

def addDiagnostics (report : Report) (diagnostics : List Diagnostic) : Report :=
  diagnostics.foldl addDiagnostic report

/-- Add the diagnostics of one document. -/
def addDocument (report : Report) (diagnostics : List Diagnostic) : Report :=
  let valid := diagnostics.all fun diagnostic => diagnostic.severity != .error
  { report with summary := report.summary.countDocument valid }.addDiagnostics diagnostics

def ofDiagnostics (timestamp : String) (diagnostics : List Diagnostic) : Report :=
  (empty timestamp).addDiagnostics diagnostics

def hasErrors (report : Report) : Bool :=
  decide (0 < report.summary.errors)

def toJson (report : Report) : Json :=
  .object <| [("version", report.version.toJson), ("timestamp", .string report.timestamp),
      ("summary", report.summary.toJson),
      ("diagnostics", .array (report.diagnostics.map Diagnostic.toJson))]
    ++ Json.memberUnlessNone "metadata" report.metadata

def ofJson? (value : Json) : Option Report := do
  let record ← value.record? 5
  let version ← record.required 0 "version" Version.ofJson?
  let timestamp ← record.required 1 "timestamp" Json.string?
  let summary ← record.required 2 "summary" Summary.ofJson?
  let diagnostics ← record.required 3 "diagnostics" (Json.list? Diagnostic.ofJson?)
  let metadata ← record.optional 4 "metadata" some
  some ⟨version, timestamp, summary, diagnostics, metadata⟩

/-- The report as the text of a file. -/
def text (report : Report) : String :=
  report.toJson.pretty

end Report
end TypeForm
