import TypeForm.Ascending
import TypeForm.Diagnostic

/-!
# Configuration

What a user may set: whether a document's first failure is reported or all of them, whether
diagnostics show data values, severities for diagnostic codes, and the layout of generated source.
-/
namespace TypeForm

/-- Severities set for codes. Names of codes that do not exist may be listed too. -/
structure Overrides where
  entries : List (String × Severity)
  ascending : Ascending entries
deriving DecidableEq, Repr

namespace Overrides

def empty : Overrides := ⟨[], List.Pairwise.nil⟩

/-- Set the severity for a name, in place of the one set before. -/
def insert (overrides : Overrides) (name : String) (severity : Severity) : Overrides :=
  ⟨putByKey name severity overrides.entries, overrides.ascending.put name severity⟩

/-- The overrides that a list sets one after the other. -/
def ofList (entries : List (String × Severity)) : Overrides :=
  ⟨sortByKey entries, ascending_sortByKey entries⟩

def set (overrides : Overrides) (code : Code) (severity : Severity) : Overrides :=
  overrides.insert code.name severity

/-- The severity set for a code, or the default. -/
def severity (overrides : Overrides) (code : Code) (default : Severity) : Severity :=
  match overrides.entries.find? fun entry => entry.1 == code.name with
  | some entry => entry.2
  | none => default

def toJson (overrides : Overrides) : Json :=
  .object (overrides.entries.map fun entry => (entry.1, .string entry.2.name))

def ofJson? : Json → Option Overrides
  | .object members =>
    (members.mapM fun member => (Severity.ofJson? member.2).map ((member.1, ·))).map ofList
  | _ => none

end Overrides

structure Config where
  /-- Report every failure of a document instead of the first. -/
  allErrors : Bool
  /-- Keep data values out of diagnostics. -/
  redact : Bool
  overrides : Overrides
  /-- Write generated source with one statement to a line. -/
  lines : Bool
deriving DecidableEq, Repr

namespace Config

def default : Config := ⟨true, false, .empty, true⟩

def toJson (config : Config) : Json :=
  .object [("all_errors", .bool config.allErrors),
    ("redact_sensitive_data", .bool config.redact),
    ("severity", .object [("overrides", config.overrides.toJson)]),
    ("code", .object [("lines", .bool config.lines)])]

/-- Read the table of severities, a record of its own. -/
def severityOfJson? (value : Json) : Option Overrides := do
  let record ← value.record? 1
  record.withDefault 0 "overrides" .empty Overrides.ofJson?

/-- Read the options of generated source, a record of their own. -/
def codeOfJson? (value : Json) : Option Bool := do
  let record ← value.record? 1
  record.withDefault 0 "lines" true Json.bool?

def ofJson? (value : Json) : Option Config := do
  let record ← value.record? 4
  let allErrors ← record.withDefault 0 "all_errors" true Json.bool?
  let redact ← record.withDefault 1 "redact_sensitive_data" false Json.bool?
  let overrides ← record.withDefault 2 "severity" .empty severityOfJson?
  let lines ← record.withDefault 3 "code" true codeOfJson?
  some ⟨allErrors, redact, overrides, lines⟩

end Config
end TypeForm
