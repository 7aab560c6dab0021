import TypeForm.Json.Record

/-!
# Diagnostics

A diagnostic has a stable code, a severity, a message, and perhaps a location and what was
expected and found. Each part is written to JSON and read back from it.
-/
namespace TypeForm

/-- Stable codes of diagnostics. -/
inductive Code where
  | schemaNotObject
  | schemaKeywordType
  | schemaKeywordEnum
  | schemaUnsupportedKeyword
  | validationTypeMismatch
  | inputParseError
  | info
  | warning
deriving DecidableEq, Repr

namespace Code

def all : List Code :=
  [schemaNotObject, schemaKeywordType, schemaKeywordEnum, schemaUnsupportedKeyword,
    validationTypeMismatch, inputParseError, info, warning]

def name : Code → String
  | schemaNotObject => "SCHEMA_NOT_OBJECT"
  | schemaKeywordType => "SCHEMA_KEYWORD_TYPE"
  | schemaKeywordEnum => "SCHEMA_KEYWORD_ENUM"
  | schemaUnsupportedKeyword => "SCHEMA_UNSUPPORTED_KEYWORD"
  | validationTypeMismatch => "VALIDATION_TYPE_MISMATCH"
  | inputParseError => "INPUT_PARSE_ERROR"
  | info => "INFO"
  | warning => "WARNING"

def ofJson? (value : Json) : Option Code :=
  value.choice?.bind fun name => all.find? fun code => code.name == name

end Code

/-- How much a diagnostic matters; only errors fail a run. -/
inductive Severity where
  | info
  | warn
  | error
deriving DecidableEq, Repr

namespace Severity

def all : List Severity := [info, warn, error]

def name : Severity → String
  | info => "info"
  | warn => "warn"
  | error => "error"

def ofName? (name : String) : Option Severity :=
  all.find? fun severity => severity.name == name

def ofJson? (value : Json) : Option Severity :=
  value.choice?.bind ofName?

/-- Place in the order of severities. -/
def rank : Severity → Nat
  | info => 0
  | warn => 1
  | error => 2

end Severity

/-- Where a diagnostic applies: a document, a place in it, and a place in the schema. -/
structure Location where
  file : Option String
  instancePath : String
  schemaPath : String
deriving DecidableEq, Repr

namespace Location

/-- A location of two pointers, without a file. -/
def ofPaths (instancePath schemaPath : String) : Location :=
  ⟨none, instancePath, schemaPath⟩

def isDefault (location : Location) : Bool :=
  location == ofPaths "" ""

/-- A pointer as messages show it; the whole document is a slash. -/
def shownPath (instancePath : String) : String :=
  if instancePath.isEmpty then "/" else instancePath

def text (location : Location) : String :=
  location.file.getD "" ++ "#" ++ shownPath location.instancePath
    ++ " (schema #" ++ location.schemaPath ++ ")"

def toJson (location : Location) : Json :=
  .object <| Json.memberUnlessNone "file" (location.file.map .string)
    ++ [("instance_path", .string location.instancePath),
      ("schema_path", .string location.schemaPath)]

def ofJson? (value : Json) : Option Location := do
  let record ← value.record? 3
  let file ← record.optional 0 "file" Json.string?
  let instancePath ← record.required 1 "instance_path" Json.string?
  let schemaPath ← record.required 2 "schema_path" Json.string?
  some ⟨file, instancePath, schemaPath⟩

end Location

structure Diagnostic where
  code : Code
  severity : Severity
  message : String
  location : Option Location
  expected : Option String
  actual : Option String
deriving DecidableEq, Repr

namespace Diagnostic

def toJson (diagnostic : Diagnostic) : Json :=
  .object [("code", .string diagnostic.code.name),
    ("severity", .string diagnostic.severity.name),
    ("message", .string diagnostic.message),
    ("location", (diagnostic.location.map Location.toJson).getD .null),
    ("expected", Json.ofOption diagnostic.expected),
    ("actual", Json.ofOption diagnostic.actual)]

def ofJson? (value : Json) : Option Diagnostic := do
  let record ← value.record? 6
  let code ← record.required 0 "code" Code.ofJson?
  let severity ← record.required 1 "severity" Severity.ofJson?
  let message ← record.required 2 "message" Json.string?
  let location ← record.optional 3 "location" Location.ofJson?
  let expected ← record.optional 4 "expected" Json.string?
  let actual ← record.optional 5 "actual" Json.string?
  some ⟨code, severity, message, location, expected, actual⟩

end Diagnostic
end TypeForm
