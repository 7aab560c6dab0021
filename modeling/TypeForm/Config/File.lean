import TypeForm.CommandLine.Host
import TypeForm.Config
import TypeForm.Toml.Reader
import TypeForm.Toml.Writer

/-!
# Configuration files

The configuration as a TOML document. Keys that mean nothing are ignored and those that are
missing have their defaults; a table may also be given as an array of its fields in order, of
which more than there are fields are ignored. A severity is a string, or a table whose only key is
its name and holds nothing.

A configuration is loaded from a file and saved to one through a host.
-/
namespace TypeForm
namespace Toml

/-- A value as a record. A time counts as a table without known keys. -/
def record? : Toml → Option (Record Toml)
  | .table entries => some (.named entries)
  | .array items => some (.listed items)
  | .time _ => some (.named [])
  | _ => none

def bool? : Toml → Option Bool
  | .bool b => some b
  | _ => none

/-- The name chosen by a value. -/
def choice? : Toml → Option String
  | .string name => some name
  | .table [(name, .table [])] => some name
  | .table [(name, .array [])] => some name
  | _ => none

end Toml

/-- Read the severities set for names. -/
def Overrides.ofToml? : Toml → Option Overrides
  | .table entries =>
    (entries.mapM fun (entry : String × Toml) =>
      (entry.2.choice?.bind Severity.ofName?).map ((entry.1, ·))).map Overrides.ofList
  | _ => none

namespace Config

/-- The default name of a configuration file. -/
def fileName : String := "jtdc.toml"

def severityOfToml? (value : Toml) : Option Overrides := do
  let record ← value.record?
  record.withDefault 0 "overrides" .empty Overrides.ofToml?

def codeOfToml? (value : Toml) : Option Bool := do
  let record ← value.record?
  record.withDefault 0 "lines" true Toml.bool?

def ofToml? (value : Toml) : Option Config := do
  let record ← value.record?
  let allErrors ← record.withDefault 0 "all_errors" true Toml.bool?
  let redact ← record.withDefault 1 "redact_sensitive_data" false Toml.bool?
  let overrides ← record.withDefault 2 "severity" .empty severityOfToml?
  let lines ← record.withDefault 3 "code" true codeOfToml?
  some ⟨allErrors, redact, overrides, lines⟩

/-- The configuration that the text of a file describes. -/
def parse? (text : String) : Option Config :=
  (Toml.Read.document? text).bind ofToml?

def boolText (b : Bool) : String :=
  if b then "true" else "false"

/-- The line that sets a severity. -/
def overrideLine (entry : String × Severity) : String :=
  Toml.keyText entry.1 ++ " = \"" ++ entry.2.name ++ "\""

/-- The lines of a file that describes a configuration, with its overrides listed in some order. -/
def fileLinesIn (config : Config) (listed : List (String × Severity)) : List String :=
  ["all_errors = " ++ boolText config.allErrors,
    "redact_sensitive_data = " ++ boolText config.redact,
    "",
    "[severity.overrides]"]
  ++ listed.map overrideLine
  ++ ["",
    "[code]",
    "lines = " ++ boolText config.lines]

/-- The lines of a file that describes a configuration, with its overrides in the order of names. -/
def fileLines (config : Config) : List String :=
  config.fileLinesIn config.overrides.entries

def fileTextIn (config : Config) (listed : List (String × Severity)) : String :=
  String.join ((config.fileLinesIn listed).map (· ++ "\n"))

/-- The text of a file that describes a configuration. -/
def fileText (config : Config) : String :=
  config.fileTextIn config.overrides.entries

end Config

/-- Why a configuration is not read from a file or written to it. -/
inductive ConfigError where
  | io (error : FileError)
  | parse
deriving DecidableEq, Repr

def ConfigError.message : ConfigError → String
  | io error => "IO error: " ++ error.message
  | parse => "Parse error: not a configuration"

namespace Config

/-- The configuration in what a file holds. -/
def ofContent (content : Except FileError String) : Except ConfigError Config :=
  match content with
  | .error error => .error (.io error)
  | .ok text =>
    match parse? text with
    | some config => .ok config
    | none => .error .parse

variable {m : Type → Type} [Monad m]

/-- Read the configuration in a file. -/
def load (host : Host m) (path : String) : m (Except ConfigError Config) := do
  return ofContent (← host.read path)

/-- Write a configuration to a file, with its overrides in the order in which they happen to be
listed. -/
def save (host : Host m) (path : String) (config : Config) (listed : List (String × Severity)) :
    m (Except ConfigError Unit) := do
  return (← host.write path (config.fileTextIn listed)).mapError .io

end Config
end TypeForm
