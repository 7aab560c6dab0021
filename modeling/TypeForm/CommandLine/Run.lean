import TypeForm.CommandLine.Arguments
import TypeForm.CommandLine.Display
import TypeForm.CommandLine.Host
import TypeForm.Config.File
import TypeForm.Json.Reader
import TypeForm.Session
import TypeForm.Validator.Source

/-!
# Runs of the program

`assess` finds the diagnostics of a document's text, `buildValidator` the validator of a schema's
text; both are pure. A run reads files, calls these, writes at most one file and gives its outcome.
-/
namespace TypeForm

/-- What a run leaves behind besides files: an exit code, and the texts it put out. -/
structure Outcome where
  exit : Nat
  out : String
  err : String
deriving DecidableEq, Repr

/-- Why a run fails: what went wrong, and the cause if that is something else. -/
structure Trouble where
  problem : String
  cause : Option String
deriving DecidableEq, Repr

namespace Trouble

/-- A problem that has no further cause. -/
def plain (problem : String) : Trouble := ⟨problem, none⟩

/-- The trouble in one line. -/
def inline (trouble : Trouble) : String :=
  match trouble.cause with
  | some cause => trouble.problem ++ ": " ++ cause
  | none => trouble.problem

/-- The trouble as it ends a run. -/
def text (trouble : Trouble) : String :=
  "Error: " ++ trouble.problem ++ "\n"
    ++ match trouble.cause with
      | some cause => "\nCaused by:\n    " ++ cause ++ "\n"
      | none => ""

end Trouble

namespace Run

/-- The JSON value in a file. -/
def jsonOf (path : String) (content : Except FileError String) : Except Trouble Json :=
  match content with
  | .error error => .error ⟨"Failed to read " ++ path, some error.message⟩
  | .ok text =>
    match Json.parse text with
    | .ok value => .ok value
    | .error reason => .error ⟨"Invalid JSON in " ++ path, some reason⟩

/-- The validator for a schema file, read as one node or as a node for each field. -/
def buildValidator (config : Config) (schema : String) (fields : Bool)
    (content : Except FileError String) : Except Trouble Validator := do
  let value ← jsonOf schema content
  let compiled ←
    if fields then
      match value.members? with
      | some members => .ok (compileFields config members)
      | none => .error (.plain (schema ++ ": --fields expects a JSON object"))
    else .ok (compile config value)
  match compiled with
  | .ok validator => .ok validator
  | .error error =>
    .error (.plain (schema ++ ": [" ++ error.code.name ++ "] " ++ error.message))

/-- The diagnostic for a document that cannot be read. It is an error whatever is configured. -/
def unreadable (path : String) (trouble : Trouble) : Diagnostic where
  code := .inputParseError
  severity := .error
  message := trouble.inline
  location := some ⟨some path, "", ""⟩
  expected := none
  actual := none

/-- A diagnostic whose location names a file. -/
def inFile (path : String) (diagnostic : Diagnostic) : Diagnostic :=
  { diagnostic with
    location := diagnostic.location.map fun location => { location with file := some path } }

/-- The diagnostics for a document. -/
def assess (validator : Validator) (path : String) (content : Except FileError String) :
    Except EvalError (List Diagnostic) :=
  match jsonOf path content with
  | .error trouble => .ok [unreadable path trouble]
  | .ok value =>
    let document := Data.ofJson value
    (validator.validate document).map fun failures =>
      (validator.diagnostics failures document).map (inFile path)

/-- The diagnostics for each of several documents. -/
def assessAll (validator : Validator) :
    List (String × Except FileError String) → Except EvalError (List (String × List Diagnostic))
  | [] => .ok []
  | (path, content) :: rest => do
    let diagnostics ← assess validator path content
    let others ← assessAll validator rest
    .ok ((path, diagnostics) :: others)

/-- The report on documents. -/
def reportOn (now : String) (assessed : List (String × List Diagnostic)) : Report :=
  assessed.foldl (fun report document => report.addDocument document.2) (.empty now)

/-- The line that a talkative run has for a document. -/
def documentLine (colours : Bool) (path : String) (diagnostics : List Diagnostic) : String :=
  if diagnostics.isEmpty then
    "  " ++ Display.styled colours Display.green "✓" ++ " " ++ path
  else
    "  " ++ Display.styled colours Display.red "✗" ++ " " ++ path
      ++ " (" ++ toString diagnostics.length ++ " failures)"

/-- The lines that a talkative run has about a validator and documents. -/
def progressText (colours : Bool) (validator : Validator)
    (assessed : List (String × List Diagnostic)) : String :=
  Display.lines <|
    (Display.styled colours Display.cyan "Compiled" ++ " " ++ toString validator.checks.length
      ++ " checks, " ++ toString validator.scope.bindings.length ++ " shared helpers")
    :: assessed.map fun document => documentLine colours document.1 document.2

/-- The outcome of a run that shows a report. -/
def reportOutcome (colours : Bool) (err : String) (report : Report) : Outcome :=
  ⟨if report.hasErrors then 1 else 0, Display.report colours report, err⟩

/-- The outcome of a run that fails after some messages. -/
def failed (err : String) (trouble : Trouble) : Outcome :=
  ⟨1, "", err ++ trouble.text⟩

variable {m : Type → Type} [Monad m]

/-- Read the configuration: the file that is named, else the one with the default name, if there
is one. A talkative run says when there is none. -/
def loadConfig (host : Host m) (colours : Bool) (path : Option String) (verbose : Bool) :
    m (Except Trouble (Config × String)) := do
  let chosen ← match path with
    | some path => pure (some path)
    | none => do
      let found ← host.exists? Config.fileName
      pure (if found then some Config.fileName else none)
  match chosen with
  | none =>
    let notice := Display.styled colours Display.yellow "No config file found, using defaults"
    return .ok (.default, if verbose then notice ++ "\n" else "")
  | some path =>
    match ← Config.load host path with
    | .error error => return .error (.plain error.message)
    | .ok config => return .ok (config, "")

/-- Compile a schema and put out the source, or write it to a file. -/
def compileCommand (host : Host m) (colours : Bool) (config : Config) (err : String)
    (schema : String) (fields : Bool) (output : Option String) : m Outcome := do
  match buildValidator config schema fields (← host.read schema) with
  | .error trouble => return failed err trouble
  | .ok validator =>
    match output with
    | none => return ⟨0, validator.source, err⟩
    | some path =>
      match ← host.write path validator.source with
      | .error error => return failed err ⟨"Failed to write " ++ path, some error.message⟩
      | .ok () =>
        let label := Display.styled colours Display.green "Source written to:"
        return ⟨0, "", err ++ label ++ " " ++ path ++ "\n"⟩

/-- Read files one after the other. -/
def readAll (host : Host m) : List String → m (List (String × Except FileError String))
  | [] => return []
  | path :: rest => do
    let content ← host.read path
    return (path, content) :: (← readAll host rest)

/-- Validate documents against a schema and show a report, after writing it to a file if asked. -/
def validateCommand (host : Host m) (colours : Bool) (config : Config) (verbose : Bool)
    (err : String) (schema : String) (documents : List String) (fields : Bool)
    (output : Option String) : m Outcome := do
  match buildValidator config schema fields (← host.read schema) with
  | .error trouble => return failed err trouble
  | .ok validator =>
    let now ← host.now
    match assessAll validator (← readAll host documents) with
    | .error error => return failed err (.plain error.message)
    | .ok assessed =>
      let report := reportOn now assessed
      let err := if verbose then err ++ progressText colours validator assessed else err
      match output with
      | none => return reportOutcome colours err report
      | some path =>
        match ← host.write path report.text with
        | .error error => return failed err (.plain error.message)
        | .ok () =>
          let label := Display.styled colours Display.green "Report saved to:"
          let notice := if verbose then label ++ " " ++ path ++ "\n" else ""
          return reportOutcome colours (err ++ notice) report

/-- Run a command with its options. -/
def invoke (host : Host m) (colours : Bool) (invocation : Invocation) : m Outcome := do
  match ← loadConfig host colours invocation.config invocation.verbose with
  | .error trouble => return failed "" trouble
  | .ok (config, err) =>
    match invocation.command with
    | .compile schema fields output =>
      compileCommand host colours config err schema fields output
    | .validate schema documents fields output =>
      validateCommand host colours config invocation.verbose err schema documents fields output
    | .tags => return ⟨0, Display.tags colours, err⟩

/-- The outcome for arguments that make no sense. -/
def misused : Outcome :=
  ⟨2, "", "Error: wrong arguments; try --help\n"⟩

/-- Run the program. -/
def program (host : Host m) (colours : Bool) (arguments : List String) : m Outcome :=
  match Arguments.parse? arguments with
  | none => return misused
  | some .version => return ⟨0, Display.version, ""⟩
  | some .help => return ⟨0, Display.help, ""⟩
  | some (.run invocation) => invoke host colours invocation

end Run
end TypeForm
