import TypeForm.Condition.Evaluation
import TypeForm.Condition.Source
import TypeForm.Config
import TypeForm.Data.Description
import TypeForm.Keyword.Basic

/-!
# Validators

A validator applies its checks to a document: `Validator.validate` lists the checks that fail,
`Validator.diagnostics` turns them into diagnostics.
-/
namespace TypeForm

/-- A check that data failed. -/
structure Failure where
  instancePath : String
  schemaPath : String
  keyword : String
  /-- The keyword's value. -/
  schema : Json
deriving DecidableEq, Repr

namespace Failure

def toJson (failure : Failure) : Json :=
  .object [("instancePath", .string failure.instancePath),
    ("schemaPath", .string failure.schemaPath), ("keyword", .string failure.keyword),
    ("schema", failure.schema)]

def ofJson? (value : Json) : Option Failure := do
  let record ← value.record? 4
  let instancePath ← record.required 0 "instancePath" Json.string?
  let schemaPath ← record.required 1 "schemaPath" Json.string?
  let keyword ← record.required 2 "keyword" Json.string?
  let schema ← record.required 3 "schema" some
  some ⟨instancePath, schemaPath, keyword, schema⟩

end Failure

namespace Check

def failure (check : Check) : Failure :=
  ⟨check.instancePath, check.schemaPath, check.keyword, check.schema⟩

/-- Whether a document fails a check. One without the part that the check is about does not. -/
def fails (check : Check) (scope : Scope) (document : Data) : Except EvalError Bool :=
  match document.pointer check.instancePath with
  | none => .ok false
  | some value => check.condition.evaluate ((Env.ofScope scope).bind check.data value)

end Check

structure Validator where
  scope : Scope
  checks : List Check
  /-- The name of the whole document. -/
  root : Ident
  config : Config

namespace Validator

/-- The checks that a document fails, all of them or only the first. -/
def failing (scope : Scope) (allErrors : Bool) (document : Data) :
    List Check → Except EvalError (List Failure)
  | [] => .ok []
  | check :: rest =>
    match check.fails scope document with
    | .error error => .error error
    | .ok false => failing scope allErrors document rest
    | .ok true =>
      if allErrors then (failing scope allErrors document rest).map (check.failure :: ·)
      else .ok [check.failure]

/-- What is wrong with a document. -/
def validate (validator : Validator) (document : Data) : Except EvalError (List Failure) :=
  failing validator.scope validator.config.allErrors document validator.checks

def isValid (validator : Validator) (document : Data) : Except EvalError Bool :=
  (validator.validate document).map List.isEmpty

/-- The value that a failed keyword asks for: a tag by its name, any other value as JSON. -/
def expectedText : Json → String
  | .string tag => tag
  | value => value.compact

/-- What a document has at a place, unless data is to be kept secret. -/
def actualText (config : Config) (document : Data) (instancePath : String) : String :=
  if config.redact then "<redacted>"
  else
    match document.pointer instancePath with
    | some value => value.describe
    | none => "missing"

/-- The diagnostic for a failure in a document. -/
def diagnostic (config : Config) (document : Data) (failure : Failure) : Diagnostic where
  code := .validationTypeMismatch
  severity := config.overrides.severity .validationTypeMismatch .error
  message := "value at " ++ Location.shownPath failure.instancePath ++ " must be "
    ++ expectedText failure.schema
  location := some (Location.ofPaths failure.instancePath failure.schemaPath)
  expected := some (expectedText failure.schema)
  actual := some (actualText config document failure.instancePath)

/-- The diagnostics for failures in a document. -/
def diagnostics (validator : Validator) (failures : List Failure) (document : Data) :
    List Diagnostic :=
  failures.map (diagnostic validator.config document)

end Validator
end TypeForm
