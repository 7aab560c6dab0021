import TypeForm.Validator

/-!
# Source of validators

The generated function has a line for each helper before it, then for each check the binding of
its data, unless that is the root, and a test. The same lines are laid out over several lines or
on one.
-/
namespace TypeForm

/-- Access to the part of a document that a pointer addresses; a missing part is undefined. -/
def Pointer.accessText (pointer : String) : String :=
  String.join <| ((Text.segments pointer.toList).drop 1).map fun segment =>
    "?.[" ++ Json.literal (String.ofList (Pointer.unescapeChars segment)) ++ "]"

namespace Validator

/-- The statement that loads a helper. -/
def bindingLine (binding : Binding) : String :=
  "const " ++ binding.name.text ++ " = " ++ binding.helper.source ++ ";"

/-- The object that reports a failed check. -/
def failureText (check : Check) : String :=
  "\x7binstancePath: " ++ Json.literal check.instancePath ++ ", schemaPath: "
    ++ Json.literal check.schemaPath ++ ", keyword: " ++ Json.literal check.keyword ++ "\x7d"

/-- What to do when a check fails: note it, or return it at once. -/
def actionText (allErrors : Bool) (check : Check) : String :=
  if allErrors then "errors.push(" ++ failureText check ++ ");"
  else "return [" ++ failureText check ++ "];"

/-- The statements of a check. -/
def checkLines (root : Ident) (allErrors : Bool) (check : Check) : List String :=
  let action := actionText allErrors check
  if check.data = root then ["if (" ++ check.condition.text ++ ") " ++ action]
  else
    ["const " ++ check.data.text ++ " = " ++ root.text
        ++ Pointer.accessText check.instancePath ++ ";",
      "if (" ++ check.data.text ++ " !== undefined && (" ++ check.condition.text ++ ")) "
        ++ action]

/-- The statements in the function. -/
def bodyLines (validator : Validator) : List String :=
  "const errors = [];"
    :: validator.checks.flatMap (checkLines validator.root validator.config.allErrors)
    ++ ["return errors;"]

/-- The lines of the source with an indent for the statements in the function. -/
def sourceLines (validator : Validator) (indent : String) : List String :=
  validator.scope.bindings.map bindingLine
    ++ ("function validate(" ++ validator.root.text ++ ") \x7b")
    :: validator.bodyLines.map (indent ++ ·)
    ++ ["\x7d"]

/-- The validator as source text. -/
def source (validator : Validator) : String :=
  if validator.config.lines then "\n".intercalate (validator.sourceLines "  ") ++ "\n"
  else " ".intercalate (validator.sourceLines "")

end Validator
end TypeForm
