import TypeForm.Diagnostic
import TypeForm.Json.Writer
import TypeForm.Keyword.Contract
import TypeForm.Text.Quoted

/-!
# Why a schema does not compile

Every error but the last is a fault in the schema and says where in the schema it is.
-/
namespace TypeForm

inductive CompileError where
  | notObject (schemaPath : String)
  | keywordType (keyword : String) (expected : JsonType) (schemaPath : String)
  | keywordEnum (keyword : String) (allowed : List String) (found : Json) (schemaPath : String)
  | unsupportedKeyword (keyword : String) (schemaPath : String)
  | invalidKeywordValue (keyword : String) (reason : String) (schemaPath : String)
  | invalidDataPath (path : String)
deriving DecidableEq, Repr

namespace CompileError

/-- Names in quotes with commas between. -/
def listed (names : List String) : String :=
  ", ".intercalate (names.map Text.quoted)

def message : CompileError → String
  | notObject path => "schema at #" ++ path ++ " must be an object"
  | keywordType keyword expected path =>
    "keyword '" ++ keyword ++ "' at #" ++ path ++ " must be a " ++ expected.name
  | keywordEnum keyword allowed found path =>
    "keyword '" ++ keyword ++ "' at #" ++ path ++ " must be one of [" ++ listed allowed
      ++ "], got " ++ found.compact
  | unsupportedKeyword keyword path =>
    "keyword '" ++ keyword ++ "' at #" ++ path ++ " is not supported"
  | invalidKeywordValue keyword reason path =>
    "invalid value for keyword '" ++ keyword ++ "' at #" ++ path ++ ": " ++ reason
  | invalidDataPath path => "invalid data path '" ++ path ++ "': must be empty or start with '/'"

def code : CompileError → Code
  | notObject _ => .schemaNotObject
  | keywordType _ _ _ | invalidKeywordValue _ _ _ => .schemaKeywordType
  | keywordEnum _ _ _ _ => .schemaKeywordEnum
  | unsupportedKeyword _ _ => .schemaUnsupportedKeyword
  | invalidDataPath _ => .inputParseError

/-- Pointer to the fault in the schema. -/
def schemaPath? : CompileError → Option String
  | notObject path | keywordType _ _ path | keywordEnum _ _ _ path | unsupportedKeyword _ path
  | invalidKeywordValue _ _ path => some path
  | invalidDataPath _ => none

/-- What was expected and what was found, where the error is about that. -/
def comparison? : CompileError → Option (String × String)
  | keywordEnum _ allowed found _ => some ("one of [" ++ listed allowed ++ "]", found.compact)
  | _ => none

def toDiagnostic (error : CompileError) : Diagnostic where
  code := error.code
  severity := .error
  message := error.message
  location := error.schemaPath?.map (Location.ofPaths "")
  expected := error.comparison?.map (·.1)
  actual := error.comparison?.map (·.2)

end CompileError
end TypeForm
