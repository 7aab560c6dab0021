import TypeForm.Json.Basic

/-!
# What a keyword's value must be

A keyword fixes the JSON type of its value and possibly the strings that it may be.
-/
namespace TypeForm

/-- The JSON types that a keyword may ask for. -/
inductive JsonType where
  | string
  | boolean
  | number
  | object
  | array
deriving DecidableEq, Repr

namespace JsonType

def name : JsonType → String
  | string => "string"
  | boolean => "boolean"
  | number => "number"
  | object => "object"
  | array => "array"

def accepts : JsonType → Json → Bool
  | string, .string _ => true
  | boolean, .bool _ => true
  | number, .number _ => true
  | object, .object _ => true
  | array, .array _ => true
  | _, _ => false

end JsonType

/-- A constraint on a value beyond its type. -/
inductive Choice where
  | anything
  | oneOf (names : List String)
deriving DecidableEq, Repr

namespace Choice

def accepts : Choice → Json → Bool
  | anything, _ => true
  | oneOf names, .string s => names.contains s
  | oneOf _, _ => false

/-- The names that are allowed. -/
def names : Choice → List String
  | anything => []
  | oneOf names => names

end Choice
end TypeForm
