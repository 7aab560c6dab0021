import TypeForm.Json.Basic
import TypeForm.Pointer
import TypeForm.Time.Moment

/-!
# Data under validation

A data value is what JSON can say, with every number a binary number, and moments besides.
`Data.lookup` follows reference tokens one by one; `Data.pointer` does so for a pointer's text.
-/
namespace TypeForm

/-- The kinds of data, as generated code and messages name them. -/
inductive Kind where
  | null
  | boolean
  | number
  | string
  | dateTime
  | array
  | object
deriving DecidableEq, Repr

def Kind.name : Kind → String
  | null => "null"
  | boolean => "boolean"
  | number => "number"
  | string => "string"
  | dateTime => "date-time"
  | array => "array"
  | object => "object"

inductive Data where
  | null
  | bool (value : Bool)
  | number (value : Binary64)
  | string (value : String)
  | moment (value : Moment)
  | array (items : List Data)
  | object (fields : List (String × Data))
deriving Repr, Inhabited

namespace Data

def kind : Data → Kind
  | null => .null
  | bool _ => .boolean
  | number _ => .number
  | string _ => .string
  | moment _ => .dateTime
  | array _ => .array
  | object _ => .object

def number? : Data → Option Binary64
  | number x => some x
  | _ => none

def string? : Data → Option String
  | string s => some s
  | _ => none

/-- The part of a value that one reference token names: a field of an object, an item of an
array. -/
def child? (data : Data) (token : String) : Option Data :=
  match data with
  | object fields => (fields.find? fun field => field.1 == token).map (·.2)
  | array items => (Pointer.arrayIndex? token).bind fun index => items[index]?
  | _ => none

/-- Follow reference tokens from the outside in. -/
def lookup (data : Data) : List String → Option Data
  | [] => some data
  | token :: rest => (data.child? token).bind fun child => child.lookup rest

/-- The part of a value that a pointer addresses. -/
def pointer (data : Data) (pointer : String) : Option Data :=
  (Pointer.tokens? pointer).bind data.lookup

mutual

/-- The data that a JSON value stands for. -/
def ofJson : Json → Data
  | .null => null
  | .bool b => bool b
  | .number n => number n.toBinary
  | .string s => string s
  | .array items => array (ofItems items)
  | .object members => object (ofMembers members)

def ofItems : List Json → List Data
  | [] => []
  | item :: rest => ofJson item :: ofItems rest

def ofMembers : List (String × Json) → List (String × Data)
  | [] => []
  | (key, value) :: rest => (key, ofJson value) :: ofMembers rest

end

end Data
end TypeForm
