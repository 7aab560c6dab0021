import TypeForm.Number.Binary64

/-!
# Type tags

The closed set of tags that a `type` keyword may name, and the inclusive ranges of the tags for
integers of fixed width.
-/
namespace TypeForm

/-- The integer types of fixed width. -/
inductive IntType where
  | int8
  | uint8
  | int16
  | uint16
  | int32
  | uint32
deriving DecidableEq, Repr

/-- Inclusive bounds. -/
structure IntRange where
  min : Int
  max : Int
deriving DecidableEq, Repr

namespace IntRange

/-- Whether a number is a whole number between the bounds. The bounds are compared as binary
numbers, so bounds of more than 53 bits are rounded first. -/
def contains (range : IntRange) (x : Binary64) : Bool :=
  x.isFinite && (Binary64.ofInt range.min).le x && x.le (Binary64.ofInt range.max) && x.isWhole

def text (range : IntRange) : String :=
  s!"[{range.min}, {range.max}]"

end IntRange

/-- The range of an integer type. -/
def IntType.range : IntType → IntRange
  | int8 => ⟨-128, 127⟩
  | uint8 => ⟨0, 255⟩
  | int16 => ⟨-32768, 32767⟩
  | uint16 => ⟨0, 65535⟩
  | int32 => ⟨-2147483648, 2147483647⟩
  | uint32 => ⟨0, 4294967295⟩

/-- The type tags. -/
inductive TypeTag where
  | boolean
  | string
  | timestamp
  | float32
  | float64
  | int (type : IntType)
deriving DecidableEq, Repr

namespace TypeTag

/-- Every tag, in the order in which messages list them. -/
def all : List TypeTag :=
  [boolean, timestamp, string, float32, float64, int .int8, int .uint8, int .int16, int .uint16,
    int .int32, int .uint32]

/-- A tag as schemas spell it. -/
def name : TypeTag → String
  | boolean => "boolean"
  | string => "string"
  | timestamp => "timestamp"
  | float32 => "float32"
  | float64 => "float64"
  | int .int8 => "int8"
  | int .uint8 => "uint8"
  | int .int16 => "int16"
  | int .uint16 => "uint16"
  | int .int32 => "int32"
  | int .uint32 => "uint32"

/-- The tag with the given name. -/
def ofName? (name : String) : Option TypeTag :=
  all.find? fun tag => tag.name == name

def intType? : TypeTag → Option IntType
  | int type => some type
  | _ => none

/-- Place in the order of tags: boolean, text, numbers by width. -/
def rank : TypeTag → Nat
  | boolean => 0
  | string => 1
  | timestamp => 2
  | float32 => 3
  | float64 => 4
  | int .int8 => 5
  | int .uint8 => 6
  | int .int16 => 7
  | int .uint16 => 8
  | int .int32 => 9
  | int .uint32 => 10

end TypeTag

/-- A name that no tag has. -/
structure UnknownTag where
  name : String
deriving DecidableEq, Repr

def UnknownTag.message (unknown : UnknownTag) : String :=
  s!"unknown type tag '{unknown.name}'"

/-- The tag with the given name, or the error that there is none. -/
def TypeTag.parse (name : String) : Except UnknownTag TypeTag :=
  match ofName? name with
  | some tag => .ok tag
  | none => .error ⟨name⟩

end TypeForm
