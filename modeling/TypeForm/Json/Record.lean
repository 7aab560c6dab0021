import TypeForm.Json.Basic
import TypeForm.Record

/-!
# Records in JSON

A record is written as an object with a member for each field, and may also be read from an array
of its fields in order. Members with other names are ignored; an array may end early only where
the missing fields have defaults. A choice between names is written as the name, and may also be
read from an object whose only member has that name and the value null.
-/
namespace TypeForm

namespace Json

/-- A value as a record with a number of fields. -/
def record? (fields : Nat) : Json → Option (Record Json)
  | .object members => some (.named members)
  | .array items => if items.length ≤ fields then some (.listed items) else none
  | _ => none

/-- A value that may be null. -/
def nullable (decode : Json → Option α) : Json → Option (Option α)
  | .null => some none
  | value => (decode value).map some

end Json

/-- An object gives a field by the name of a member, wherever the member stands. -/
@[simp] theorem Record.field?_named (members : Members) (position : Nat) (name : String) :
    (named members).field? position name = members.value? name :=
  rfl

/-- A field that may be null or have no member; an array has to give it. -/
def Record.optional (record : Record Json) (position : Nat) (name : String)
    (decode : Json → Option α) : Option (Option α) :=
  match record.field? position name, record with
  | some value, _ => Json.nullable decode value
  | none, named _ => some none
  | none, listed _ => none

namespace Json

/-- The name chosen by a value. -/
def choice? : Json → Option String
  | .string name => some name
  | .object [(name, .null)] => some name
  | _ => none

/-- An integer within bounds. -/
def intWithin? (min max : Int) : Json → Option Int
  | .number (.int n) => if min ≤ n ∧ n ≤ max then some n else none
  | _ => none

/-- A count of at most the given number of bits. -/
def count? (bits : Nat) (value : Json) : Option Nat :=
  (value.intWithin? 0 (Int.ofNat (pow2 bits) - 1)).map Int.toNat

/-- The items of an array, all of which must decode. -/
def list? (decode : Json → Option α) : Json → Option (List α)
  | .array items => items.mapM decode
  | _ => none

/-- Text, or null for none. -/
def ofOption : Option String → Json
  | some s => .string s
  | none => .null

/-- The member with the given name unless its value is absent. -/
def memberUnlessNone (name : String) : Option Json → Members
  | some value => [(name, value)]
  | none => []

end Json
end TypeForm
