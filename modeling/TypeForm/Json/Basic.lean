import TypeForm.Number.Binary64

/-!
# JSON values

An object is a list of members. A value read from a text lists them by ascending key without
repetition; a value built by the program may choose its own order, which is the order in which it
is written.
-/
namespace TypeForm

/-- A JSON number: an integer in the range of 64 bits, signed or not, or a binary number. -/
inductive JsonNumber where
  | int (value : Int)
  | real (value : Binary64)
deriving DecidableEq, Repr

/-- The binary number nearest to a JSON number. -/
def JsonNumber.toBinary : JsonNumber → Binary64
  | .int n => Binary64.ofInt n
  | .real x => x

inductive Json where
  | null
  | bool (value : Bool)
  | number (value : JsonNumber)
  | string (value : String)
  | array (items : List Json)
  | object (members : List (String × Json))
deriving Repr, Inhabited

/-- The members of an object. -/
abbrev Members := List (String × Json)

/-- The value of the first member with the given key. -/
def Members.value? (members : Members) (key : String) : Option Json :=
  (members.find? fun member => member.1 == key).map (·.2)

namespace Json

mutual

/-- Equality of values; the order of members counts. -/
def decEq : (x y : Json) → Decidable (x = y)
  | .null, .null => isTrue rfl
  | .bool a, .bool b =>
    if h : a = b then isTrue (by rw [h]) else isFalse (fun e => h (by injection e))
  | .number a, .number b =>
    if h : a = b then isTrue (by rw [h]) else isFalse (fun e => h (by injection e))
  | .string a, .string b =>
    if h : a = b then isTrue (by rw [h]) else isFalse (fun e => h (by injection e))
  | .array a, .array b =>
    match decEqItems a b with
    | isTrue h => isTrue (by rw [h])
    | isFalse h => isFalse (fun e => h (by injection e))
  | .object a, .object b =>
    match decEqMembers a b with
    | isTrue h => isTrue (by rw [h])
    | isFalse h => isFalse (fun e => h (by injection e))
  | .null, .bool _ | .null, .number _ | .null, .string _ | .null, .array _ | .null, .object _
  | .bool _, .null | .bool _, .number _ | .bool _, .string _ | .bool _, .array _
  | .bool _, .object _
  | .number _, .null | .number _, .bool _ | .number _, .string _ | .number _, .array _
  | .number _, .object _
  | .string _, .null | .string _, .bool _ | .string _, .number _ | .string _, .array _
  | .string _, .object _
  | .array _, .null | .array _, .bool _ | .array _, .number _ | .array _, .string _
  | .array _, .object _
  | .object _, .null | .object _, .bool _ | .object _, .number _ | .object _, .string _
  | .object _, .array _ => isFalse (fun e => by injection e)

def decEqItems : (x y : List Json) → Decidable (x = y)
  | [], [] => isTrue rfl
  | [], _ :: _ => isFalse (fun e => by injection e)
  | _ :: _, [] => isFalse (fun e => by injection e)
  | a :: as, b :: bs =>
    match decEq a b with
    | isTrue h =>
      match decEqItems as bs with
      | isTrue t => isTrue (by rw [h, t])
      | isFalse t => isFalse (fun e => t (by injection e))
    | isFalse h => isFalse (fun e => h (by injection e))

def decEqMembers : (x y : List (String × Json)) → Decidable (x = y)
  | [], [] => isTrue rfl
  | [], _ :: _ => isFalse (fun e => by injection e)
  | _ :: _, [] => isFalse (fun e => by injection e)
  | (k, a) :: as, (l, b) :: bs =>
    if g : k = l then
      match decEq a b with
      | isTrue h =>
        match decEqMembers as bs with
        | isTrue t => isTrue (by rw [g, h, t])
        | isFalse t => isFalse (fun e => t (by injection e))
      | isFalse h => isFalse (fun e => h (by injection e with e _; injection e))
    else isFalse (fun e => g (by injection e with e _; injection e))

end

instance : DecidableEq Json := decEq

/-- The members of an object value. -/
def members? : Json → Option Members
  | .object members => some members
  | _ => none

/-- The text of a string value. -/
def string? : Json → Option String
  | .string s => some s
  | _ => none

def bool? : Json → Option Bool
  | .bool b => some b
  | _ => none

end Json
end TypeForm
