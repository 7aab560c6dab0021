/-!
# Records

A record gives values to fields, by their names or by their order. What it gives for a field is
decoded; a field for which it gives nothing may have a default.
-/
namespace TypeForm

inductive Record (α : Type) where
  | named (entries : List (String × α))
  | listed (items : List α)

namespace Record

variable {α β : Type}

/-- What is given for the field at a position with a name. -/
def field? (record : Record α) (position : Nat) (name : String) : Option α :=
  match record with
  | named entries => (entries.find? fun entry => entry.1 == name).map (·.2)
  | listed items => items[position]?

/-- A field that must be given. -/
def required (record : Record α) (position : Nat) (name : String) (decode : α → Option β) :
    Option β :=
  (record.field? position name).bind decode

/-- A field that has a default. -/
def withDefault (record : Record α) (position : Nat) (name : String) (default : β)
    (decode : α → Option β) : Option β :=
  match record.field? position name with
  | some value => decode value
  | none => some default

end Record
end TypeForm
