import TypeForm.Json.Record
import TypeForm.Tag

/-!
# Type forms

A type form is what a schema node says: a tag, and whether null is accepted besides the tag's
values.
-/
namespace TypeForm

/-- The content of a schema node such as `{"type": "int8", "nullable": true}`. -/
structure Form where
  tag : TypeTag
  nullable : Bool
deriving DecidableEq, Repr

namespace Form

/-- The schema node that says this; absence of `nullable` means false. -/
def toJson (form : Form) : Json :=
  .object <| (if form.nullable then [("nullable", .bool true)] else [])
    ++ [("type", .string form.tag.name)]

/-- Read a tag that a JSON value chooses. -/
def tagOfJson? (value : Json) : Option TypeTag :=
  value.choice?.bind TypeTag.ofName?

/-- Read a type form as a record of tag and nullability. -/
def ofJson? (value : Json) : Option Form := do
  let record ← value.record? 2
  let tag ← record.required 0 "type" tagOfJson?
  let nullable ← record.withDefault 1 "nullable" false Json.bool?
  some ⟨tag, nullable⟩

end Form
end TypeForm
