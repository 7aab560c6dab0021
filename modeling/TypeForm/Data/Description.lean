import TypeForm.Data.Basic
import TypeForm.Number.Shortest
import TypeForm.Text.Quoted

/-!
# Descriptions of data

How diagnostics show a value: in full if it is short, else by its kind and size.
-/
namespace TypeForm.Data

/-- Strings longer than this are cut. -/
def describedLength : Nat := 40

/-- A short text that shows a value. -/
def describe : Data → String
  | null => "null"
  | bool b => if b then "true" else "false"
  | number x => x.text
  | string s =>
    if describedLength < s.toList.length then
      Text.quoted (String.ofList (s.toList.take describedLength)) ++ "..."
    else Text.quoted s
  | moment m => "date-time " ++ m.text
  | array items => s!"array of {items.length} items"
  | object fields => s!"object with {fields.length} fields"

end TypeForm.Data
