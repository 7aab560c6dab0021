import TypeForm.Json.Record
import TypeForm.Proofs.Ascending
import TypeForm.Proofs.Json.Text

/-!
# Records are read back

A record is written in the order of its fields, and a text gives its members by ascending key. As
the names of its fields differ, every field is found all the same (`Record.required_sorted`,
`Record.optional_sorted`).
-/
namespace TypeForm

/-- The members of an object as a text gives them. -/
def Members.sorted (members : Members) : Members :=
  sortByKey (Json.sortedMembers members)

namespace Json

@[simp] theorem sorted_number (n : JsonNumber) : (number n).sorted = number n :=
  rfl

@[simp] theorem sorted_string (text : String) : (string text).sorted = string text :=
  rfl

@[simp] theorem sorted_object (members : Members) :
    (object members).sorted = object members.sorted := by
  rw [sorted]
  rfl

end Json

namespace Members

variable {members : Members}

theorem value?_sorted (distinct : (members.map (·.1)).Nodup) (key : String) :
    members.sorted.value? key = (members.value? key).map Json.sorted := by
  have keys : ((Json.sortedMembers members).map (·.1)).Nodup := by rwa [Json.keys_sortedMembers]
  rw [sorted, value?_sortByKey keys, Json.sortedMembers_eq, value?_map]

end Members

namespace Record

variable {α : Type} {members : Members}

@[simp] theorem required_sorted (distinct : (members.map (·.1)).Nodup) (position : Nat)
    (name : String) (decode : Json → Option α) :
    (named members.sorted).required position name decode =
      (members.value? name).bind fun value => decode value.sorted := by
  rw [required, field?_named, Members.value?_sorted distinct, Option.bind_map]
  rfl

@[simp] theorem optional_sorted (distinct : (members.map (·.1)).Nodup) (position : Nat)
    (name : String) (decode : Json → Option α) :
    (named members.sorted).optional position name decode =
      ((members.value? name).elim (some none)) fun value => Json.nullable decode value.sorted := by
  have found := Members.value?_sorted distinct name
  -- A field that is not written has no member in the text either.
  cases written : members.value? name with
  | none => simp [optional, found, written]
  | some value => simp [optional, found, written]

end Record

namespace Json

theorem count?_natCast {bits n : Nat} (fits : n < pow2 bits) :
    count? bits (.number (.int n)) = some n := by
  have most : (n : Int) ≤ Int.ofNat (pow2 bits) - 1 :=
    Int.le_sub_one_of_lt (Int.ofNat_lt.mpr fits)
  rw [count?, intWithin?, if_pos ⟨Int.natCast_nonneg n, most⟩]
  rfl

theorem nullable_eq_some {α : Type} {decode : Json → Option α} {value : Json} {x : α}
    (present : value ≠ .null) (found : decode value = some x) :
    nullable decode value = some (some x) := by
  cases value with
  | null => contradiction
  | _ => simp [nullable, found]

/-- Where any value is kept, null still counts as absent. -/
theorem nullable_some (value : Json) :
    nullable some value = some ((some value).filter (· ≠ .null)) := by
  cases value <;> rfl

theorem nullable_ofOption (text : Option String) :
    nullable string? (ofOption text).sorted = some text := by
  cases text <;> rfl

theorem list?_sorted {α : Type} {encode : α → Json} {decode : Json → Option α}
    (back : ∀ item, decode (encode item).sorted = some item) (items : List α) :
    list? decode (Json.array (items.map encode)).sorted = some items := by
  have each : decode ∘ sorted ∘ encode = fun item => pure (id item) := funext back
  rw [sorted, sortedItems_eq, list?, List.map_map, List.mapM_map, each, List.mapM_pure, List.map_id]
  rfl

end Json
end TypeForm
