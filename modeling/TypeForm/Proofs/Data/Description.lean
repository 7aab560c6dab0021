import TypeForm.Data.Description
import TypeForm.Proofs.Text.Quoted

/-!
# What descriptions tell

A description shows of which kind a value is: it begins as no value of another kind is described.
Of a string it shows every character, or the first forty and that there are more.

## Main result

`describe_tells`: values with one description are of one kind, and strings have one description
exactly if they are equal, or both cut and equal as far as they are shown.

## Proof strategy

The kind is read off the first character (`describedKind_describe`). The description of a string is
a quoted text with dots behind it or nothing (`describe_string`); since a quoted text shows where it
ends, dots inside a string are not taken for those behind it.
-/
namespace TypeForm

/-! ### Numbers -/

/-- Numerals are made of digits and a point. -/
theorem Numeral.mem_positional {numeral : Numeral} {c : Char}
    (member : c ∈ numeral.positional.toList) : c.isDigit = true ∨ c = '.' := by
  have digits : ∀ c ∈ (toString numeral.digits).toList, c.isDigit = true := by
    intro c member
    rw [Nat.toString_eq_repr, Nat.toList_repr] at member
    exact Nat.isDigit_of_mem_toDigits (by decide) (by decide) member
  have zeros : ∀ count, ∀ c ∈ List.replicate count '0', c.isDigit = true := by
    intro count c member
    rw [List.eq_of_mem_replicate member]
    rfl
  have padded : ∀ count, ∀ c ∈ List.replicate count '0' ++ (toString numeral.digits).toList,
      c.isDigit = true :=
    fun count => List.forall_mem_append.mpr ⟨zeros count, digits⟩
  unfold positional at member
  split at member
  · -- Without places after the point there is none.
    rw [String.toList_ofList, List.mem_append] at member
    exact .inl (member.elim (digits c) (zeros _ c))
  · rw [String.toList_ofList, List.mem_append, List.mem_cons] at member
    rcases member with whole | point | places
    · exact .inl (padded _ c (List.mem_of_mem_take whole))
    · exact .inr point
    · exact .inl (padded _ c (List.mem_of_mem_drop places))

/-- A number begins with a digit, a point, a sign or one of two capital letters. -/
theorem Binary64.begins_text (x : Binary64) :
    ∀ c ∈ x.text.toList.head?, c.isDigit = true ∨ c ∈ ['.', '-', 'N', 'I'] := by
  intro c first
  cases x with
  | nan =>
    cases first
    decide
  | infinite negative =>
    cases negative <;> cases first <;> decide
  | finite negative magnitude =>
    cases negative with
    | true =>
      obtain rfl : '-' = c := by simpa [text] using first
      decide
    | false =>
      have member : c ∈ (magnitude.shortest .up).positional.toList := by
        refine List.mem_of_mem_head? ?_
        simpa [text] using first
      rcases Numeral.mem_positional member with digit | rfl
      · exact .inl digit
      · exact .inr List.mem_cons_self

namespace Data

/-! ### Kinds -/

/-- The kind of the values whose descriptions begin as a text does. -/
def describedKind (text : String) : Kind :=
  match text.toList.head? with
  | some 'n' => .null
  | some 't' | some 'f' => .boolean
  | some '"' => .string
  | some 'd' => .dateTime
  | some 'a' => .array
  | some 'o' => .object
  | _ => .number

theorem describedKind_of_begins {text : String}
    (begins : ∀ c ∈ text.toList.head?, c.isDigit = true ∨ c ∈ ['.', '-', 'N', 'I']) :
    describedKind text = .number := by
  unfold describedKind
  split
  case h_8 => rfl
  -- No number begins with a letter of the others.
  all_goals
    next letter => exact absurd (begins _ letter) (by decide)

theorem describedKind_append {front : String} (some : front.toList ≠ []) (text : String) :
    describedKind (front ++ text) = describedKind front := by
  rw [describedKind, describedKind, String.toList_append, List.head?_append_of_ne_nil _ some]

/-- The first forty characters are quoted, and three dots behind them stand for the others. -/
theorem describe_string (s : String) :
    (string s).describe = Text.quoted (String.ofList (s.toList.take 40)) ++
      if 40 < s.toList.length then "..." else "" := by
  rw [describe, describedLength]
  split
  · rfl
  · next short =>
    rw [List.take_of_length_le (Nat.le_of_not_lt short), String.ofList_toList, String.append_empty]

/-- A description tells the kind. -/
theorem describedKind_describe (x : Data) : describedKind x.describe = x.kind := by
  cases x with
  | null => rfl
  | bool value => cases value <;> rfl
  | number x => exact describedKind_of_begins x.begins_text
  | string s =>
    rw [describe_string, describedKind_append (by simp [Text.toList_quoted]), describedKind,
      Text.toList_quoted]
    rfl
  | moment m => exact describedKind_append (by decide) m.text
  | array items =>
    change describedKind ("array of " ++ toString items.length ++ " items") = _
    rw [String.append_assoc, describedKind_append (by decide)]
    rfl
  | object fields =>
    change describedKind ("object with " ++ toString fields.length ++ " fields") = _
    rw [String.append_assoc, describedKind_append (by decide)]
    rfl

/-! ### Strings -/

/-- A description shows the first forty characters, and whether there are more. -/
theorem describe_string_eq_iff (s t : String) :
    (string s).describe = (string t).describe ↔
      s.toList.take 40 = t.toList.take 40 ∧ (40 < s.toList.length ↔ 40 < t.toList.length) := by
  have behind : ∀ more others : Prop, ∀ [Decidable more] [Decidable others],
      (if more then "..." else "").toList = (if others then "..." else "").toList →
        (more ↔ others) := by
    intro more others _ _ dots
    by_cases left : more <;> by_cases right : others <;> simp [left, right] at dots ⊢
  rw [describe_string, describe_string, ← String.toList_inj, String.toList_append,
    String.toList_append]
  constructor
  · intro same
    obtain ⟨shown, dots⟩ := Text.quoted_append_inj same
    exact ⟨String.ofList_inj.mp shown, behind _ _ dots⟩
  · rintro ⟨shown, more⟩
    simp only [shown, more]

/-- Values that are described alike are of one kind. Strings are described alike exactly if they are
equal, or both have more than forty characters, of which the first forty are the same. -/
theorem describe_tells :
    (∀ x y : Data, x.describe = y.describe → x.kind = y.kind) ∧
      ∀ s t : String, (string s).describe = (string t).describe ↔
        s = t ∨ (40 < s.toList.length ∧ 40 < t.toList.length ∧
          s.toList.take 40 = t.toList.take 40) := by
  refine ⟨fun x y same => ?_, fun s t => ?_⟩
  · rw [← describedKind_describe x, same, describedKind_describe]
  · rw [describe_string_eq_iff]
    constructor
    · rintro ⟨shown, more⟩
      by_cases long : 40 < s.toList.length
      · exact .inr ⟨long, more.mp long, shown⟩
      · have short := mt more.mpr long
        rw [List.take_of_length_le (Nat.le_of_not_lt long),
          List.take_of_length_le (Nat.le_of_not_lt short)] at shown
        exact .inl (String.toList_inj.mp shown)
    · rintro (rfl | ⟨long, also, shown⟩)
      · exact ⟨rfl, Iff.rfl⟩
      · exact ⟨shown, iff_of_true long also⟩

/-- Forty characters, of which the last are a quote and three dots. -/
def endsInDots : String :=
  String.ofList (List.replicate 36 'x' ++ ['"', '.', '.', '.'])

/-- With other characters behind them they are cut off, which is not taken for their own dots. -/
theorem describe_tells_dots :
    let longer := string (endsInDots ++ "\"")
    let other := string (endsInDots ++ "\n...")
    longer.describe = other.describe ∧ longer.kind = other.kind ∧
      (string endsInDots).describe ≠ longer.describe := by
  have same := (describe_tells.2 (endsInDots ++ "\"") (endsInDots ++ "\n...")).mpr
    (.inr ⟨by decide, by decide, by decide⟩)
  refine ⟨same, describe_tells.1 _ _ same, (describe_tells.2 _ _).not.mpr ?_⟩
  decide

end Data
end TypeForm
