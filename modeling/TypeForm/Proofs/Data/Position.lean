import Mathlib.Data.List.Basic
import TypeForm.Proofs.Data.Pointer

/-!
# Positions in arrays

A pointer enters an array by the canonical numeral of a position. It also does so by digits behind a
plus sign, where even a zero may come first that no numeral starts with.

## Main result

`Data.entersAt_positions`: the tokens by which arrays are entered, and the positions at which they
are. A token enters arrays as a canonical numeral or not at all exactly if it is no plus sign with
digits behind it.

## Proof strategy

Digits are the numeral of their value unless they start with a needless zero
(`Pointer.toDigits_ofDigitChars`), as numerals never do (`Pointer.head?_toDigits`). The reader of
positions refuses a needless zero at the start of a token, and not behind a sign
(`Pointer.arrayIndex?_eq_some_iff`).
-/
namespace TypeForm

namespace Pointer

/-! ### Numerals -/

theorem digitChar_of_isDigit {c : Char} (numeral : c.isDigit = true) :
    c.toNat - '0'.toNat < 10 ∧ (c.toNat - '0'.toNat).digitChar = c := by
  obtain ⟨least, most⟩ := Char.isDigit_iff_toNat.mp numeral
  have zero : '0'.toNat = 48 := rfl
  have nine : '9'.toNat = 57 := rfl
  have small : c.toNat - '0'.toNat < 10 := by omega
  refine ⟨small, Char.toNat_inj.mp ?_⟩
  rw [Nat.toNat_digitChar_of_lt_ten small]
  omega

/-- Digits after the numeral of a positive number make the numeral of a larger one. -/
theorem toDigits_append {digits : List Char} (numerals : ∀ c ∈ digits, c.isDigit = true) {n : Nat}
    (positive : 0 < n) :
    Nat.toDigits 10 n ++ digits = Nat.toDigits 10 (Nat.ofDigitChars 10 digits n) := by
  induction digits generalizing n with
  | nil => simp
  | cons c rest ih =>
    obtain ⟨small, char⟩ := digitChar_of_isDigit (numerals c List.mem_cons_self)
    have further := ih (fun d member => numerals d (List.mem_cons_of_mem c member))
      (n := 10 * n + (c.toNat - '0'.toNat)) (by omega)
    rw [Nat.ofDigitChars_cons, ← further,
      ← Nat.toDigits_append_toDigits (by decide) positive small, Nat.toDigits_of_lt_base small,
      char, List.append_assoc, List.singleton_append]

/-- Digits without a needless zero at the start are the numeral of their value. -/
theorem toDigits_ofDigitChars {c : Char} {rest : List Char}
    (numerals : ∀ d ∈ c :: rest, d.isDigit = true) (needed : c = '0' → rest = []) :
    Nat.toDigits 10 (Nat.ofDigitChars 10 (c :: rest) 0) = c :: rest := by
  obtain ⟨small, char⟩ := digitChar_of_isDigit (numerals c List.mem_cons_self)
  have first : Nat.toDigits 10 (c.toNat - '0'.toNat) = [c] := by
    rw [Nat.toDigits_of_lt_base small, char]
  rw [Nat.ofDigitChars_cons, Nat.mul_zero, Nat.zero_add]
  by_cases zero : c = '0'
  · rw [needed zero, Nat.ofDigitChars_nil, first]
  · have positive : 0 < c.toNat - '0'.toNat := by
      refine Nat.pos_of_ne_zero fun none => zero ?_
      rw [← char, none]
      rfl
    rw [← toDigits_append (fun d member => numerals d (List.mem_cons_of_mem c member)) positive,
      first, List.singleton_append]

theorem head?_toDigits {n : Nat} (positive : 0 < n) : (Nat.toDigits 10 n).head? ≠ some '0' := by
  induction n using Nat.strongRecOn with
  | ind n ih =>
    rw [Nat.toDigits_eq_if (by decide)]
    split
    · have other : ¬n = 0 := Nat.ne_of_gt positive
      simpa using other
    · rw [List.head?_append_of_ne_nil _ Nat.toDigits_ne_nil]
      exact ih (n / 10) (by omega) (by omega)

/-! ### Tokens that name positions -/

/-- Digits have a value, whether or not they are its numeral. -/
structure HasValue (digits : List Char) (value : Nat) : Prop where
  some : digits ≠ []
  numerals : ∀ c ∈ digits, c.isDigit = true
  value : Nat.ofDigitChars 10 digits 0 = value

/-- A token is a plus sign and digits. -/
def IsSigned (token : String) (position : Nat) : Prop :=
  ∃ digits, token.toList = '+' :: digits ∧ HasValue digits position

/-- A token of several characters starts with zero. -/
def HasNeedlessZero (token : String) : Prop :=
  token.toList.length > 1 ∧ token.toList.head? = some '0'

theorem IsSigned.head? {token : String} {position : Nat} (signed : IsSigned token position) :
    token.toList.head? = some '+' := by
  obtain ⟨digits, spelled, -⟩ := signed
  rw [spelled, List.head?_cons]

theorem hasValue_toString (n : Nat) : HasValue (toString n).toList n := by
  rw [Nat.toString_eq_repr, Nat.toList_repr]
  exact ⟨Nat.toDigits_ne_nil, fun _ => Nat.isDigit_of_mem_toDigits (by decide) (by decide),
    Nat.ofDigitChars_ten_toDigits⟩

theorem head?_toString_ne (n : Nat) : (toString n).toList.head? ≠ some '+' := by
  intro plus
  have numeral := (hasValue_toString n).numerals '+' (List.mem_of_mem_head? plus)
  cases numeral

/-- The zero of a numeral stands alone. -/
theorem not_hasNeedlessZero_toString (n : Nat) : ¬HasNeedlessZero (toString n) := by
  rw [HasNeedlessZero, Nat.toString_eq_repr, Nat.toList_repr]
  rintro ⟨several, zero⟩
  rcases Nat.eq_zero_or_pos n with rfl | positive
  · rw [Nat.toDigits_zero] at several
    exact absurd several (by decide)
  · exact head?_toDigits positive zero

theorem eq_toString_iff {token : String} {n : Nat} :
    token = toString n ↔ ¬HasNeedlessZero token ∧ HasValue token.toList n := by
  constructor
  · rintro rfl
    exact ⟨not_hasNeedlessZero_toString n, hasValue_toString n⟩
  · rintro ⟨needed, some, numerals, value⟩
    obtain ⟨c, rest, spelled⟩ := List.exists_cons_of_ne_nil some
    have single : c = '0' → rest = [] := by
      rintro rfl
      simpa [HasNeedlessZero, spelled] using needed
    apply String.toList_injective
    rw [spelled] at numerals
    rw [Nat.toString_eq_repr, Nat.toList_repr, ← value, spelled,
      toDigits_ofDigitChars numerals single]

/-- The digits of a token: what stands behind a plus sign, if there is one. -/
def digitsOf (token : String) : List Char :=
  match token.toList with
  | '+' :: rest => rest
  | rest => rest

theorem digitsOf_of_signed {token : String} {digits : List Char}
    (spelled : token.toList = '+' :: digits) : digitsOf token = digits := by
  rw [digitsOf, spelled]
  rfl

theorem digitsOf_of_unsigned {token : String} (unsigned : token.toList.head? ≠ some '+') :
    digitsOf token = token.toList := by
  unfold digitsOf
  split
  · next rest spelled => exact absurd (by rw [spelled]; rfl) unsigned
  · rfl

/-- A position is the value of the digits of its token, which does not start with a needless
zero. -/
theorem arrayIndex?_iff_hasValue {token : String} {position : Nat} :
    arrayIndex? token = some position ↔
      ¬HasNeedlessZero token ∧ HasValue (digitsOf token) position := by
  have fold : (digitsOf token).foldl (fun n c => n * 10 + (c.toNat - '0'.toNat)) 0 =
      Nat.ofDigitChars 10 (digitsOf token) 0 := by
    simp only [Nat.ofDigitChars_eq_foldl, Nat.mul_comm]
  change (if token.toList.length > 1 ∧ token.toList.head? = some '0' then none
    else if (digitsOf token).isEmpty ∨ !(digitsOf token).all Char.isDigit then none
    else some ((digitsOf token).foldl (fun n c => n * 10 + (c.toNat - '0'.toNat)) 0)) = _ ↔ _
  rw [fold]
  constructor
  · intro read
    split at read
    · cases read
    next needed =>
    split at read
    · cases read
    next readable =>
    simp only [not_or, Bool.not_eq_true, Bool.not_eq_false', List.all_eq_true] at readable
    exact ⟨needed, by simpa using readable.1, readable.2, Option.some.inj read⟩
  · rintro ⟨needed, some, numerals, rfl⟩
    exact (if_neg needed).trans (if_neg (by simpa [some] using numerals))

/-- The tokens that are read as a position: its numeral, and digits with its value behind a plus
sign. -/
theorem arrayIndex?_eq_some_iff {token : String} {position : Nat} :
    arrayIndex? token = some position ↔ token = toString position ∨ IsSigned token position := by
  rw [arrayIndex?_iff_hasValue]
  by_cases sign : token.toList.head? = some '+'
  · obtain ⟨digits, spelled⟩ := List.head?_eq_some_iff.mp sign
    -- A sign is no zero, so that the digits behind it may start with any.
    have needed : ¬HasNeedlessZero token := by simp [HasNeedlessZero, spelled]
    rw [digitsOf_of_signed spelled]
    constructor
    · exact fun ⟨_, value⟩ => .inr ⟨digits, spelled, value⟩
    · rintro (rfl | ⟨others, respelled, value⟩)
      · exact absurd sign (head?_toString_ne position)
      · rw [spelled] at respelled
        cases respelled
        exact ⟨needed, value⟩
  · rw [digitsOf_of_unsigned sign, eq_toString_iff]
    exact (or_iff_left fun signed => sign signed.head?).symm

end Pointer

/-! ### Entering arrays -/

namespace Data

theorem lookup_append (data : Data) (before after : List String) :
    data.lookup (before ++ after) = (data.lookup before).bind fun part => part.lookup after := by
  simp only [lookup_eq_foldlM, List.foldlM_append]
  rfl

theorem child?_array {items : List Data} {token : String} {item : Data} :
    (array items).child? token = some item ↔
      ∃ position, (token = toString position ∨ Pointer.IsSigned token position) ∧
        items[position]? = some item := by
  simp only [child?, Option.bind_eq_some_iff, Pointer.arrayIndex?_eq_some_iff]

/-- By this token pointers enter arrays at the positions that are named, and nowhere else: wherever
a pointer has led to an array before the token, it leads on from the item at such a position. -/
def EntersAt (token : String) (named : Nat → Prop) : Prop :=
  ∀ (document : Data) (pointer : String) (before after : List String) (items : List Data),
    Pointer.tokens? pointer = some (before ++ token :: after) →
    document.lookup before = some (array items) →
    ∀ value, document.pointer pointer = some value ↔
      ∃ position item, named position ∧ items[position]? = some item ∧
        item.lookup after = some value

theorem entersAt_read (token : String) :
    EntersAt token fun position => token = toString position ∨ Pointer.IsSigned token position := by
  intro document pointer before after items spelled reached value
  rw [Data.pointer, spelled, Option.bind_some, lookup_append, reached, Option.bind_some, lookup,
    Option.bind_eq_some_iff]
  simp only [child?_array]
  constructor
  · rintro ⟨item, ⟨position, named, found⟩, leads⟩
    exact ⟨position, item, named, found, leads⟩
  · rintro ⟨position, item, named, found, leads⟩
    exact ⟨item, ⟨position, named, found⟩, leads⟩

/-- Arrays are entered at a position by its canonical numeral, and by digits with its value behind a
plus sign. So a token enters arrays as a canonical numeral or not at all exactly if it is no plus
sign with digits behind it. -/
theorem entersAt_positions (token : String) :
    (EntersAt token fun position => token = toString position ∨ Pointer.IsSigned token position) ∧
      ((EntersAt token fun position => token = toString position) ↔
        ∀ position, ¬Pointer.IsSigned token position) := by
  have read := entersAt_read token
  refine ⟨read, fun canonical position signed => ?_, fun unsigned => ?_⟩
  · -- An array that is long enough is entered by the sign and digits.
    let document := array (List.replicate (position + 1) null)
    have spelled := Pointer.tokens?_ofTokens [token]
    have enters : document.pointer (Pointer.ofTokens [token]) = some null :=
      (read document _ [] [] _ spelled rfl null).mpr ⟨position, null, .inr signed, by simp, rfl⟩
    obtain ⟨other, _, rfl, -⟩ := (canonical document _ [] [] _ spelled rfl null).mp enters
    exact Pointer.head?_toString_ne other signed.head?
  · simpa only [unsigned, or_false] using read

/-- The token `+1` enters an array at its second item, although that is not its numeral. -/
theorem plus_not_canonical :
    (array [bool false, bool true]).pointer "/+1" = some (bool true) ∧
      ¬EntersAt "+1" fun position => "+1" = toString position := by
  have enters : (array [bool false, bool true]).pointer "/+1" = some (bool true) := rfl
  refine ⟨enters, fun canonical => ?_⟩
  obtain ⟨position, _, same, -⟩ := (canonical _ _ [] [] _ rfl rfl _).mp enters
  exact Pointer.head?_toString_ne position (congrArg (·.toList.head?) same.symm)

end Data
end TypeForm
