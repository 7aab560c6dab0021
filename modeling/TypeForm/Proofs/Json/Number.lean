import TypeForm.Proofs.Data.Position
import TypeForm.Proofs.Source.Token

/-!
# Integers are read back

A JSON integer is read as the integer that was written, as long as it fits into 64 bits with or
without a sign, and what follows it does not go on with a number (`Json.Read.number_append`,
`Json.Read.number_append_neg`).
-/
namespace TypeForm.Json.Read

/-- A text does not go on with a number. -/
def NumberStops (rest : List Char) : Prop :=
  ∀ c ∈ rest.head?, c.isDigit = false ∧ c ≠ '.' ∧ c ≠ 'e' ∧ c ≠ 'E'

theorem le_ofDigitChars (digits : List Char) (n : Nat) : n ≤ Nat.ofDigitChars 10 digits n := by
  induction digits generalizing n with
  | nil => simp
  | cons c rest ih =>
    rw [Nat.ofDigitChars_cons]
    have further := ih (10 * n + (c.toNat - '0'.toNat))
    omega

/-- Digits are all appended if their value is below the limit. -/
theorem appendDigits_of_lt {limit n : Nat} {digits : List Char}
    (below : Nat.ofDigitChars 10 digits n < limit) :
    appendDigits limit n digits = (Nat.ofDigitChars 10 digits n, []) := by
  induction digits generalizing n with
  | nil => simp [appendDigits]
  | cons c rest ih =>
    rw [Nat.ofDigitChars_cons] at below ⊢
    have next : n * 10 + digitValue c = 10 * n + (c.toNat - '0'.toNat) := by
      rw [digitValue, Nat.mul_comm]
    have within := le_ofDigitChars rest (10 * n + (c.toNat - '0'.toNat))
    simp only [appendDigits, next]
    rw [if_pos (Nat.lt_of_le_of_lt within below)]
    exact ih below

/-- Digits that fit are an integer where no fraction and no exponent follows. -/
theorem afterInteger_of_fits {negative : Bool} {n : Nat} (fits : n < pow2 64) {rest : List Char}
    (stops : NumberStops rest) :
    afterInteger negative (Nat.toDigits 10 n) rest =
      if !negative then .ok (.int n, rest)
      else if n = 0 ∨ pow2 63 < n then realNumber true n 0 rest
      else .ok (.int (-(n : Int)), rest) := by
  have value : Nat.ofDigitChars 10 (Nat.toDigits 10 n) 0 = n := Nat.ofDigitChars_ten_toDigits
  have digits : appendDigits significandLimit 0 (Nat.toDigits 10 n) = (n, []) := by
    have below : Nat.ofDigitChars 10 (Nat.toDigits 10 n) 0 < significandLimit := value.symm ▸ fits
    rw [appendDigits_of_lt below, value]
  unfold afterInteger
  rw [digits]
  -- What follows would have to start with a point or an `e`.
  dsimp only
  split
  · exact absurd rfl (stops _ rfl).2.1
  · exact absurd rfl (stops _ rfl).2.2.1
  · exact absurd rfl (stops _ rfl).2.2.2
  · rfl

/-- A number is what its digits make of it. -/
theorem number_toDigits (negative : Bool) (n : Nat) {rest : List Char} (stops : NumberStops rest) :
    number negative (Nat.toDigits 10 n ++ rest) =
      afterInteger negative (Nat.toDigits 10 n) rest := by
  rcases Nat.eq_zero_or_pos n with rfl | positive
  · -- A zero stands alone.
    rw [Nat.toDigits_zero]
    cases rest with
    | nil => rfl
    | cons c others => simp [number, (stops c rfl).1]
  · obtain ⟨c, more, spelled⟩ := List.exists_cons_of_ne_nil (Nat.toDigits_ne_nil : Nat.toDigits 10 n ≠ [])
    have numerals : ∀ d ∈ Nat.toDigits 10 n, d.isDigit = true :=
      fun d member => Nat.isDigit_of_mem_toDigits (by decide) (by decide) member
    have ends : ∀ d ∈ rest.head?, d.isDigit = false := fun d member => (stops d member).1
    obtain ⟨taken, dropped⟩ := Source.cut_append numerals ends
    have first : c.isDigit = true := numerals c (spelled ▸ List.mem_cons_self)
    have nonzero : c ≠ '0' := by
      rintro rfl
      exact Pointer.head?_toDigits positive (spelled ▸ rfl)
    rw [spelled] at taken dropped ⊢
    unfold number
    split
    · contradiction
    · next same => exact absurd (List.cons.inj same).1 nonzero
    · next _ same =>
      obtain ⟨rfl, -⟩ := List.cons.inj same
      simp only [first, taken, dropped, if_true]

theorem number_append {n : Nat} (fits : n < pow2 64) {rest : List Char}
    (stops : NumberStops rest) :
    number false (Nat.toDigits 10 n ++ rest) = .ok (.int n, rest) := by
  rw [number_toDigits false n stops, afterInteger_of_fits fits stops]
  rfl

theorem number_append_neg {n : Nat} (positive : 0 < n) (fits : n ≤ pow2 63) {rest : List Char}
    (stops : NumberStops rest) :
    number true (Nat.toDigits 10 n ++ rest) = .ok (.int (-(n : Int)), rest) := by
  have bound : pow2 63 < pow2 64 := by decide
  have integer : ¬(n = 0 ∨ pow2 63 < n) := by omega
  rw [number_toDigits true n stops, afterInteger_of_fits (Nat.lt_of_le_of_lt fits bound) stops]
  exact if_neg integer

end TypeForm.Json.Read
