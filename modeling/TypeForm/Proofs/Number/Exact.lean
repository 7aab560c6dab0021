import Mathlib
import TypeForm.Tag

/-!
# Exact values of binary numbers

The rational number that a finite binary number stands for. Order and wholeness of binary numbers
are those of the rationals, and rounding fixes what the format can represent. So the bounds of the
integer types, which fit 53 bits, are compared exactly (`IntType.contains_iff`).
-/
namespace TypeForm

theorem pow2_eq (n : Nat) : pow2 n = 2 ^ n := rfl

theorem bitLength_le_iff (n k : Nat) : bitLength n ≤ k ↔ n < 2 ^ k := by
  unfold bitLength
  split
  next zero => simp [zero]
  next nonzero => rw [Nat.succ_le_iff, Nat.log2_lt nonzero]

theorem bitLength_mul_pow (n k : Nat) (nonzero : n ≠ 0) :
    bitLength (n * 2 ^ k) = bitLength n + k := by
  apply Nat.le_antisymm
  · rw [bitLength_le_iff, pow_add]
    exact Nat.mul_lt_mul_of_pos_right ((bitLength_le_iff n _).mp le_rfl) (by positivity)
  · -- The length less one is too short, for the number as for its multiple.
    have positive : bitLength n ≠ 0 := by simp [bitLength, nonzero]
    by_contra short
    have below : n * 2 ^ k < 2 ^ (bitLength n - 1 + k) :=
      (bitLength_le_iff _ _).mp (by omega)
    rw [pow_add] at below
    have shorter := (bitLength_le_iff n _).mpr (Nat.lt_of_mul_lt_mul_right below)
    omega

theorem roundQuotient_mul (n den : Nat) (positive : 0 < den) :
    roundQuotient (n * den) den = n := by
  simp [roundQuotient, Nat.mul_mod_left, Nat.mul_div_cancel _ positive, positive]

namespace Magnitude

theorem bitLength_units_sub (m : Magnitude) : bitLength m.units - 53 = m.scale := by
  obtain ⟨small, _, leading | least⟩ := m.canonical
  · rw [pow2_eq] at small leading
    have nonzero : m.significand ≠ 0 := by omega
    have upper := (bitLength_le_iff m.significand 53).mpr small
    have lower : ¬bitLength m.significand ≤ 52 := by rw [bitLength_le_iff]; omega
    rw [units, pow2_eq, bitLength_mul_pow _ _ nonzero]
    omega
  · rw [pow2_eq] at small
    have upper := (bitLength_le_iff m.significand 53).mpr small
    simp [units, least, pow2_eq]
    omega

/-- Rounding fixes what the format can represent. -/
theorem nearest?_units (m : Magnitude) : nearest? m.units 1 = some m := by
  have exact : roundQuotient m.units (1 * pow2 m.scale) = m.significand := by
    rw [one_mul]
    exact roundQuotient_mul _ _ (by rw [pow2_eq]; positivity)
  have bounded : m.significand ≠ pow2 53 := Nat.ne_of_lt m.canonical.1
  simp only [nearest?, Nat.div_one, bitLength_units_sub, exact, if_neg bounded, ofParts?,
    dif_pos m.canonical]

theorem exists_units_eq (n : Nat) (small : n < 2 ^ 53) :
    ∃ m : Magnitude, m.units = n * unitsPerOne := by
  by_cases zero : n = 0
  · exact ⟨.zero, by simp [zero, Magnitude.zero, units]⟩
  · -- Shift the leading bit to the top of the significand.
    have fits : bitLength n ≤ 53 := (bitLength_le_iff n 53).mpr small
    have length : bitLength (n * 2 ^ (53 - bitLength n)) = 53 := by
      rw [bitLength_mul_pow _ _ zero]; omega
    have lower : ¬bitLength (n * 2 ^ (53 - bitLength n)) ≤ 52 := by omega
    rw [bitLength_le_iff, not_lt] at lower
    have canonical : Canonical (n * 2 ^ (53 - bitLength n)) (1021 + bitLength n) :=
      ⟨(bitLength_le_iff _ 53).mp length.le, by omega, Or.inl lower⟩
    refine ⟨⟨_, _, canonical⟩, ?_⟩
    have shift : 53 - bitLength n + (1021 + bitLength n) = 1074 := by omega
    rw [units, unitsPerOne, pow2_eq, pow2_eq, mul_assoc, ← pow_add, shift]

end Magnitude

theorem unitsPerOne_pos : 0 < unitsPerOne := by
  rw [unitsPerOne, pow2_eq]; positivity

/-- The least positive number of the format. -/
def unit : ℚ := (unitsPerOne : ℚ)⁻¹

private theorem mul_inv_natCast_eq_iff (den : ℕ) (positive : 0 < den) (k n : ℤ) :
    (k : ℚ) * (den : ℚ)⁻¹ = n ↔ k = n * den := by
  have nonzero : (den : ℚ) ≠ 0 := by exact_mod_cast positive.ne'
  rw [← div_eq_mul_inv, div_eq_iff nonzero]
  exact_mod_cast Iff.rfl

theorem mul_unit_eq_iff (k n : ℤ) : (k : ℚ) * unit = n ↔ k = n * unitsPerOne :=
  mul_inv_natCast_eq_iff unitsPerOne unitsPerOne_pos k n

private theorem inv_natCast_pos (den : ℕ) (positive : 0 < den) : 0 < (den : ℚ)⁻¹ := by
  positivity

theorem unit_pos : 0 < unit :=
  inv_natCast_pos unitsPerOne unitsPerOne_pos

namespace Binary64

/-- The rational number that a finite number stands for. -/
def rational? : Binary64 → Option ℚ
  | finite negative magnitude => some (signedUnits negative magnitude * unit)
  | _ => none

theorem isFinite_iff (x : Binary64) : x.isFinite = true ↔ ∃ q, x.rational? = some q := by
  cases x <;> simp [isFinite, rational?]

theorem le_iff_of_rational {x y : Binary64} {p q : ℚ} (left : x.rational? = some p)
    (right : y.rational? = some q) : x.le y = true ↔ p ≤ q := by
  cases x <;> cases y <;> simp only [rational?, reduceCtorEq, Option.some.injEq] at left right
  subst left right
  rw [mul_le_mul_iff_of_pos_right unit_pos, Int.cast_le]
  simp [le]

theorem isWhole_iff (x : Binary64) :
    x.isWhole = true ↔ ∃ n : ℤ, x.rational? = some (n : ℚ) := by
  cases x with
  | nan => simp [isWhole, rational?]
  | infinite => simp [isWhole, rational?]
  | finite negative magnitude =>
    have signed : unitsPerOne ∣ magnitude.units ↔
        (unitsPerOne : ℤ) ∣ signedUnits negative magnitude := by
      cases negative
      · exact Int.natCast_dvd_natCast.symm
      · exact Int.natCast_dvd_natCast.symm.trans Int.dvd_neg.symm
    simp only [isWhole, rational?, beq_iff_eq, ← Nat.dvd_iff_mod_eq_zero, signed,
      Option.some.injEq, mul_unit_eq_iff, dvd_iff_exists_eq_mul_left]

theorem rounded_of_nearest {negative : Bool} {num den : ℕ} {m : Magnitude}
    (near : Magnitude.nearest? num den = some m) : rounded negative num den = finite negative m := by
  unfold rounded
  rw [near]

theorem ofInt_of_units {n : ℤ} {m : Magnitude} (same : m.units = n.natAbs * unitsPerOne) :
    ofInt n = finite (decide (n < 0)) m :=
  rounded_of_nearest (same ▸ m.nearest?_units)

private theorem signedUnits_decide {n : ℤ} {m : Magnitude}
    (same : m.units = n.natAbs * unitsPerOne) :
    signedUnits (decide (n < 0)) m = n * unitsPerOne := by
  unfold signedUnits
  rw [same, Int.natCast_mul]
  by_cases negative : n < 0
  · rw [decide_eq_true negative, if_pos rfl, Int.ofNat_natAbs_of_nonpos negative.le, neg_mul,
      neg_neg]
  · rw [decide_eq_false negative, if_neg Bool.false_ne_true,
      Int.natAbs_of_nonneg (not_lt.mp negative)]

/-- Integers of at most 53 bits are represented exactly. -/
theorem rational?_ofInt (n : ℤ) (small : n.natAbs < 2 ^ 53) :
    (ofInt n).rational? = some (n : ℚ) := by
  obtain ⟨m, same⟩ := Magnitude.exists_units_eq n.natAbs small
  rw [ofInt_of_units same]
  exact congrArg some ((mul_unit_eq_iff _ n).mpr (signedUnits_decide same))

end Binary64

theorem IntType.natAbs_bounds (type : IntType) :
    type.range.min.natAbs < 2 ^ 53 ∧ type.range.max.natAbs < 2 ^ 53 := by
  cases type <;> decide

/-- A range has the integers between the values that its bounds are converted to. -/
theorem IntRange.contains_iff_of_rational {range : IntRange} {low high : ℚ}
    (lower : (Binary64.ofInt range.min).rational? = some low)
    (upper : (Binary64.ofInt range.max).rational? = some high) (x : Binary64) :
    range.contains x = true ↔ ∃ n : ℤ, x.rational? = some (n : ℚ) ∧ low ≤ n ∧ n ≤ high := by
  simp only [IntRange.contains, Bool.and_eq_true]
  constructor
  · rintro ⟨⟨⟨_, above⟩, below⟩, whole⟩
    obtain ⟨n, value⟩ := (Binary64.isWhole_iff x).mp whole
    exact ⟨n, value, (Binary64.le_iff_of_rational lower value).mp above,
      (Binary64.le_iff_of_rational value upper).mp below⟩
  · rintro ⟨n, value, above, below⟩
    have finite := (Binary64.isFinite_iff x).mpr ⟨n, value⟩
    have whole := (Binary64.isWhole_iff x).mpr ⟨n, value⟩
    exact ⟨⟨⟨finite, (Binary64.le_iff_of_rational lower value).mpr above⟩,
      (Binary64.le_iff_of_rational value upper).mpr below⟩, whole⟩

/-- The range of an integer type has the binary numbers that are integers between its bounds. -/
theorem IntType.contains_iff (type : IntType) (x : Binary64) :
    type.range.contains x = true ↔
      ∃ n : ℤ, x.rational? = some (n : ℚ) ∧ type.range.min ≤ n ∧ n ≤ type.range.max := by
  have low := Binary64.rational?_ofInt _ type.natAbs_bounds.1
  have high := Binary64.rational?_ofInt _ type.natAbs_bounds.2
  simp only [IntRange.contains_iff_of_rational low high, Int.cast_le]

end TypeForm
