import Mathlib
import TypeForm.Proofs.Number.Exact

/-!
# Rounding integers to binary numbers

An integer that the format cannot represent is rounded to a number than which no other is nearer,
and of two that are equally near to the one with an even significand.

## Main results

* `Binary64.exists_isNearest_ofInt`: so are integers of 64 bits converted, and to whole numbers.
* `Binary64.IsNearest.le_iff`, `Binary64.IsNearest.ge_iff`: rounding moves an integer past no number
  of the format, but it may move it onto one.

## Proof strategy

Counts of units are rounded to multiples of a power of two. Multiples are at least a step apart, so
one that is at most half a step away is a nearest one (`roundQuotient_nearest`). A magnitude is such
a multiple, or it is so small that the least multiple with a full significand lies between it and
the count (`Magnitude.multiple_or_small`).
-/
namespace TypeForm

/-! ### Multiples -/

/-- A number is rounded to a multiple at most half a step away, and to an even one if it is just in
between. -/
theorem roundQuotient_near (num : ℕ) {step : ℕ} (positive : 0 < step) :
    2 * |(roundQuotient num step : ℤ) * step - num| ≤ step ∧
      (2 * |(roundQuotient num step : ℤ) * step - num| = step → Even (roundQuotient num step)) := by
  have parts : (num : ℤ) = (num / step : ℕ) * step + (num % step : ℕ) := by
    exact_mod_cast (Nat.div_add_mod' num step).symm
  have next : ((num / step + 1 : ℕ) : ℤ) * step = (num / step : ℕ) * step + step := by
    push_cast
    ring
  have rest : num % step < step := Nat.mod_lt num positive
  have below : |((num / step : ℕ) : ℤ) * step - num| = (num % step : ℕ) := by
    rw [abs_eq (by omega)]
    omega
  have above : |((num / step + 1 : ℕ) : ℤ) * step - num| = step - (num % step : ℕ) := by
    rw [abs_eq (by omega)]
    omega
  simp only [roundQuotient]
  split
  · rw [below]
    omega
  split
  · rw [above]
    omega
  · -- Just in between, the parity of the multiple below decides.
    rcases Nat.even_or_odd (num / step) with even | odd
    · rw [Nat.even_iff.mp even, Nat.add_zero, below]
      exact ⟨by omega, fun _ => even⟩
    · rw [Nat.odd_iff.mp odd, above]
      exact ⟨by omega, fun _ => odd.add_one⟩

/-- No other multiple is nearer, and an even one is taken of two that are equally near. -/
theorem roundQuotient_nearest (num : ℕ) {step other : ℕ} (positive : 0 < step)
    (differs : other ≠ roundQuotient num step) :
    |(roundQuotient num step : ℤ) * step - num| ≤ |(other : ℤ) * step - num| ∧
      (|(other : ℤ) * step - num| = |(roundQuotient num step : ℤ) * step - num| →
        Even (roundQuotient num step)) := by
  obtain ⟨near, even⟩ := roundQuotient_near num positive
  -- Two multiples are at least a step apart.
  have apart : (step : ℤ) ≤ |(other : ℤ) * step - roundQuotient num step * step| := by
    rw [← sub_mul, abs_mul, Nat.abs_cast]
    apply le_mul_of_one_le_left (Int.natCast_nonneg step)
    exact Int.one_le_abs (sub_ne_zero.mpr (by exact_mod_cast differs))
  have detour := abs_sub_le ((other : ℤ) * step) num (roundQuotient num step * step)
  rw [abs_sub_comm (num : ℤ)] at detour
  exact ⟨by omega, fun tie => even (by omega)⟩

namespace Magnitude

/-- A magnitude is nearest to a count of units: no other is nearer, and its significand is even if
another is as near. -/
structure IsNearest (m : Magnitude) (units : ℕ) : Prop where
  closest : ∀ other : Magnitude, |(m.units : ℤ) - units| ≤ |(other.units : ℤ) - units|
  even : ∀ other : Magnitude, other.units ≠ m.units →
    |(other.units : ℤ) - units| = |(m.units : ℤ) - units| → Even m.significand

/-- A magnitude is a multiple of a power of two, or it is less than any multiple that has a full
significand. -/
theorem multiple_or_small (m : Magnitude) (scale : ℕ) :
    (∃ k, m.units = k * 2 ^ scale) ∨ 0 < scale ∧ m.units < 2 ^ 52 * 2 ^ scale := by
  rcases Nat.lt_or_ge m.scale scale with finer | coarser
  · right
    refine ⟨by omega, ?_⟩
    calc m.significand * 2 ^ m.scale < 2 ^ 53 * 2 ^ m.scale :=
          Nat.mul_lt_mul_of_pos_right m.canonical.1 (by positivity)
      _ = 2 ^ (53 + m.scale) := (pow_add ..).symm
      _ ≤ 2 ^ (52 + scale) := Nat.pow_le_pow_right two_pos (by omega)
      _ = 2 ^ 52 * 2 ^ scale := pow_add ..
  · left
    refine ⟨m.significand * 2 ^ (m.scale - scale), ?_⟩
    rw [mul_assoc, ← pow_add, Nat.sub_add_cancel coarser]
    rfl

/-- The scale at which a count of units is rounded leaves 53 bits before the point. -/
theorem bounds_of_scale {units : ℕ} {scale : ℕ} (chosen : scale = bitLength units - 53) :
    units < 2 ^ 53 * 2 ^ scale ∧ (0 < scale → 2 ^ 52 * 2 ^ scale ≤ units) := by
  rw [← pow_add, ← pow_add]
  refine ⟨(bitLength_le_iff units _).mp (by omega), fun positive => ?_⟩
  rw [← not_lt, ← bitLength_le_iff]
  omega

theorem significand_bounds {units : ℕ} {scale : ℕ} (chosen : scale = bitLength units - 53) :
    roundQuotient units (2 ^ scale) ≤ 2 ^ 53 ∧
      (0 < scale → 2 ^ 52 ≤ roundQuotient units (2 ^ scale)) := by
  obtain ⟨upper, lower⟩ := bounds_of_scale chosen
  have positive : 0 < 2 ^ scale := by positivity
  -- Rounding goes at most one up from the whole part.
  have whole : units / 2 ^ scale < 2 ^ 53 := (Nat.div_lt_iff_lt_mul positive).mpr upper
  have full (some : 0 < scale) : 2 ^ 52 ≤ units / 2 ^ scale :=
    (Nat.le_div_iff_mul_le positive).mpr (lower some)
  simp only [roundQuotient]
  split
  · exact ⟨by omega, full⟩
  split
  · exact ⟨by omega, fun some => (full some).trans (Nat.le_succ _)⟩
  · exact ⟨by omega, fun some => (full some).trans (Nat.le_add_right ..)⟩

/-- Unless it is too large, a count of units is rounded to a multiple at its scale. -/
theorem exists_nearest?_multiple {units scale : ℕ} (chosen : scale = bitLength units - 53)
    (small : bitLength units ≤ 2097) :
    ∃ m, nearest? units 1 = some m ∧ m.units = roundQuotient units (2 ^ scale) * 2 ^ scale ∧
      (Even (roundQuotient units (2 ^ scale)) → Even m.significand) := by
  obtain ⟨fits, full⟩ := significand_bounds chosen
  have scales : scale ≤ 2044 := by omega
  simp only [nearest?, Nat.div_one, one_mul, ← chosen, pow2_eq]
  split
  next carry =>
    -- A carry into the next digit moves the scale.
    have canonical : Canonical (2 ^ 52) (scale + 1) :=
      ⟨by decide, by omega, .inl le_rfl⟩
    refine ⟨⟨2 ^ 52, scale + 1, canonical⟩, dif_pos canonical, ?_, fun _ => (by decide : Even (2 ^ 52))⟩
    rw [carry, Magnitude.units, pow2_eq, pow_succ' 2 scale, ← mul_assoc]
    rfl
  next other =>
    have canonical : Canonical (roundQuotient units (2 ^ scale)) scale := by
      refine ⟨lt_of_le_of_ne fits other, by omega, ?_⟩
      exact (Nat.eq_zero_or_pos scale).symm.imp full id
    exact ⟨⟨_, _, canonical⟩, dif_pos canonical, rfl, id⟩

/-- Rounding finds a nearest magnitude, unless the units are too many. -/
theorem exists_nearest? {units : ℕ} (small : bitLength units ≤ 2097) :
    ∃ m, nearest? units 1 = some m ∧ m.IsNearest units := by
  obtain ⟨m, found, multiple, parity⟩ := exists_nearest?_multiple rfl small
  obtain ⟨-, lower⟩ := @bounds_of_scale units _ rfl
  generalize bitLength units - 53 = scale at *
  have positive : 0 < 2 ^ scale := by positivity
  have value : (m.units : ℤ) = (roundQuotient units (2 ^ scale) : ℤ) * (2 ^ scale : ℕ) := by
    exact_mod_cast multiple
  have decides (other : Magnitude) (differs : other.units ≠ m.units) :
      |(m.units : ℤ) - units| ≤ |(other.units : ℤ) - units| ∧
        (|(other.units : ℤ) - units| = |(m.units : ℤ) - units| →
          Even (roundQuotient units (2 ^ scale))) := by
    rw [value]
    rcases other.multiple_or_small scale with ⟨k, same⟩ | ⟨coarse, less⟩
    · have distinct : k ≠ roundQuotient units (2 ^ scale) := by
        rintro rfl
        exact differs (same.trans multiple.symm)
      have nearest := roundQuotient_nearest units positive distinct
      rw [same]
      exact_mod_cast nearest
    · -- The least multiple with a full significand is strictly nearer.
      have full := lower coarse
      have reached : |(roundQuotient units (2 ^ scale) : ℤ) * (2 ^ scale : ℕ) - units| ≤
          |((2 ^ 52 : ℕ) : ℤ) * (2 ^ scale : ℕ) - units| := by
        rcases eq_or_ne (2 ^ 52) (roundQuotient units (2 ^ scale)) with same | distinct
        · rw [same]
        · exact (roundQuotient_nearest units positive distinct).1
      have between : |((2 ^ 52 : ℕ) : ℤ) * (2 ^ scale : ℕ) - units| <
          |(other.units : ℤ) - units| := by
        rw [abs_sub_comm, abs_sub_comm (other.units : ℤ), abs_of_nonneg, abs_of_nonneg] <;> omega
      exact ⟨by omega, fun tie => by omega⟩
  refine ⟨m, found, fun other => ?_, fun other differs tie => parity ((decides other differs).2 tie)⟩
  by_cases same : other.units = m.units
  · rw [same]
  · exact (decides other same).1

/-- Whole numbers are rounded to whole numbers. -/
theorem dvd_units_of_nearest? {n : ℕ} {m : Magnitude} (small : bitLength (n * unitsPerOne) ≤ 2097)
    (found : nearest? (n * unitsPerOne) 1 = some m) : unitsPerOne ∣ m.units := by
  obtain ⟨other, same, multiple, -⟩ := exists_nearest?_multiple rfl small
  obtain rfl := Option.some.inj (found.symm.trans same)
  generalize bitLength (n * unitsPerOne) - 53 = scale at multiple
  rw [multiple]
  rw [unitsPerOne, pow2_eq]
  rcases le_total scale 1074 with fine | coarse
  · -- A multiple of the unit is one of the finer step, and it is rounded to itself.
    have exact : n * 2 ^ 1074 = n * 2 ^ (1074 - scale) * 2 ^ scale := by
      rw [mul_assoc, ← pow_add, Nat.sub_add_cancel fine]
    rw [exact, roundQuotient_mul _ _ (by positivity), ← exact]
    exact Nat.dvd_mul_left ..
  · exact Nat.dvd_mul_left_of_dvd (pow_dvd_pow 2 coarse) _

end Magnitude

namespace Binary64

/-- The significand of a finite number is even. -/
def IsEven : Binary64 → Prop
  | finite _ magnitude => Even magnitude.significand
  | _ => False

/-- A number with the value `p` is nearest to `q`: no other is nearer, and its significand is even
if one with another value is as near. -/
structure IsNearest (x : Binary64) (p q : ℚ) : Prop where
  value : x.rational? = some p
  closest : ∀ (y : Binary64) (r : ℚ), y.rational? = some r → |p - q| ≤ |r - q|
  even : ∀ (y : Binary64) (r : ℚ), y.rational? = some r → r ≠ p → |r - q| = |p - q| → x.IsEven

/-! ### Integers -/

/-- Distances from an integer, in units. -/
theorem abs_value_sub (k n : ℤ) : |(k : ℚ) * unit - n| = |k - n * unitsPerOne| * unit := by
  have exact : ((n * unitsPerOne : ℤ) : ℚ) * unit = n := (mul_unit_eq_iff _ n).mpr rfl
  rw [← exact, ← sub_mul, abs_mul, abs_of_pos unit_pos]
  norm_cast

/-- The distance of a magnitude with a sign from an integer: the magnitudes are subtracted if the
signs agree, and added if they do not. -/
theorem abs_signedUnits_sub (negative : Bool) (m : Magnitude) (n : ℤ) :
    |signedUnits negative m - n * unitsPerOne| =
      if negative = decide (n < 0) then |(m.units : ℤ) - (n.natAbs * unitsPerOne : ℕ)|
      else m.units + (n.natAbs * unitsPerOne : ℕ) := by
  by_cases below : n < 0
  · have value : n * (unitsPerOne : ℤ) = -(n.natAbs * unitsPerOne : ℕ) := by
      rw [Int.natCast_mul, Int.ofNat_natAbs_of_nonpos below.le, neg_mul, neg_neg]
    rw [value, sub_neg_eq_add, decide_eq_true below]
    cases negative with
    | true =>
      rw [if_pos rfl, signedUnits, if_pos rfl, neg_add_eq_sub, abs_sub_comm]
    | false =>
      rw [if_neg Bool.false_ne_true, signedUnits, if_neg Bool.false_ne_true]
      exact abs_of_nonneg (add_nonneg (Int.natCast_nonneg _) (Int.natCast_nonneg _))
  · have value : n * (unitsPerOne : ℤ) = (n.natAbs * unitsPerOne : ℕ) := by
      rw [Int.natCast_mul, Int.natAbs_of_nonneg (not_lt.mp below)]
    rw [value, decide_eq_false below]
    cases negative with
    | true =>
      rw [if_neg Bool.false_ne_true.symm, signedUnits, if_pos rfl, ← neg_add', abs_neg]
      exact abs_of_nonneg (add_nonneg (Int.natCast_nonneg _) (Int.natCast_nonneg _))
    | false =>
      rw [if_pos rfl, signedUnits, if_neg Bool.false_ne_true]

/-- No magnitude with a sign is nearer to an integer than a nearest magnitude with the integer's own
sign. -/
theorem signedUnits_nearest {n : ℤ} {m : Magnitude}
    (nearest : m.IsNearest (n.natAbs * unitsPerOne)) (negative : Bool) (other : Magnitude) :
    |signedUnits (decide (n < 0)) m - n * unitsPerOne| ≤
        |signedUnits negative other - n * unitsPerOne| ∧
      (signedUnits negative other ≠ signedUnits (decide (n < 0)) m →
        |signedUnits negative other - n * unitsPerOne| =
          |signedUnits (decide (n < 0)) m - n * unitsPerOne| → Even m.significand) := by
  simp only [abs_signedUnits_sub, if_true]
  split
  next same =>
    refine ⟨nearest.closest other, fun differs tie => nearest.even other ?_ tie⟩
    rintro units
    exact differs (by rw [same, signedUnits, signedUnits, units])
  next opposite =>
    -- Zero lies between the two, so that it is at least as near as the other one.
    have zero := nearest.closest .zero
    have none : Magnitude.zero.units = 0 := Nat.zero_mul _
    rw [none, Nat.cast_zero, zero_sub, abs_neg, Nat.abs_cast] at zero
    refine ⟨by omega, fun differs tie => nearest.even .zero ?_ ?_⟩
    · rw [none]
      intro same
      apply differs
      have gone : other.units = 0 := by omega
      simp [signedUnits, gone, ← same]
    · rw [none, Nat.cast_zero, zero_sub, abs_neg, Nat.abs_cast]
      omega

/-- An integer of 64 bits is converted to a whole number that is nearest to it. -/
theorem exists_isNearest_ofInt {n : ℤ} (small : n.natAbs < 2 ^ 64) :
    ∃ k : ℤ, (ofInt n).IsNearest k n := by
  have length : bitLength (n.natAbs * unitsPerOne) ≤ 2097 := by
    have bits := (bitLength_le_iff n.natAbs 64).mpr small
    by_cases zero : n.natAbs = 0
    · simp [zero, bitLength]
    · rw [unitsPerOne, pow2_eq, bitLength_mul_pow _ _ zero]
      omega
  obtain ⟨m, found, nearest⟩ := Magnitude.exists_nearest? length
  have rounded : ofInt n = finite (decide (n < 0)) m := rounded_of_nearest found
  have whole : (finite (decide (n < 0)) m).isWhole = true := by
    rw [isWhole, beq_iff_eq]
    exact Nat.mod_eq_zero_of_dvd (Magnitude.dvd_units_of_nearest? length found)
  obtain ⟨k, value⟩ := (isWhole_iff _).mp whole
  have units : (k : ℚ) = signedUnits (decide (n < 0)) m * unit := (Option.some.inj value).symm
  rw [rounded]
  refine ⟨k, value, fun y r other => ?_, fun y r other differs tie => ?_⟩
  · cases y with
    | finite negative magnitude =>
      cases other
      rw [units, abs_value_sub, abs_value_sub, mul_le_mul_iff_left₀ unit_pos]
      exact_mod_cast (signedUnits_nearest nearest negative magnitude).1
    | _ => cases other
  · cases y with
    | finite negative magnitude =>
      cases other
      rw [units, abs_value_sub, abs_value_sub, mul_left_inj' unit_pos.ne'] at tie
      refine (signedUnits_nearest nearest negative magnitude).2 (fun same => ?_)
        (by exact_mod_cast tie)
      exact differs (by rw [units, same])
    | _ => cases other

/-! ### Order -/

namespace IsNearest

variable {x y : Binary64} {p q r : ℚ}

/-- A number is at most what another one was rounded to exactly if it is at most what was rounded,
or the very number that it was rounded to. -/
theorem le_iff (nearest : x.IsNearest p q) (value : y.rational? = some r) :
    r ≤ p ↔ r ≤ q ∨ r = p := by
  have closest := nearest.closest y r value
  constructor
  · intro below
    by_contra outside
    obtain ⟨above, differs⟩ := not_or.mp outside
    -- The number would lie strictly between, and be the nearer one.
    have strict : r < p := lt_of_le_of_ne below differs
    rw [abs_of_pos (by linarith), abs_of_pos (by linarith)] at closest
    linarith
  · rintro (below | same)
    · by_contra above
      rw [abs_of_nonpos (by linarith), abs_of_nonpos (by linarith)] at closest
      linarith
    · exact same.le

theorem ge_iff (nearest : x.IsNearest p q) (value : y.rational? = some r) :
    p ≤ r ↔ q ≤ r ∨ r = p := by
  have closest := nearest.closest y r value
  constructor
  · intro above
    by_contra outside
    obtain ⟨below, differs⟩ := not_or.mp outside
    have strict : p < r := lt_of_le_of_ne above (Ne.symm differs)
    rw [abs_of_neg (by linarith), abs_of_neg (by linarith)] at closest
    linarith
  · rintro (above | same)
    · by_contra below
      rw [abs_of_nonneg (by linarith), abs_of_nonneg (by linarith)] at closest
      linarith
    · exact same.ge

end IsNearest
end Binary64
end TypeForm
