import Mathlib
import TypeForm.Proofs.Number.Rounding

/-!
# What ranges contain

The bounds of a range are rounded before numbers are compared with them. A number between the bounds
is therefore still between the rounded ones, but a rounded bound is contained as well, even if it
lies outside. The bounds of the integer types are exact, and so are the integers next to them, so
that no integer is rounded into their ranges or out of them (`IntType.contains_ofInt`).

## Main result

`IntRange.contains_rounded`: a range contains the whole numbers between its rounded bounds, and it
contains exactly those between the bounds themselves if no bound is rounded outwards.
-/
namespace TypeForm

/-! ### Integers as numbers -/

namespace Binary64.IsNearest

variable {x : Binary64} {k n b : ℤ}

/-- Integers that are exact are compared with a rounded integer as with the integer itself. -/
theorem intCast_le_iff (nearest : x.IsNearest k n) (small : b.natAbs < 2 ^ 52) :
    b ≤ k ↔ b ≤ n := by
  have exact := rational?_ofInt b (by omega)
  have before := rational?_ofInt (b - 1) (by omega)
  constructor
  · -- The integer before the bound is exact too, so that nothing below is rounded beyond it.
    intro above
    by_contra less
    have below : (k : ℚ) ≤ (b - 1 : ℤ) :=
      (nearest.ge_iff before).mpr (.inl (by exact_mod_cast (by omega : n ≤ b - 1)))
    have : k ≤ b - 1 := by exact_mod_cast below
    omega
  · intro above
    exact_mod_cast (nearest.le_iff exact).mpr (.inl (by exact_mod_cast above))

theorem le_intCast_iff (nearest : x.IsNearest k n) (small : b.natAbs < 2 ^ 52) :
    k ≤ b ↔ n ≤ b := by
  have exact := rational?_ofInt b (by omega)
  have after := rational?_ofInt (b + 1) (by omega)
  constructor
  · intro below
    by_contra greater
    have above : ((b + 1 : ℤ) : ℚ) ≤ k :=
      (nearest.le_iff after).mpr (.inl (by exact_mod_cast (by omega : b + 1 ≤ n)))
    have : b + 1 ≤ k := by exact_mod_cast above
    omega
  · intro below
    exact_mod_cast (nearest.ge_iff exact).mpr (.inl (by exact_mod_cast below))

end Binary64.IsNearest

/-- Of the integers of 64 bits, an integer type has those between its bounds, although all of them
are rounded first. -/
theorem IntType.contains_ofInt (type : IntType) {n : ℤ} (small : n.natAbs < 2 ^ 64) :
    type.range.contains (.ofInt n) = true ↔ type.range.min ≤ n ∧ n ≤ type.range.max := by
  obtain ⟨k, nearest⟩ := Binary64.exists_isNearest_ofInt small
  have bounds : type.range.min.natAbs < 2 ^ 52 ∧ type.range.max.natAbs < 2 ^ 52 := by
    cases type <;> decide
  rw [← nearest.intCast_le_iff bounds.1, ← nearest.le_intCast_iff bounds.2, type.contains_iff,
    nearest.value]
  simp only [Option.some.injEq, Int.cast_inj, exists_eq_left']

/-! ### Bounds of 64 bits -/

theorem natAbs_toInt_lt (n : Int64) : n.toInt.natAbs < 2 ^ 64 := by
  have lower := n.le_toInt
  have upper := n.toInt_lt
  omega

/-- The numbers that a range contains are the whole ones between the numbers nearest to its bounds.
These are the whole numbers between the bounds exactly if no bound is rounded outwards, unless none
is between the rounded ones. -/
theorem IntRange.contains_rounded (min max : Int64) :
    ∃ low high : ℤ, (Binary64.ofInt min.toInt).IsNearest low min.toInt ∧
      (Binary64.ofInt max.toInt).IsNearest high max.toInt ∧
      (∀ x, (IntRange.mk min.toInt max.toInt).contains x = true ↔
        ∃ n : ℤ, x.rational? = some (n : ℚ) ∧ low ≤ n ∧ n ≤ high) ∧
      ((∀ x, (IntRange.mk min.toInt max.toInt).contains x = true ↔
          ∃ n : ℤ, x.rational? = some (n : ℚ) ∧ min.toInt ≤ n ∧ n ≤ max.toInt) ↔
        (low ≤ high → min.toInt ≤ low ∧ high ≤ max.toInt)) := by
  obtain ⟨low, lower⟩ := Binary64.exists_isNearest_ofInt (natAbs_toInt_lt min)
  obtain ⟨high, upper⟩ := Binary64.exists_isNearest_ofInt (natAbs_toInt_lt max)
  have contains (x : Binary64) : (IntRange.mk min.toInt max.toInt).contains x = true ↔
      ∃ n : ℤ, x.rational? = some (n : ℚ) ∧ low ≤ n ∧ n ≤ high := by
    have rounded := @IntRange.contains_iff_of_rational ⟨min.toInt, max.toInt⟩ low high lower.value
      upper.value x
    simpa only [Int.cast_le] using rounded
  refine ⟨low, high, lower, upper, contains, ?_⟩
  simp only [contains]
  constructor
  · -- The rounded bounds are contained themselves.
    intro exact some
    obtain ⟨n, value, above, -⟩ := (exact _).mp ⟨low, lower.value, le_rfl, some⟩
    obtain ⟨k, other, -, below⟩ := (exact _).mp ⟨high, upper.value, some, le_rfl⟩
    have least : low = n := by exact_mod_cast Option.some.inj (lower.value.symm.trans value)
    have greatest : high = k := by exact_mod_cast Option.some.inj (upper.value.symm.trans other)
    exact ⟨least ▸ above, greatest ▸ below⟩
  · intro inwards x
    constructor
    · rintro ⟨n, value, above, below⟩
      have inside := inwards (above.trans below)
      exact ⟨n, value, inside.1.trans above, below.trans inside.2⟩
    · rintro ⟨n, value, above, below⟩
      have afterLow : (low : ℚ) ≤ n := (lower.ge_iff value).mpr (.inl (by exact_mod_cast above))
      have beforeHigh : (n : ℚ) ≤ high := (upper.le_iff value).mpr (.inl (by exact_mod_cast below))
      exact ⟨n, value, by exact_mod_cast afterLow, by exact_mod_cast beforeHigh⟩

/-- The range of `2 ^ 53 + 1` alone contains `2 ^ 53`, to which its bounds are rounded. -/
theorem IntRange.contains_below :
    ¬∀ (min max : Int64) (x : Binary64), (IntRange.mk min.toInt max.toInt).contains x = true ↔
      ∃ n : ℤ, x.rational? = some (n : ℚ) ∧ min.toInt ≤ n ∧ n ≤ max.toInt := by
  intro exact
  have bound : (9007199254740993 : Int64).toInt = 2 ^ 53 + 1 := by decide
  have contained : (IntRange.mk (2 ^ 53 + 1) (2 ^ 53 + 1)).contains (.ofInt (2 ^ 53)) = true := by
    decide +kernel
  obtain ⟨n, value, above, below⟩ :=
    (exact 9007199254740993 9007199254740993 (.ofInt (2 ^ 53))).mp (by rw [bound]; exact contained)
  -- The number contained is `2 ^ 53`, which is not the only one between the bounds.
  rw [bound] at above below
  obtain rfl : n = 2 ^ 53 + 1 := le_antisymm below above
  have power : Binary64.ofInt (2 ^ 53) = .finite false ⟨2 ^ 52, 1075, by decide⟩ := by
    decide +kernel
  rw [power, Binary64.rational?, Option.some.injEq, mul_unit_eq_iff] at value
  exact absurd value (by decide +kernel)

end TypeForm
