/-!
# Binary floating-point numbers of 64 bits

A finite number is a sign and a magnitude, and a magnitude is a whole number of *units* of
`2 ^ (-1074)`, the least positive number of the format. Comparison, whole-number tests and
rounding are therefore exact arithmetic on integers. A magnitude is kept canonical (53 bits, the
leading one set unless the scale is least), so equal magnitudes are equal terms.
-/
namespace TypeForm

/-- A power of two. -/
def pow2 (n : Nat) : Nat := Nat.pow 2 n

/-- A power of ten. -/
def pow10 (n : Nat) : Nat := Nat.pow 10 n

/-- Number of binary digits, zero for zero. -/
def bitLength (n : Nat) : Nat :=
  if n = 0 then 0 else n.log2 + 1

/-- The whole number nearest to `num / den`, a half going to the even neighbour. -/
def roundQuotient (num den : Nat) : Nat :=
  let floor := num / den
  let twiceRest := 2 * (num % den)
  if twiceRest < den then floor
  else if den < twiceRest then floor + 1
  else floor + floor % 2

/-- Units in one: `1 = 2 ^ 1074 * 2 ^ (-1074)`. -/
def unitsPerOne : Nat := pow2 1074

/-- The significand and scale of a finite magnitude in its only canonical spelling. -/
def Canonical (significand scale : Nat) : Prop :=
  significand < pow2 53 ∧ scale ≤ 2045 ∧ (pow2 52 ≤ significand ∨ scale = 0)

instance (significand scale : Nat) : Decidable (Canonical significand scale) :=
  inferInstanceAs (Decidable (_ ∧ _ ∧ _))

/-- The magnitude of a finite number: `significand * 2 ^ scale` units. -/
structure Magnitude where
  significand : Nat
  scale : Nat
  canonical : Canonical significand scale
deriving DecidableEq, Repr

namespace Magnitude

/-- The magnitude as a count of units. -/
def units (m : Magnitude) : Nat := m.significand * pow2 m.scale

def zero : Magnitude := ⟨0, 0, by decide⟩

/-- The magnitude with the given parts, if they are canonical. -/
def ofParts? (significand scale : Nat) : Option Magnitude :=
  if h : Canonical significand scale then some ⟨significand, scale, h⟩ else none

/-- The magnitude nearest to `num / den` units, ties to the even significand; `none` when that
lies beyond the largest. -/
def nearest? (num den : Nat) : Option Magnitude :=
  let scale := bitLength (num / den) - 53
  let significand := roundQuotient num (den * pow2 scale)
  if significand = pow2 53 then ofParts? (pow2 52) (scale + 1) else ofParts? significand scale

/-- The product rounded to nearest; `none` when it is too large. -/
def mul? (x y : Magnitude) : Option Magnitude :=
  nearest? (x.units * y.units) unitsPerOne

/-- The quotient rounded to nearest; `none` when it is too large. -/
def div? (x y : Magnitude) : Option Magnitude :=
  nearest? (x.units * unitsPerOne) y.units

end Magnitude

/-- A 64-bit binary floating-point number; all NaNs count as one. -/
inductive Binary64 where
  | nan
  | infinite (negative : Bool)
  | finite (negative : Bool) (magnitude : Magnitude)
deriving DecidableEq, Repr

namespace Binary64

/-- The number nearest to `num / den` units with the given sign, infinite when too large. -/
def rounded (negative : Bool) (num den : Nat) : Binary64 :=
  match Magnitude.nearest? num den with
  | some magnitude => finite negative magnitude
  | none => infinite negative

/-- The number nearest to an integer. -/
def ofInt (n : Int) : Binary64 :=
  rounded (decide (n < 0)) (n.natAbs * unitsPerOne) 1

/-- The number encoded by 64 bits: sign, biased exponent of 11 bits, fraction of 52 bits. -/
def ofBits (bits : Nat) : Binary64 :=
  let negative := bits / pow2 63 % 2 == 1
  let exponent := bits / pow2 52 % pow2 11
  let fraction := bits % pow2 52
  if exponent = 2047 then
    if fraction = 0 then infinite negative else nan
  else
    let parts := if exponent = 0 then (fraction, 0) else (pow2 52 + fraction, exponent - 1)
    match Magnitude.ofParts? parts.1 parts.2 with
    | some magnitude => finite negative magnitude
    | none => nan

/-- A signed count of units. -/
def signedUnits (negative : Bool) (magnitude : Magnitude) : Int :=
  if negative then -(magnitude.units : Int) else magnitude.units

def isFinite : Binary64 → Bool
  | finite _ _ => true
  | _ => false

/-- Numerical order; nothing is ordered with NaN, and the two zeros are equal. -/
def le : Binary64 → Binary64 → Bool
  | nan, _ | _, nan => false
  | infinite true, _ | _, infinite false => true
  | infinite false, _ | _, infinite true => false
  | finite s x, finite t y => decide (signedUnits s x ≤ signedUnits t y)

/-- Whether a finite number has no fractional part. -/
def isWhole : Binary64 → Bool
  | finite _ magnitude => magnitude.units % unitsPerOne == 0
  | _ => false

end Binary64
end TypeForm
