import TypeForm.Number.Binary64

/-!
# Reading decimal numerals

A numeral is read in two rounded steps: the leading digits that fit 64 bits become a magnitude,
which is then multiplied or divided by a power of ten that was rounded on its own. Numerals whose
digits fit 53 bits and whose power is at most `10 ^ 22` are therefore read exactly rounded.
-/
namespace TypeForm.Magnitude

/-- The largest power of ten that one step uses; `10 ^ 309` has no magnitude. -/
def maxPower : Nat := 308

/-- A power of ten rounded to nearest. -/
def powerOfTen? (exponent : Nat) : Option Magnitude :=
  nearest? (pow10 exponent * unitsPerOne) 1

/-- The quotient by a power of ten. -/
def divPower? (m : Magnitude) (exponent : Nat) : Option Magnitude :=
  (powerOfTen? exponent).bind m.div?

/-- Divide by the largest power a number of times; zero stays zero, so the steps may end there. -/
def divMaxPowers? (m : Magnitude) : Nat → Option Magnitude
  | 0 => some m
  | steps + 1 =>
    if m.significand = 0 then some m
    else
      match m.divPower? maxPower with
      | some quotient => divMaxPowers? quotient steps
      | none => none

/-- The magnitude of `digits * 10 ^ exponent`; `none` when it is too large. -/
def ofDecimal? (digits : Nat) (exponent : Int) : Option Magnitude :=
  match nearest? (digits * unitsPerOne) 1 with
  | none => none
  | some m =>
    if exponent < 0 then
      let places := (-exponent).toNat
      let steps := (places - 1) / maxPower
      (m.divMaxPowers? steps).bind (·.divPower? (places - maxPower * steps))
    else if m.significand = 0 then some m
    else if maxPower < exponent.toNat then none
    else (powerOfTen? exponent.toNat).bind m.mul?

end TypeForm.Magnitude
