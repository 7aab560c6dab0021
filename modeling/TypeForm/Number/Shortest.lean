import TypeForm.Number.Binary64

/-!
# The shortest decimal numeral of a number

Every real in an interval around a magnitude rounds to it; the ends belong to the interval exactly
when the significand is even. Among the decimal numerals in the interval the shortest is the one on
the coarsest grid `10 ^ k`. On that grid only the two neighbours of the magnitude can lie in the
interval, and the nearer one is taken; which of two equally near ones is taken is up to the text
that shows the numeral.
-/
namespace TypeForm

/-- Which of two equally near numerals is taken. -/
inductive Tie where
  | up
  | toEven
deriving DecidableEq, Repr

/-- The lower of two neighbours on a grid that are `step` apart is taken if the value is nearer to
it, where `excess` is the distance from it, and on a tie if the rule says so. -/
def Tie.takesLower (tie : Tie) (lower excess step : Nat) : Bool :=
  match compare (2 * excess) step, tie with
  | .lt, _ => true
  | .gt, _ => false
  | .eq, up => false
  | .eq, toEven => lower % 2 == 0

/-- The decimal numeral `digits * 10 ^ exponent`. -/
structure Numeral where
  digits : Nat
  exponent : Int
deriving DecidableEq, Repr

namespace Magnitude

/-- Quarter units in one; the ends of a rounding interval are whole numbers of quarter units. -/
def quartersPerOne : Nat := 4 * unitsPerOne

/-- Lower end of the rounding interval in quarter units. Below a power of two the spacing halves. -/
def intervalLow (m : Magnitude) : Nat :=
  let gap := if m.significand = pow2 52 ∧ m.scale ≠ 0 then 1 else 2
  4 * m.units - gap * pow2 m.scale

/-- Upper end of the rounding interval in quarter units. -/
def intervalHigh (m : Magnitude) : Nat :=
  4 * m.units + 2 * pow2 m.scale

/-- Whether `digits * 10 ^ exponent` lies in the rounding interval. -/
def readsBack (m : Magnitude) (numeral : Numeral) : Bool :=
  let point := numeral.digits * pow10 numeral.exponent.toNat * quartersPerOne
  let low := m.intervalLow * pow10 (-numeral.exponent).toNat
  let high := m.intervalHigh * pow10 (-numeral.exponent).toNat
  if m.significand % 2 = 0 then decide (low ≤ point ∧ point ≤ high)
  else decide (low < point ∧ point < high)

/-- The numeral on the grid `10 ^ exponent` that reads back and is nearest, if there is one. -/
def onGrid? (m : Magnitude) (tie : Tie) (exponent : Int) : Option Numeral :=
  let value := 4 * m.units * pow10 (-exponent).toNat
  let step := pow10 exponent.toNat * quartersPerOne
  let below : Numeral := ⟨value / step, exponent⟩
  let above : Numeral := ⟨value / step + 1, exponent⟩
  match m.readsBack below, m.readsBack above with
  | true, true => some (if tie.takesLower (value / step) (value % step) step then below else above)
  | true, false => some below
  | false, true => some above
  | false, false => none

/-- Search ever finer grids. -/
def search (m : Magnitude) (tie : Tie) : (grids : Nat) → (exponent : Int) → Numeral
  | 0, exponent =>
    ⟨4 * m.units * pow10 (-exponent).toNat / (pow10 exponent.toNat * quartersPerOne), exponent⟩
  | grids + 1, exponent =>
    match m.onGrid? tie exponent with
    | some numeral => numeral
    | none => search m tie grids (exponent - 1)

/-- The shortest numeral that reads back as the magnitude. The search starts at a power of ten
above the interval; twenty-five grids reach the seventeen digits that always suffice. -/
def shortest (m : Magnitude) (tie : Tie) : Numeral :=
  if m.significand = 0 then ⟨0, 0⟩
  else
    let bits : Int := (bitLength m.units : Int) - 1074
    m.search tie 25 ((bits + 1) * 30103 / 100000 + 1)

end Magnitude

namespace Numeral

/-- The numeral written out in full, without an exponent and without a needless point. -/
def positional (numeral : Numeral) : String :=
  let digits := (toString numeral.digits).toList
  if 0 ≤ numeral.exponent then
    String.ofList (digits ++ List.replicate numeral.exponent.toNat '0')
  else
    let places := (-numeral.exponent).toNat
    let padded := List.replicate (places + 1 - digits.length) '0' ++ digits
    let whole := padded.length - places
    String.ofList (padded.take whole ++ '.' :: padded.drop whole)

/-- The numeral with a point always shown: positional while the point falls less than five zeros
before the digits and no later than the sixteenth place, else with an exponent, whose sign is always
written. -/
def pointed (numeral : Numeral) : String :=
  let digits := (toString numeral.digits).toList
  let point : Int := digits.length + numeral.exponent
  if numeral.digits = 0 then "0.0"
  else if 0 ≤ numeral.exponent ∧ point ≤ 16 then numeral.positional ++ ".0"
  else if -5 < point ∧ point ≤ 16 then numeral.positional
  else
    let mantissa := match digits with
      | [] => ""
      | [d] => String.ofList [d]
      | d :: rest => String.ofList (d :: '.' :: rest)
    mantissa ++ (if point ≤ 0 then "e-" else "e+") ++ toString (point - 1).natAbs

end Numeral

namespace Binary64

/-- The shortest numeral that reads back, written out in full, a tie going up; the infinities and
NaN by name. -/
def text : Binary64 → String
  | nan => "NaN"
  | infinite negative => if negative then "-Infinity" else "Infinity"
  | finite negative magnitude =>
    (if negative then "-" else "") ++ (magnitude.shortest .up).positional

end Binary64
end TypeForm
