import TypeForm.Time.Calendar

/-!
# Moments

An instant together with the offset from UTC at which it is shown, and its RFC 3339 text.
-/
namespace TypeForm

/-- An instant in seconds since the start of 1970 UTC, shown `offset` seconds east of UTC. A leap
second is the second before it with nanoseconds from `10 ^ 9` on. -/
structure Moment where
  seconds : Int
  nanos : Nat
  offset : Int
deriving DecidableEq, Repr

/-- A number with zeros before it up to a width. -/
def padded (width n : Nat) : String :=
  let digits := (toString n).toList
  String.ofList (List.replicate (width - digits.length) '0' ++ digits)

namespace Moment

/-- Years of four digits stand alone; others have a sign and at least four digits. -/
def yearText (year : Int) : String :=
  if 0 ≤ year ∧ year ≤ 9999 then padded 4 year.toNat
  else (if year < 0 then "-" else "+") ++ padded 4 year.natAbs

/-- The fraction of a second in the fewest of 0, 3, 6 or 9 digits that is exact. -/
def fractionText (nanos : Nat) : String :=
  if nanos = 0 then ""
  else if nanos % 1000000 = 0 then "." ++ padded 3 (nanos / 1000000)
  else if nanos % 1000 = 0 then "." ++ padded 6 (nanos / 1000)
  else "." ++ padded 9 nanos

/-- Hours and minutes east or west, the minute rounded with a half going away from UTC. -/
def offsetText (offset : Int) : String :=
  let minutes := (offset.natAbs + 30) / 60
  (if offset < 0 then "-" else "+") ++ padded 2 (minutes / 60) ++ ":" ++ padded 2 (minutes % 60)

/-- The moment as RFC 3339 writes it. -/
def text (moment : Moment) : String :=
  let localSeconds := moment.seconds + moment.offset
  let date := Date.ofDays (localSeconds / 86400)
  let ofDay := (localSeconds % 86400).toNat
  let second := ofDay % 60 + moment.nanos / 1000000000
  yearText date.year ++ "-" ++ padded 2 date.month ++ "-" ++ padded 2 date.day ++ "T"
    ++ padded 2 (ofDay / 3600) ++ ":" ++ padded 2 (ofDay / 60 % 60) ++ ":" ++ padded 2 second
    ++ fractionText (moment.nanos % 1000000000) ++ offsetText moment.offset

end Moment
end TypeForm
