import TypeForm.Time.Calendar

/-!
# Date-time texts

A stamp is the content of a text such as `2024-02-29 23:59:60.5+05:30`: `Stamp.read?` recognises
the form of the text, `Stamp.isValid` the calendar and the clock.
-/
namespace TypeForm

/-- What follows the time of day: a letter for UTC, or hours and minutes east or west of it. -/
inductive Zone where
  | utc
  | offset (west : Bool) (hour minute : Nat)
deriving DecidableEq, Repr

/-- The fields of a date-time text. A fraction of a second plays no part. -/
structure Stamp where
  year : Nat
  month : Nat
  day : Nat
  hour : Nat
  minute : Nat
  second : Nat
  zone : Zone
deriving DecidableEq, Repr

namespace Stamp

/-- The value of two ASCII digits at the start. -/
def pair? : List Char → Option (Nat × List Char)
  | a :: b :: rest =>
    if a.isDigit && b.isDigit then
      some ((a.toNat - '0'.toNat) * 10 + (b.toNat - '0'.toNat), rest)
    else none
  | _ => none

/-- The text after the given character. -/
def after? (c : Char) : List Char → Option (List Char)
  | d :: rest => if d = c then some rest else none
  | [] => none

/-- The text after the separator of date and time. -/
def afterSeparator? : List Char → Option (List Char)
  | 'T' :: rest | 't' :: rest | ' ' :: rest => some rest
  | _ => none

/-- The text after an optional fraction, which has at least one digit. -/
def afterFraction? : List Char → Option (List Char)
  | '.' :: c :: rest => if c.isDigit then some (rest.dropWhile Char.isDigit) else none
  | '.' :: [] => none
  | rest => some rest

/-- The offset after its sign: hours, then minutes if there are any, a colon between being
optional. -/
def offset? (west : Bool) (s : List Char) : Option Zone := do
  let (hour, rest) ← pair? s
  match rest with
  | [] => some (.offset west hour 0)
  | ':' :: rest =>
    let (minute, rest) ← pair? rest
    if rest.isEmpty then some (.offset west hour minute) else none
  | rest =>
    let (minute, rest) ← pair? rest
    if rest.isEmpty then some (.offset west hour minute) else none

/-- The zone that is the whole of a text. -/
def zone? : List Char → Option Zone
  | ['Z'] | ['z'] => some .utc
  | '+' :: rest => offset? false rest
  | '-' :: rest => offset? true rest
  | _ => none

/-- The fields of a text that has the form of a date-time. -/
def read? (s : List Char) : Option Stamp := do
  let (century, s) ← pair? s
  let (year, s) ← pair? s
  let s ← after? '-' s
  let (month, s) ← pair? s
  let s ← after? '-' s
  let (day, s) ← pair? s
  let s ← afterSeparator? s
  let (hour, s) ← pair? s
  let s ← after? ':' s
  let (minute, s) ← pair? s
  let s ← after? ':' s
  let (second, s) ← pair? s
  let s ← afterFraction? s
  let zone ← zone? s
  some ⟨century * 100 + year, month, day, hour, minute, second, zone⟩

end Stamp

/-- Minutes east of UTC. -/
def Zone.minutesEast : Zone → Int
  | .utc => 0
  | .offset west hour minute =>
    if west then -(hour * 60 + minute : Int) else hour * 60 + minute

/-- Offsets stay below a day. -/
def Zone.isValid : Zone → Bool
  | .utc => true
  | .offset _ hour minute => decide (hour ≤ 23 ∧ minute ≤ 59)

namespace Stamp

/-- The minute of the day in UTC. -/
def utcMinute (stamp : Stamp) : Int :=
  (stamp.hour * 60 + stamp.minute - stamp.zone.minutesEast) % 1440

/-- Whether the date exists, the clock shows the time, and a leap second falls on the last minute
of a day in UTC. -/
def isValid (stamp : Stamp) : Bool :=
  Date.exists ⟨stamp.year, stamp.month, stamp.day⟩
    && decide (stamp.hour ≤ 23 ∧ stamp.minute ≤ 59 ∧ stamp.second ≤ 60)
    && stamp.zone.isValid
    && (decide (stamp.second < 60) || stamp.utcMinute == 23 * 60 + 59)

end Stamp

/-- Whether a text is a date-time. -/
def isDateTime (s : String) : Bool :=
  match Stamp.read? s.toList with
  | some stamp => stamp.isValid
  | none => false

end TypeForm
