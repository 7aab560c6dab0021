import TypeForm.Proofs.Time.Calendar
import TypeForm.Proofs.Time.Grammar

/-!
# Offsets of date-times

An instant may be shown at any offset from UTC. The clock is moved by the difference between the
offsets, and the date with it, possibly into another month or year.

## Main result

`isDateTime_moved`: a text and the texts that show the same instant at another offset are
date-times together or not at all.

## Proof strategy

The fields of an instant at an offset are determined by its minutes since 1970 in UTC, by
`Date.ofDays_eq_iff` for the date. Of a stamp with a date, a time and a zone only a leap second may
be refused, which depends on these minutes alone (`Stamp.IsShown.exists_iff`).
-/
namespace TypeForm

namespace Stamp

/-- The date exists, and the time and the zone are those of a clock. Leap seconds may be anywhere. -/
structure IsShown (stamp : Stamp) : Prop where
  date : IsDate stamp.year stamp.month stamp.day
  time : stamp.hour ≤ 23 ∧ stamp.minute ≤ 59 ∧ stamp.second ≤ 60
  zone : IsZone stamp.zone

/-- Whole minutes from the start of 1970 in UTC. -/
def minutes (stamp : Stamp) : ℤ :=
  Date.number ⟨stamp.year, stamp.month, stamp.day⟩ * 1440 + (stamp.hour * 60 + stamp.minute) -
    stamp.zone.minutesEast

/-- Stamps of the same minute and second in UTC. -/
def SameInstant (stamp other : Stamp) : Prop :=
  stamp.minutes = other.minutes ∧ stamp.second = other.second

def dateIn (stamp : Stamp) (zone : Zone) : Date :=
  Date.ofDays ((stamp.minutes + zone.minutesEast) / 1440)

/-- The stamp of the same instant in another zone. -/
def moved (stamp : Stamp) (zone : Zone) : Stamp where
  year := (stamp.dateIn zone).year.toNat
  month := (stamp.dateIn zone).month
  day := (stamp.dateIn zone).day
  hour := ((stamp.minutes + zone.minutesEast) % 1440 / 60).toNat
  minute := ((stamp.minutes + zone.minutesEast) % 60).toNat
  second := stamp.second
  zone := zone

/-- Of what is shown only a leap second may be refused, unless it ends a day in UTC. -/
theorem IsShown.exists_iff {stamp : Stamp} (shown : stamp.IsShown) :
    stamp.Exists ↔ (stamp.second = 60 → stamp.minutes % 1440 = 1439) := by
  unfold minutes
  -- Whole days play no part, so that the date may be left out.
  constructor
  · intro real sixty
    obtain ⟨days, last⟩ := real.leap sixty
    omega
  · intro last
    refine ⟨shown.date, shown.time, shown.zone, fun sixty => ?_⟩
    have ends := last sixty
    exact ⟨(stamp.hour * 60 + stamp.minute - stamp.zone.minutesEast) / 1440, by omega⟩

variable {stamp : Stamp} {zone : Zone}

theorem dateIn_exists : (stamp.dateIn zone).exists = true :=
  (Date.ofDays_eq_iff.mp rfl).1

theorem number_dateIn :
    (stamp.dateIn zone).number = (stamp.minutes + zone.minutesEast) / 1440 :=
  (Date.ofDays_eq_iff.mp rfl).2

/-- What is shown is determined by the zone and the instant. -/
theorem IsShown.eq_moved {other : Stamp} (shown : other.IsShown) (same : other.SameInstant stamp) :
    other = stamp.moved other.zone := by
  obtain ⟨minutes_eq, second_eq⟩ := same
  have time := shown.time
  -- The clock at the offset shows what is left of the minutes when the days of the date are gone.
  have local_eq : stamp.minutes + other.zone.minutesEast =
      Date.number ⟨other.year, other.month, other.day⟩ * 1440 +
        (other.hour * 60 + other.minute) := by
    rw [← minutes_eq, minutes]
    omega
  have date : stamp.dateIn other.zone = ⟨other.year, other.month, other.day⟩ := by
    refine Date.ofDays_eq_iff.mpr ⟨(date_exists_iff ..).mpr shown.date, ?_⟩
    rw [local_eq]
    omega
  have hour : (stamp.minutes + other.zone.minutesEast) % 1440 / 60 = other.hour := by omega
  have minute : (stamp.minutes + other.zone.minutesEast) % 60 = other.minute := by omega
  simp only [moved, date, hour, minute, ← second_eq, Int.toNat_natCast]

theorem IsShown.moved (shown : stamp.IsShown) (allowed : IsZone zone)
    (years : 0 ≤ (stamp.dateIn zone).year) : (stamp.moved zone).IsShown := by
  have year : ((stamp.dateIn zone).year.toNat : ℤ) = (stamp.dateIn zone).year :=
    Int.toNat_of_nonneg years
  refine ⟨(date_exists_iff ..).mp ?_, ⟨?_, ?_, shown.time.2.2⟩, allowed⟩
  · simp only [Stamp.moved, year]
    exact dateIn_exists
  · simp only [Stamp.moved]
    omega
  · simp only [Stamp.moved]
    omega

theorem moved_sameInstant (years : 0 ≤ (stamp.dateIn zone).year) :
    (stamp.moved zone).SameInstant stamp := by
  have year : ((stamp.dateIn zone).year.toNat : ℤ) = (stamp.dateIn zone).year :=
    Int.toNat_of_nonneg years
  refine ⟨?_, rfl⟩
  have number : Date.number ⟨(stamp.moved zone).year, (stamp.moved zone).month,
      (stamp.moved zone).day⟩ = (stamp.minutes + zone.minutesEast) / 1440 := by
    simp only [moved, year]
    exact number_dateIn
  rw [minutes, number]
  simp only [moved]
  omega

end Stamp

/-! ### Texts -/

theorem isDateTime_of_stampText {s : String} {stamp : Stamp} (spelled : StampText s.toList stamp) :
    isDateTime s = stamp.isValid := by
  rw [isDateTime, Stamp.read?_eq_some_iff.mpr spelled]

theorem exists_zoneText {zone : Zone} (allowed : IsZone zone) : ∃ text, ZoneText text zone := by
  cases allowed with
  | utc => exact ⟨_, .utc (.inr rfl)⟩
  | @offset west hour minute fits =>
    have small : hour < 100 ∧ minute < 100 := by omega
    have spelled := OffsetText.colon small
    cases west with
    | false => exact ⟨_, .offset .east spelled⟩
    | true => exact ⟨_, .offset .west spelled⟩

theorem IsDate.lt_hundred {year month day : ℕ} (date : IsDate year month day) :
    month < 100 ∧ day < 100 := by
  cases date with
  | long known fits | short known fits =>
    simp only [List.mem_cons, List.not_mem_nil, or_false] at known
    omega
  | february fits => omega
  | leapDay => omega

theorem Stamp.IsShown.exists_text {stamp : Stamp} (shown : stamp.IsShown)
    (four : stamp.year < 10000) : ∃ s : String, StampText s.toList stamp := by
  obtain ⟨offset, zoned⟩ := exists_zoneText shown.zone
  have date := shown.date.lt_hundred
  have time : stamp.hour < 100 ∧ stamp.minute < 100 ∧ stamp.second < 100 := by
    have clock := shown.time
    omega
  have spelled := StampText.mk (.inr (.inl rfl)) ⟨four, date.1, date.2, time⟩ .none zoned
  exact ⟨String.ofList _, by rw [String.toList_ofList]; exact spelled⟩

/-- A date and time that is written at another offset, with the date moved to another day, month or
year as needed, is a date-time if and only if it was one before. In years of four digits there is
exactly one way to write it so, but for the separator, the fraction and the form of the offset,
which all play no part. -/
theorem isDateTime_moved {s : String} {stamp : Stamp} (spelled : StampText s.toList stamp)
    (shown : stamp.IsShown) {zone : Zone} (allowed : IsZone zone)
    (years : 0 ≤ (stamp.dateIn zone).year ∧ (stamp.dateIn zone).year ≤ 9999) :
    ∃ moved : Stamp,
      (∀ other : Stamp, other.IsShown ∧ other.zone = zone ∧ other.SameInstant stamp ↔
        other = moved) ∧
      (∃ t : String, StampText t.toList moved) ∧
      ∀ t : String, StampText t.toList moved → isDateTime t = isDateTime s := by
  have movedShown := shown.moved allowed years.1
  have same := @Stamp.moved_sameInstant stamp zone years.1
  refine ⟨stamp.moved zone, fun other => ?_, movedShown.exists_text ?_, fun t written => ?_⟩
  · constructor
    · rintro ⟨otherShown, rfl, instant⟩
      exact otherShown.eq_moved instant
    · rintro rfl
      exact ⟨movedShown, rfl, same⟩
  · simp only [Stamp.moved]
    omega
  · -- Both exist or not by their minutes and seconds in UTC, which are the same.
    rw [isDateTime_of_stampText spelled, isDateTime_of_stampText written, Bool.eq_iff_iff,
      Stamp.isValid_iff, Stamp.isValid_iff, shown.exists_iff, movedShown.exists_iff, same.1, same.2]

/-- In the east, the leap second at the end of 2016 is shown in the next year. -/
theorem isDateTime_moved_newYear :
    StampText "2016-12-31T18:59:60.5-05:00".toList ⟨2016, 12, 31, 18, 59, 60, .offset true 5 0⟩ ∧
      Stamp.IsShown ⟨2016, 12, 31, 18, 59, 60, .offset true 5 0⟩ ∧
      IsZone (.offset false 5 30) ∧
      (0 ≤ (Stamp.dateIn ⟨2016, 12, 31, 18, 59, 60, .offset true 5 0⟩ (.offset false 5 30)).year ∧
        (Stamp.dateIn ⟨2016, 12, 31, 18, 59, 60, .offset true 5 0⟩ (.offset false 5 30)).year ≤
          9999) ∧
      isDateTime "2017-01-01t05:29:60+0530" = isDateTime "2016-12-31T18:59:60.5-05:00" := by
  have spelled : StampText "2016-12-31T18:59:60.5-05:00".toList
      ⟨2016, 12, 31, 18, 59, 60, .offset true 5 0⟩ :=
    Stamp.read?_eq_some_iff.mp (by decide)
  have shown : Stamp.IsShown ⟨2016, 12, 31, 18, 59, 60, .offset true 5 0⟩ :=
    ⟨.long (by decide) (by decide), by decide, .offset (by decide)⟩
  have allowed : IsZone (.offset false 5 30) := .offset (by decide)
  have years : 0 ≤ (Stamp.dateIn ⟨2016, 12, 31, 18, 59, 60, .offset true 5 0⟩
      (.offset false 5 30)).year ∧ (Stamp.dateIn ⟨2016, 12, 31, 18, 59, 60, .offset true 5 0⟩
      (.offset false 5 30)).year ≤ 9999 := by
    decide
  obtain ⟨moved, only, -, same⟩ := isDateTime_moved spelled shown allowed years
  have next : ⟨2017, 1, 1, 5, 29, 60, .offset false 5 30⟩ = moved :=
    (only _).mp ⟨⟨.long (by decide) (by decide), by decide, .offset (by decide)⟩, rfl, by decide, rfl⟩
  have written : StampText "2017-01-01t05:29:60+0530".toList moved :=
    next ▸ Stamp.read?_eq_some_iff.mp (by decide)
  exact ⟨spelled, shown, allowed, years, same _ written⟩

end TypeForm
