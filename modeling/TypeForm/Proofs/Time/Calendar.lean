import Mathlib
import TypeForm.Time.Calendar

/-!
# Days of the calendar

The dates of the calendar numbered by counting the days of years and months, apart from the formula
for the date of a numbered day.

## Main result

`Date.ofDays_eq_iff`: the formula finds the date that exists and has the number, for every number.

## Proof strategy

Every date has a next and a previous one, whose numbers are one higher and one lower
(`Date.exists_number_add_one`, `Date.exists_number_sub_one`), so that no number is left out. The
formula finds the date of a number back (`Date.ofDays_number`). In years that start with March the
leap day is the last of its year, and the longer year the last of four, so that the year of a day is
a quotient (`Date.yearOfDay_eq`), and so is its month (`Date.monthFromMarch_eq`).
-/
namespace TypeForm

/-! ### Counting days -/

/-- Days from the start of the year 0 to the start of a year. -/
def daysBeforeYear (year : ℤ) : ℤ :=
  365 * year + (year + 3) / 4 - (year + 99) / 100 + (year + 399) / 400

/-- Days of a year before a month. -/
def daysBeforeMonth (year : ℤ) : (month : ℕ) → ℕ
  | 0 => 0
  | month + 1 => daysBeforeMonth year month + daysInMonth year month

/-- Days from 1 January 1970 to a date. -/
def Date.number (date : Date) : ℤ :=
  daysBeforeYear date.year - daysBeforeYear 1970 +
    (daysBeforeMonth date.year date.month + date.day - 1)

/-- Days from 1 March of the year 0 to 1 March of a year. -/
def daysBeforeMarch (year : ℤ) : ℤ :=
  365 * year + year / 4 - year / 100 + year / 400

theorem isLeapYear_eq_true_iff (year : ℤ) :
    isLeapYear year = true ↔ year % 4 = 0 ∧ (year % 100 = 0 → year % 400 = 0) := by
  simp only [isLeapYear, Bool.and_eq_true, Bool.or_eq_true, beq_iff_eq, bne_iff_ne]
  tauto

theorem daysBeforeYear_add_two_months (year : ℤ) :
    daysBeforeYear year + daysBeforeMonth year 3 = daysBeforeMarch year + 60 := by
  have leap := isLeapYear_eq_true_iff year
  simp only [daysBeforeYear, daysBeforeMarch, daysBeforeMonth, daysInMonth]
  split
  next known =>
    rw [leap] at known
    omega
  next known =>
    rw [leap] at known
    omega

theorem daysBeforeYear_succ (year : ℤ) :
    daysBeforeYear (year + 1) = daysBeforeMarch year + 60 + 306 := by
  unfold daysBeforeYear daysBeforeMarch
  omega

theorem daysBeforeYear_add_twelve_months (year : ℤ) :
    daysBeforeYear year + daysBeforeMonth year 13 = daysBeforeYear (year + 1) := by
  have rest : daysBeforeMonth year 13 = daysBeforeMonth year 3 + 306 := rfl
  have start := daysBeforeYear_add_two_months year
  rw [daysBeforeYear_succ, rest]
  omega

theorem daysInMonth_pos_iff {year : ℤ} {month : ℕ} :
    1 ≤ daysInMonth year month ↔ 1 ≤ month ∧ month ≤ 12 := by
  constructor
  · intro positive
    by_contra unknown
    rw [daysInMonth] at positive
    · exact absurd positive (by decide)
    all_goals
      rintro rfl
      exact unknown (by decide)
  · rintro ⟨first, last⟩
    rcases eq_or_ne month 2 with rfl | other
    · rw [daysInMonth]
      split <;> decide
    · interval_cases month <;> first | exact absurd rfl other | simp [daysInMonth]

namespace Date

theorem exists_iff {year : ℤ} {month day : ℕ} :
    Date.exists ⟨year, month, day⟩ = true ↔ 1 ≤ day ∧ day ≤ daysInMonth year month :=
  decide_eq_true_iff

theorem bounds {year : ℤ} {month day : ℕ} (real : Date.exists ⟨year, month, day⟩ = true) :
    (1 ≤ day ∧ day ≤ daysInMonth year month) ∧ 1 ≤ month ∧ month ≤ 12 := by
  have days := exists_iff.mp real
  exact ⟨days, daysInMonth_pos_iff.mp (days.1.trans days.2)⟩

/-! ### Neighbouring days -/

theorem exists_number_add_one {date : Date} (real : date.exists = true) :
    ∃ next : Date, next.exists = true ∧ next.number = date.number + 1 := by
  obtain ⟨year, month, day⟩ := date
  obtain ⟨⟨positive, fits⟩, first, last⟩ := bounds real
  -- The next day is in the same month, or the first of the next month or year.
  by_cases within : day < daysInMonth year month
  · refine ⟨⟨year, month, day + 1⟩, exists_iff.mpr ⟨by omega, within⟩, ?_⟩
    simp only [number]
    omega
  · by_cases before : month < 12
    · refine ⟨⟨year, month + 1, 1⟩,
        exists_iff.mpr ⟨le_rfl, daysInMonth_pos_iff.mpr ⟨by omega, before⟩⟩, ?_⟩
      simp only [number, daysBeforeMonth]
      omega
    · obtain rfl : month = 12 := by omega
      refine ⟨⟨year + 1, 1, 1⟩, exists_iff.mpr ⟨le_rfl, by simp [daysInMonth]⟩, ?_⟩
      have whole : daysBeforeMonth year 13 = daysBeforeMonth year 12 + daysInMonth year 12 := rfl
      have none : daysBeforeMonth (year + 1) 1 = 0 := rfl
      simp only [number, ← daysBeforeYear_add_twelve_months, none]
      omega

theorem exists_number_sub_one {date : Date} (real : date.exists = true) :
    ∃ previous : Date, previous.exists = true ∧ previous.number = date.number - 1 := by
  obtain ⟨year, month, day⟩ := date
  obtain ⟨⟨positive, fits⟩, first, last⟩ := bounds real
  by_cases within : 1 < day
  · refine ⟨⟨year, month, day - 1⟩, exists_iff.mpr ⟨by omega, by omega⟩, ?_⟩
    simp only [number]
    omega
  · obtain ⟨before, rfl⟩ : ∃ before, month = before + 1 := ⟨month - 1, by omega⟩
    rcases Nat.eq_zero_or_pos before with rfl | after
    · refine ⟨⟨year - 1, 12, 31⟩, exists_iff.mpr ⟨by decide, le_rfl⟩, ?_⟩
      have whole : daysBeforeMonth (year - 1) 13 = daysBeforeMonth (year - 1) 12 + 31 := rfl
      have none : daysBeforeMonth year 1 = 0 := rfl
      have start := daysBeforeYear_add_twelve_months (year - 1)
      rw [sub_add_cancel] at start
      simp only [number, ← start, none]
      omega
    · have length : 1 ≤ daysInMonth year before := daysInMonth_pos_iff.mpr ⟨after, by omega⟩
      refine ⟨⟨year, before, daysInMonth year before⟩, exists_iff.mpr ⟨length, le_rfl⟩, ?_⟩
      simp only [number, daysBeforeMonth]
      omega

theorem exists_number_eq (n : ℤ) : ∃ date : Date, date.exists = true ∧ date.number = n := by
  induction n using Int.induction_on with
  | zero => exact ⟨⟨1970, 1, 1⟩, by decide, by decide⟩
  | succ n ih =>
    obtain ⟨date, real, number⟩ := ih
    rw [← number]
    exact exists_number_add_one real
  | pred n ih =>
    obtain ⟨date, real, number⟩ := ih
    rw [← number]
    exact exists_number_sub_one real

/-! ### Years that start with March -/

/-- The year of the last 1 March. -/
def yearFromMarch (date : Date) : ℤ :=
  if date.month ≤ 2 then date.year - 1 else date.year

def monthFromMarch (date : Date) : ℤ :=
  (date.month + 9) % 12

/-- Days since the last 1 March. The months of 31 days are spread over the year as the multiples of
153 / 5 are rounded. -/
def dayFromMarch (date : Date) : ℤ :=
  (153 * date.monthFromMarch + 2) / 5 + (date.day - 1)

theorem number_eq {date : Date} (real : date.exists = true) :
    date.number + 719468 = daysBeforeMarch date.yearFromMarch + date.dayFromMarch := by
  obtain ⟨year, month, day⟩ := date
  obtain ⟨⟨positive, fits⟩, first, last⟩ := bounds real
  have epoch : daysBeforeYear 1970 = 719468 + 60 := rfl
  by_cases early : month ≤ 2
  · have start := daysBeforeYear_succ (year - 1)
    rw [sub_add_cancel] at start
    have months : (daysBeforeMonth year month : ℤ) + 306 = (153 * ((month + 9) % 12) + 2) / 5 := by
      interval_cases month <;> simp [daysBeforeMonth, daysInMonth]
    simp only [number, yearFromMarch, monthFromMarch, dayFromMarch, if_pos early]
    omega
  · have start := daysBeforeYear_add_two_months year
    have months : (daysBeforeMonth year month : ℤ) =
        daysBeforeMonth year 3 + (153 * ((month + 9) % 12) + 2) / 5 := by
      interval_cases month <;> simp only [daysBeforeMonth, daysInMonth] <;> omega
    simp only [number, yearFromMarch, monthFromMarch, dayFromMarch, if_neg early]
    omega

theorem yearOfDay_eq {century four one day : ℤ} (centuries : 0 ≤ century ∧ century ≤ 3)
    (fours : 0 ≤ four ∧ four ≤ 24) (ones : 0 ≤ one ∧ one ≤ 3) (fits : 0 ≤ day)
    (last : day ≤ 364 ∨ day = 365 ∧ one = 3 ∧ (four < 24 ∨ century = 3)) {days : ℤ}
    (counted : days = 36524 * century + 1461 * four + 365 * one + day) :
    (days - days / 1460 + days / 36524 - days / 146096) / 365 =
      100 * century + 4 * four + one := by
  by_cases whole : four = 24 ∧ day = 365
  · -- Only the last day of the cycle belongs to a fifth century of 36524 days.
    obtain ⟨rfl, rfl⟩ := whole
    obtain ⟨rfl, rfl⟩ : century = 3 ∧ one = 3 := by omega
    subst counted
    rfl
  · have short : day ≤ 365 := by omega
    have inCentury : 1461 * four + 365 * one + day < 36524 := by omega
    have century_eq : days / 36524 = century := by omega
    have cycle_eq : days / 146096 = 0 := by omega
    -- The quotient by 1460 runs ahead of the leap days, by one at most before the year is over.
    by_cases early : 24 * century + four + 365 * one + day < 1460
    · have four_eq : days / 1460 = 25 * century + four := by
        clear last whole
        omega
      rw [century_eq, cycle_eq, four_eq]
      omega
    · have four_eq : days / 1460 = 25 * century + four + 1 := by
        clear last whole
        omega
      rw [century_eq, cycle_eq, four_eq]
      omega

/-- The year of a day in a cycle of 400 years, which ends with a leap day as every fourth year does,
but for the full centuries in it. -/
theorem yearOfCycle_eq {year day days : ℤ} (within : 0 ≤ year ∧ year < 400)
    (fits : 0 ≤ day ∧ (day ≤ 364 ∨ day = 365 ∧ isLeapYear (year + 1) = true))
    (counted : days = 365 * year + year / 4 - year / 100 + day) :
    (days - days / 1460 + days / 36524 - days / 146096) / 365 = year ∧
      0 ≤ days ∧ days < 146097 := by
  obtain ⟨nonneg, fits⟩ := fits
  obtain ⟨century, four, one, rfl, centuries, fours, ones⟩ : ∃ century four one : ℤ,
      year = 100 * century + 4 * four + one ∧ (0 ≤ century ∧ century ≤ 3) ∧
        (0 ≤ four ∧ four ≤ 24) ∧ (0 ≤ one ∧ one ≤ 3) :=
    ⟨year / 100, year % 100 / 4, year % 4, by omega, by omega, by omega, by omega⟩
  have leapDays : (100 * century + 4 * four + one) / 4 = 25 * century + four ∧
      (100 * century + 4 * four + one) / 100 = century := by
    clear fits counted
    omega
  have total : days = 36524 * century + 1461 * four + 365 * one + day := by
    rw [counted, leapDays.1, leapDays.2]
    ring
  have last : day ≤ 364 ∨ day = 365 ∧ one = 3 ∧ (four < 24 ∨ century = 3) := by
    rcases fits with short | ⟨full, leap⟩
    · exact .inl short
    · obtain ⟨fourth, hundredth⟩ := (isLeapYear_eq_true_iff _).mp leap
      clear counted leapDays total
      exact .inr ⟨full, by omega⟩
  refine ⟨yearOfDay_eq centuries fours ones nonneg last total, ?_⟩
  clear fits counted leapDays
  omega

theorem isLeapYear_cycle (cycle year : ℤ) :
    isLeapYear (400 * cycle + year) = isLeapYear year := by
  rw [Bool.eq_iff_iff, isLeapYear_eq_true_iff, isLeapYear_eq_true_iff]
  omega

/-- No month goes on after the start of the next one, as the formula has it. -/
theorem dayFromMarch_lt {date : Date} (real : date.exists = true) :
    date.dayFromMarch < (153 * (date.monthFromMarch + 1) + 2) / 5 := by
  obtain ⟨year, month, day⟩ := date
  obtain ⟨⟨positive, fits⟩, first, last⟩ := bounds real
  simp only [dayFromMarch, monthFromMarch]
  rcases eq_or_ne month 2 with rfl | other
  · rw [daysInMonth] at fits
    split at fits <;> omega
  · interval_cases month <;> simp only [daysInMonth] at fits <;> omega

/-- The year from March has 365 days, and the leap day after them if it is the last of four. -/
theorem dayFromMarch_bounds {date : Date} (real : date.exists = true) :
    0 ≤ date.dayFromMarch ∧ (date.dayFromMarch ≤ 364 ∨
      date.dayFromMarch = 365 ∧ isLeapYear (date.yearFromMarch + 1) = true) := by
  have before := dayFromMarch_lt real
  obtain ⟨year, month, day⟩ := date
  obtain ⟨⟨positive, fits⟩, first, last⟩ := bounds real
  simp only [dayFromMarch, monthFromMarch, yearFromMarch] at before ⊢
  refine ⟨by omega, ?_⟩
  rcases eq_or_ne month 2 with rfl | other
  · -- The last month ends with the leap day in leap years only.
    simp only [daysInMonth] at fits
    split at fits
    next leap =>
      rcases Nat.lt_or_ge 28 day with leapDay | earlier
      · exact .inr ⟨by omega, by simpa using leap⟩
      · exact .inl (by omega)
    next => exact .inl (by omega)
  · exact .inl (by omega)

theorem monthFromMarch_eq {date : Date} (real : date.exists = true) :
    (5 * date.dayFromMarch + 2) / 153 = date.monthFromMarch := by
  have before := dayFromMarch_lt real
  obtain ⟨⟨positive, -⟩, -⟩ := bounds real
  unfold dayFromMarch at before ⊢
  omega

theorem month_of_monthFromMarch {date : Date} (real : date.exists = true) :
    (if date.monthFromMarch < 10 then date.monthFromMarch + 3 else date.monthFromMarch - 9) =
      (date.month : ℤ) := by
  obtain ⟨⟨positive, fits⟩, first, last⟩ := bounds real
  unfold monthFromMarch
  by_cases early : ((date.month : ℤ) + 9) % 12 < 10
  · rw [if_pos early]
    omega
  · rw [if_neg early]
    omega

theorem ofDays_number {date : Date} (real : date.exists = true) : ofDays date.number = date := by
  have counted := number_eq real
  have fits := dayFromMarch_bounds real
  -- The number is taken apart into whole cycles, the year in its cycle and the day in its year.
  obtain ⟨cycle, year, whole, within⟩ : ∃ cycle year : ℤ,
      date.yearFromMarch = 400 * cycle + year ∧ 0 ≤ year ∧ year < 400 :=
    ⟨date.yearFromMarch / 400, date.yearFromMarch % 400, by omega, by omega, by omega⟩
  rw [whole, add_assoc, isLeapYear_cycle] at fits
  obtain ⟨days, counts⟩ : ∃ days, days = 365 * year + year / 4 - year / 100 + date.dayFromMarch :=
    ⟨_, rfl⟩
  obtain ⟨yearOfCycle, inCycle⟩ := yearOfCycle_eq within fits counts
  have shifted : date.number + 719468 = 146097 * cycle + days := by
    rw [counted, daysBeforeMarch, whole, counts]
    clear counted fits yearOfCycle counts
    omega
  have quotient : (146097 * cycle + days) / 146097 = cycle := by omega
  have rest : (146097 * cycle + days) % 146097 = days := by omega
  have dayOfYear : days - (365 * year + year / 4 - year / 100) = date.dayFromMarch := by
    rw [counts]
    ring
  have day : date.dayFromMarch - (153 * date.monthFromMarch + 2) / 5 + 1 = date.day := by
    rw [dayFromMarch]
    ring
  have year_eq : cycle * 400 + year + (if (date.month : ℤ) ≤ 2 then 1 else 0) = date.year := by
    rw [yearFromMarch] at whole
    split at whole <;> split <;> omega
  unfold ofDays
  simp only [shifted, quotient, rest, yearOfCycle, dayOfYear, monthFromMarch_eq real,
    month_of_monthFromMarch real, day, year_eq, Int.toNat_natCast]

theorem ofDays_eq_iff {n : ℤ} {date : Date} :
    ofDays n = date ↔ date.exists = true ∧ date.number = n := by
  constructor
  · rintro rfl
    obtain ⟨date, real, rfl⟩ := exists_number_eq n
    rw [ofDays_number real]
    exact ⟨real, rfl⟩
  · rintro ⟨real, rfl⟩
    exact ofDays_number real

end Date
end TypeForm
