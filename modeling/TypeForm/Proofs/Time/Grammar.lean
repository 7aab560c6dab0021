import TypeForm.Time.Stamp

/-!
# Which texts are date-times

The texts that spell a stamp, said by what they consist of instead of by reading them, and the
stamps that exist on the calendar and the clock.

## Main result

`isDateTime_iff`: the predicate on texts holds exactly for the whole texts that spell an existing
stamp. Reading is inverted part by part, each by an iff with the text that it consumes; only the
fraction is read greedily, which is right since no zone starts with a digit.
-/
namespace TypeForm

/-! ### Spelling -/

/-- The ASCII digit for a number below ten. -/
def digit (n : Nat) : Char :=
  Char.ofNat ('0'.toNat + n)

/-- The last digits of a number, as many as the width. -/
def digits : (width : Nat) → Nat → List Char
  | 0, _ => []
  | width + 1, n => digits width (n / 10) ++ [digit (n % 10)]

/-- An optional fraction of a second: a point and at least one ASCII digit. -/
inductive FractionText : List Char → Prop
  | none : FractionText []
  | some {first : Char} {others : List Char} (numeral : ∀ c ∈ first :: others, c.isDigit = true) :
      FractionText ('.' :: first :: others)

/-- The signs of offsets, and whether they point west. -/
inductive SignText : Char → Bool → Prop
  | east : SignText '+' false
  | west : SignText '-' true

/-- The spellings of an offset without its sign: `hh`, `hhmm` or `hh:mm`. -/
inductive OffsetText : List Char → (hour minute : Nat) → Prop
  | hours {hour : Nat} (small : hour < 100) : OffsetText (digits 2 hour) hour 0
  | minutes {hour minute : Nat} (small : hour < 100 ∧ minute < 100) :
      OffsetText (digits 2 hour ++ digits 2 minute) hour minute
  | colon {hour minute : Nat} (small : hour < 100 ∧ minute < 100) :
      OffsetText (digits 2 hour ++ ':' :: digits 2 minute) hour minute

/-- The spellings of a zone: a letter, or a sign before an offset. -/
inductive ZoneText : List Char → Zone → Prop
  | utc {letter : Char} (known : letter = 'z' ∨ letter = 'Z') : ZoneText [letter] .utc
  | offset {sign : Char} {west : Bool} {text : List Char} {hour minute : Nat}
      (signed : SignText sign west) (spelled : OffsetText text hour minute) :
      ZoneText (sign :: text) (.offset west hour minute)

/-- The text is `YYYY-MM-DD`, a separator, `hh:mm:ss`, an optional fraction and a zone. -/
inductive StampText : List Char → Stamp → Prop
  | mk {year month day hour minute second : Nat} {zone : Zone} {separator : Char}
      {fraction offset : List Char} (separates : separator = 't' ∨ separator = 'T' ∨ separator = ' ')
      (small : year < 10000 ∧ month < 100 ∧ day < 100 ∧ hour < 100 ∧ minute < 100 ∧ second < 100)
      (fractional : FractionText fraction) (zoned : ZoneText offset zone) :
      StampText
        (digits 4 year ++ '-' :: digits 2 month ++ '-' :: digits 2 day ++ separator ::
          digits 2 hour ++ ':' :: digits 2 minute ++ ':' :: digits 2 second ++ fraction ++ offset)
        ⟨year, month, day, hour, minute, second, zone⟩

/-! ### Existence -/

/-- A leap year is divisible by four, and a full century by four hundred. -/
def IsLeapYear (year : Nat) : Prop :=
  4 ∣ year ∧ (100 ∣ year → 400 ∣ year)

/-- The dates of the Gregorian calendar. -/
inductive IsDate (year : Nat) : (month day : Nat) → Prop
  | long {month day : Nat} (known : month ∈ [1, 3, 5, 7, 8, 10, 12]) (fits : 1 ≤ day ∧ day ≤ 31) :
      IsDate year month day
  | short {month day : Nat} (known : month ∈ [4, 6, 9, 11]) (fits : 1 ≤ day ∧ day ≤ 30) :
      IsDate year month day
  | february {day : Nat} (fits : 1 ≤ day ∧ day ≤ 28) : IsDate year 2 day
  | leapDay (leap : IsLeapYear year) : IsDate year 2 29

/-- An offset from UTC is below a day. -/
inductive IsZone : Zone → Prop
  | utc : IsZone .utc
  | offset {west : Bool} {hour minute : Nat} (fits : hour ≤ 23 ∧ minute ≤ 59) :
      IsZone (.offset west hour minute)

/-- A stamp exists on the calendar and the clock. A leap second falls in the minute 23:59 of some
day in UTC. -/
structure Stamp.Exists (stamp : Stamp) : Prop where
  date : IsDate stamp.year stamp.month stamp.day
  time : stamp.hour ≤ 23 ∧ stamp.minute ≤ 59 ∧ stamp.second ≤ 60
  zone : IsZone stamp.zone
  leap : stamp.second = 60 → ∃ days : Int,
    stamp.hour * 60 + stamp.minute - stamp.zone.minutesEast = 23 * 60 + 59 + days * (24 * 60)

theorem isLeapYear_iff (year : Nat) : isLeapYear year = true ↔ IsLeapYear year := by
  simp only [isLeapYear, IsLeapYear, Bool.and_eq_true, Bool.or_eq_true, beq_iff_eq, bne_iff_ne]
  omega

theorem date_exists_iff (year month day : Nat) :
    Date.exists ⟨year, month, day⟩ = true ↔ IsDate year month day := by
  rw [Date.exists, decide_eq_true_iff]
  dsimp only
  constructor
  · rintro ⟨positive, fits⟩
    unfold daysInMonth at fits
    split at fits
    -- The cases come in the order of the months' lengths, with an unknown month last.
    iterate 7 exact .long (by simp) ⟨positive, fits⟩
    iterate 4 exact .short (by simp) ⟨positive, fits⟩
    · -- February ends with the leap day in leap years only.
      by_cases leap : isLeapYear year = true
      · rw [if_pos leap] at fits
        rcases Nat.lt_or_ge 28 day with last | early
        · obtain rfl : day = 29 := by omega
          exact .leapDay ((isLeapYear_iff year).mp leap)
        · exact .february ⟨positive, early⟩
      · rw [if_neg leap] at fits
        exact .february ⟨positive, fits⟩
    · exact absurd positive (by omega)
  · intro date
    cases date with
    | long known fits =>
      have length : daysInMonth year month = 31 := by
        simp only [List.mem_cons, List.not_mem_nil, or_false] at known
        rcases known with rfl | rfl | rfl | rfl | rfl | rfl | rfl <;> rfl
      exact ⟨fits.1, length ▸ fits.2⟩
    | short known fits =>
      have length : daysInMonth year month = 30 := by
        simp only [List.mem_cons, List.not_mem_nil, or_false] at known
        rcases known with rfl | rfl | rfl | rfl <;> rfl
      exact ⟨fits.1, length ▸ fits.2⟩
    | february fits =>
      have length : 28 ≤ daysInMonth year 2 := by
        simp only [daysInMonth]
        split <;> decide
      exact ⟨fits.1, Nat.le_trans fits.2 length⟩
    | leapDay leap =>
      have length : daysInMonth year 2 = 29 := if_pos ((isLeapYear_iff year).mpr leap)
      exact ⟨by decide, Nat.le_of_eq length.symm⟩

theorem Zone.isValid_iff (zone : Zone) : zone.isValid = true ↔ IsZone zone := by
  constructor
  · intro valid
    cases zone with
    | utc => exact .utc
    | offset west hour minute => exact .offset (of_decide_eq_true valid)
  · rintro (_ | fits)
    · rfl
    · exact decide_eq_true fits

theorem Stamp.isValid_iff (stamp : Stamp) : stamp.isValid = true ↔ stamp.Exists := by
  -- The minute of the day in UTC is what is left when whole days are taken away.
  have days : stamp.utcMinute = 23 * 60 + 59 ↔ ∃ days : Int,
      stamp.hour * 60 + stamp.minute - stamp.zone.minutesEast = 23 * 60 + 59 + days * (24 * 60) := by
    unfold utcMinute
    constructor
    · intro last
      exact ⟨(stamp.hour * 60 + stamp.minute - stamp.zone.minutesEast) / 1440, by omega⟩
    · rintro ⟨days, shifted⟩
      omega
  simp only [isValid, Bool.and_eq_true, Bool.or_eq_true, decide_eq_true_iff, beq_iff_eq,
    date_exists_iff, Zone.isValid_iff, days]
  constructor
  · rintro ⟨⟨⟨date, time⟩, zone⟩, leap⟩
    exact ⟨date, time, zone, fun sixty => leap.resolve_left (by omega)⟩
  · rintro ⟨date, time, zone, leap⟩
    refine ⟨⟨⟨date, time⟩, zone⟩, ?_⟩
    by_cases sixty : stamp.second = 60
    · exact .inr (leap sixty)
    · exact .inl (by omega)

/-! ### Reading -/

theorem digit_isDigit {n : Nat} (small : n < 10) : (digit n).isDigit = true := by
  have every : ∀ n : Fin 10, (digit n).isDigit = true := by decide
  exact every ⟨n, small⟩

theorem digit_value {n : Nat} (small : n < 10) : (digit n).toNat - '0'.toNat = n := by
  have every : ∀ n : Fin 10, (digit n).toNat - '0'.toNat = n := by decide
  exact every ⟨n, small⟩

theorem exists_digit {c : Char} (numeral : c.isDigit = true) : ∃ n < 10, c = digit n := by
  have bounds : '0'.toNat ≤ c.toNat ∧ c.toNat ≤ '9'.toNat := by
    simpa [Char.isDigit, UInt32.le_iff_toNat_le] using numeral
  refine ⟨c.toNat - '0'.toNat, ?_, ?_⟩
  · have nine : '9'.toNat = '0'.toNat + 9 := rfl
    omega
  · rw [digit, Nat.add_sub_cancel' bounds.1, Char.ofNat_toNat]

theorem digits_two (n : Nat) : digits 2 n = [digit (n / 10 % 10), digit (n % 10)] := by
  simp [digits]

theorem digits_four {a b : Nat} (small : a < 100 ∧ b < 100) :
    digits 4 (a * 100 + b) = digits 2 a ++ digits 2 b := by
  have first : (a * 100 + b) / 10 / 10 / 10 % 10 = a / 10 % 10 := by omega
  have second : (a * 100 + b) / 10 / 10 % 10 = a % 10 := by omega
  have third : (a * 100 + b) / 10 % 10 = b / 10 % 10 := by omega
  have fourth : (a * 100 + b) % 10 = b % 10 := by omega
  simp [digits, first, second, third, fourth]

namespace Stamp

theorem pair?_eq_some_iff {text rest : List Char} {n : Nat} :
    pair? text = some (n, rest) ↔ n < 100 ∧ text = digits 2 n ++ rest := by
  constructor
  · intro read
    unfold pair? at read
    split at read
    · next a b others =>
      split at read
      · next numerals =>
        obtain ⟨x, smallX, rfl⟩ := exists_digit (Bool.and_eq_true_iff.mp numerals).1
        obtain ⟨y, smallY, rfl⟩ := exists_digit (Bool.and_eq_true_iff.mp numerals).2
        rw [digit_value smallX, digit_value smallY] at read
        cases read
        have tens : (x * 10 + y) / 10 % 10 = x := by omega
        have ones : (x * 10 + y) % 10 = y := by omega
        exact ⟨by omega, by rw [digits_two, tens, ones]; rfl⟩
      · cases read
    · cases read
  · rintro ⟨small, rfl⟩
    have tens : n / 10 % 10 < 10 := Nat.mod_lt _ (by decide)
    have ones : n % 10 < 10 := Nat.mod_lt _ (by decide)
    have value : n / 10 % 10 * 10 + n % 10 = n := by omega
    rw [digits_two]
    simp only [List.cons_append, List.nil_append, pair?, digit_isDigit tens, digit_isDigit ones,
      digit_value tens, digit_value ones, value, Bool.and_self, if_true]

theorem after?_eq_some_iff {c : Char} {text rest : List Char} :
    after? c text = some rest ↔ text = c :: rest := by
  cases text with
  | nil => simp [after?]
  | cons d others =>
    simp only [after?, List.cons.injEq]
    split <;> simp_all

theorem afterSeparator?_eq_some_iff {text rest : List Char} :
    afterSeparator? text = some rest ↔
      ∃ separator, (separator = 't' ∨ separator = 'T' ∨ separator = ' ') ∧
        text = separator :: rest := by
  constructor
  · intro read
    unfold afterSeparator? at read
    split at read <;> cases read
    · exact ⟨'T', by simp, rfl⟩
    · exact ⟨'t', by simp, rfl⟩
    · exact ⟨' ', by simp, rfl⟩
  · rintro ⟨separator, rfl | rfl | rfl, rfl⟩ <;> rfl

/-- What follows a fraction is no part of it, unless it starts like a fraction or with a digit. -/
theorem afterFraction?_append {fraction : List Char} (fractional : FractionText fraction)
    {c : Char} {rest : List Char} (bare : c ≠ '.' ∧ c.isDigit = false) :
    afterFraction? (fraction ++ c :: rest) = some (c :: rest) := by
  cases fractional with
  | none => simp [afterFraction?, bare.1]
  | some numeral =>
    have first := numeral _ List.mem_cons_self
    have others := fun d member => numeral d (List.mem_cons_of_mem _ member)
    simp [afterFraction?, first, List.dropWhile_append_of_pos others, bare.2]

theorem fraction_of_afterFraction? {text rest : List Char}
    (read : afterFraction? text = some rest) :
    ∃ fraction, FractionText fraction ∧ text = fraction ++ rest := by
  unfold afterFraction? at read
  split at read
  · next c others =>
    split at read
    · next numeral =>
      cases read
      refine ⟨'.' :: c :: others.takeWhile Char.isDigit, .some ?_, by simp⟩
      intro d member
      rcases List.mem_cons.mp member with rfl | member
      · exact numeral
      · exact List.all_eq_true.mp List.all_takeWhile d member
    · cases read
  · cases read
  · cases read
    exact ⟨[], .none, rfl⟩

theorem pair?_digits {n : Nat} (small : n < 100) (rest : List Char) :
    pair? (digits 2 n ++ rest) = some (n, rest) :=
  pair?_eq_some_iff.mpr ⟨small, rfl⟩

theorem pair?_digits_nil {n : Nat} (small : n < 100) : pair? (digits 2 n) = some (n, []) :=
  pair?_eq_some_iff.mpr ⟨small, (List.append_nil _).symm⟩

/-- The minutes of an offset are the last that there is. -/
private theorem minutes_of_read {west : Bool} {hour : Nat} {text : List Char} {zone : Zone}
    (read : ((pair? text).bind fun minute =>
      if minute.2.isEmpty = true then some (Zone.offset west hour minute.1) else none) = some zone) :
    ∃ minute < 100, text = digits 2 minute ∧ zone = .offset west hour minute := by
  obtain ⟨⟨minute, rest⟩, found, last⟩ := Option.bind_eq_some_iff.mp read
  obtain ⟨small, rfl⟩ := pair?_eq_some_iff.mp found
  split at last
  · next empty =>
    cases last
    obtain rfl := List.isEmpty_iff.mp empty
    exact ⟨minute, small, List.append_nil _, rfl⟩
  · cases last

theorem offset?_eq_some_iff {west : Bool} {text : List Char} {zone : Zone} :
    offset? west text = some zone ↔
      ∃ hour minute, OffsetText text hour minute ∧ zone = .offset west hour minute := by
  constructor
  · intro read
    simp only [offset?, bind, Option.bind_eq_some_iff, Prod.exists] at read
    obtain ⟨hour, rest, first, second⟩ := read
    obtain ⟨small, rfl⟩ := pair?_eq_some_iff.mp first
    split at second
    · cases second
      rw [List.append_nil]
      exact ⟨hour, 0, .hours small, rfl⟩
    · obtain ⟨minute, below, rfl, rfl⟩ := minutes_of_read second
      exact ⟨hour, minute, .colon ⟨small, below⟩, rfl⟩
    · obtain ⟨minute, below, rfl, rfl⟩ := minutes_of_read second
      exact ⟨hour, minute, .minutes ⟨small, below⟩, rfl⟩
  · rintro ⟨hour, minute, spelled, rfl⟩
    cases spelled with
    | hours small => simp [offset?, pair?_digits_nil small]
    | minutes small =>
      -- No digit is taken for the colon.
      have other : digit (minute / 10 % 10) ≠ ':' := by
        intro same
        have numeral := digit_isDigit (Nat.mod_lt (minute / 10) (by decide : 0 < 10))
        rw [same] at numeral
        cases numeral
      have read := pair?_digits_nil small.2
      rw [offset?, pair?_digits small.1]
      rw [digits_two] at read ⊢
      simp [read, other]
    | colon small => simp [offset?, pair?_digits small.1, pair?_digits_nil small.2]

theorem zone?_eq_some_iff {text : List Char} {zone : Zone} :
    zone? text = some zone ↔ ZoneText text zone := by
  constructor
  · intro read
    unfold zone? at read
    split at read
    · cases read
      exact .utc (.inr rfl)
    · cases read
      exact .utc (.inl rfl)
    · obtain ⟨hour, minute, spelled, rfl⟩ := offset?_eq_some_iff.mp read
      exact .offset .east spelled
    · obtain ⟨hour, minute, spelled, rfl⟩ := offset?_eq_some_iff.mp read
      exact .offset .west spelled
    · cases read
  · intro spelled
    cases spelled with
    | utc known => rcases known with rfl | rfl <;> rfl
    | offset signed spelled =>
      cases signed with
      | east => exact offset?_eq_some_iff.mpr ⟨_, _, spelled, rfl⟩
      | west => exact offset?_eq_some_iff.mpr ⟨_, _, spelled, rfl⟩

/-- A zone neither starts like a fraction nor with a digit. -/
theorem bare_of_zoneText {text : List Char} {zone : Zone} (zoned : ZoneText text zone) :
    ∃ c rest, text = c :: rest ∧ c ≠ '.' ∧ c.isDigit = false := by
  cases zoned with
  | utc known => exact ⟨_, [], rfl, by rcases known with rfl | rfl <;> decide⟩
  | offset signed spelled => exact ⟨_, _, rfl, by cases signed <;> decide⟩

/-- Reading finds exactly the stamp that a text spells. -/
theorem read?_eq_some_iff {text : List Char} {stamp : Stamp} :
    read? text = some stamp ↔ StampText text stamp := by
  constructor
  · intro read
    simp only [read?, bind, Option.bind_eq_some_iff, Prod.exists, pair?_eq_some_iff,
      after?_eq_some_iff, afterSeparator?_eq_some_iff] at read
    obtain ⟨century, _, ⟨smallCentury, rfl⟩, year, _, ⟨smallYear, rfl⟩, _, rfl,
      month, _, ⟨smallMonth, rfl⟩, _, rfl, day, _, ⟨smallDay, rfl⟩, _,
      ⟨separator, separates, rfl⟩, hour, _, ⟨smallHour, rfl⟩, _, rfl,
      minute, _, ⟨smallMinute, rfl⟩, _, rfl, second, _, ⟨smallSecond, rfl⟩, offset, dropped,
      zone, zoned, same⟩ := read
    obtain ⟨fraction, fractional, rfl⟩ := fraction_of_afterFraction? dropped
    cases same
    have smallYears : century * 100 + year < 10000 := by omega
    have spelled := StampText.mk separates
      ⟨smallYears, smallMonth, smallDay, smallHour, smallMinute, smallSecond⟩ fractional
      (zone?_eq_some_iff.mp zoned)
    rw [digits_four ⟨smallCentury, smallYear⟩] at spelled
    simpa using spelled
  · intro spelled
    cases spelled with
    | @mk year month day hour minute second zone separator fraction offset separates small
        fractional zoned =>
      obtain ⟨smallYear, smallMonth, smallDay, smallHour, smallMinute, smallSecond⟩ := small
      -- The year is read as two pairs of digits.
      have halves : year / 100 * 100 + year % 100 = year := by omega
      have smallHalves : year / 100 < 100 ∧ year % 100 < 100 := by omega
      have pairs := digits_four smallHalves
      rw [halves] at pairs
      have separated (rest : List Char) : afterSeparator? (separator :: rest) = some rest :=
        afterSeparator?_eq_some_iff.mpr ⟨separator, separates, rfl⟩
      have dropped : afterFraction? (fraction ++ offset) = some offset := by
        obtain ⟨c, rest, rfl, bare⟩ := bare_of_zoneText zoned
        exact afterFraction?_append fractional bare
      simp only [read?, pairs, List.append_assoc, List.cons_append, pair?_digits, smallHalves,
        smallMonth, smallDay, smallHour, smallMinute, smallSecond, after?, if_true, separated,
        dropped, zone?_eq_some_iff.mpr zoned, halves, bind, Option.bind_some]

end Stamp

/-- A text is a date-time if and only if all of it spells a stamp that exists. -/
theorem isDateTime_iff (s : String) :
    isDateTime s = true ↔ ∃ stamp, StampText s.toList stamp ∧ stamp.Exists := by
  unfold isDateTime
  cases read : Stamp.read? s.toList with
  | none =>
    simp [← Stamp.read?_eq_some_iff, read]
  | some stamp =>
    simp [← Stamp.read?_eq_some_iff, read, Stamp.isValid_iff]

end TypeForm
