/-!
# Calendar dates

Dates of the proleptic Gregorian calendar with astronomical years: the year 0 comes before the year
1, and leap days are counted back without end. The calendar has the years from −262143 to 262142;
`Date.next?` and `Date.previous?` end there.
-/

namespace ClipSplice

/-- Days of the week. -/
inductive Weekday where
  | monday
  | tuesday
  | wednesday
  | thursday
  | friday
  | saturday
  | sunday
deriving Repr, DecidableEq

namespace Weekday

/-- Days since Monday, from 0 to 6. -/
def sinceMonday : Weekday → Nat
  | .monday => 0
  | .tuesday => 1
  | .wednesday => 2
  | .thursday => 3
  | .friday => 4
  | .saturday => 5
  | .sunday => 6

/-- Days since Sunday, from 0 to 6. -/
def sinceSunday (day : Weekday) : Nat := (day.sinceMonday + 1) % 7

/-- The day with so many days since Monday, counted modulo 7. -/
def ofSinceMonday (n : Nat) : Weekday :=
  match n % 7 with
  | 0 => .monday
  | 1 => .tuesday
  | 2 => .wednesday
  | 3 => .thursday
  | 4 => .friday
  | 5 => .saturday
  | _ => .sunday

end Weekday

/-! ## Years and months -/

/-- Whether a year has a leap day. -/
def isLeapYear (year : Int) : Bool := year % 4 = 0 && (year % 100 ≠ 0 || year % 400 = 0)

/-- The number of days of a year. -/
def daysInYear (year : Int) : Nat := if isLeapYear year then 366 else 365

/-- The number of days of a month; zero for a month that does not exist. -/
def daysInMonth (year : Int) : (month : Nat) → Nat
  | 1 | 3 | 5 | 7 | 8 | 10 | 12 => 31
  | 4 | 6 | 9 | 11 => 30
  | 2 => if isLeapYear year then 29 else 28
  | _ => 0

/-- The number of days of a year before a month. -/
def daysBeforeMonth (year : Int) (month : Nat) : Nat :=
  (List.range (month - 1)).foldl (fun days m => days + daysInMonth year (m + 1)) 0

/-- The first year of the calendar. -/
def firstYear : Int := -262143

/-- The last year of the calendar. -/
def lastYear : Int := 262142

/-- Whether the calendar has a date. -/
def isDate (year : Int) (month day : Nat) : Bool :=
  firstYear ≤ year && year ≤ lastYear && 1 ≤ day && day ≤ daysInMonth year month

/-! ## Dates -/

/-- A date of the calendar. -/
structure Date where
  year : Int
  month : Nat
  day : Nat
  inCalendar : isDate year month day = true
deriving Repr, DecidableEq

namespace Date

/-- The date with a given year, month and day, if there is one. -/
def ofYmd? (year : Int) (month day : Nat) : Option Date :=
  if h : isDate year month day = true then some ⟨year, month, day, h⟩ else none

theorem ofYmd?_self (d : Date) : ofYmd? d.year d.month d.day = some d := by
  rw [ofYmd?, dif_pos d.inCalendar]

/-- A date is found only under its own year, month and day. -/
theorem ofYmd?_eq_some_iff {year : Int} {month day : Nat} {d : Date} :
    ofYmd? year month day = some d ↔ d.year = year ∧ d.month = month ∧ d.day = day := by
  constructor
  · intro h
    unfold ofYmd? at h
    split at h
    · obtain rfl := Option.some.inj h
      exact ⟨rfl, rfl, rfl⟩
    · exact absurd h (by simp)
  · rintro ⟨rfl, rfl, rfl⟩
    exact ofYmd?_self d

/-- The first date of the calendar. -/
def first : Date := ⟨firstYear, 1, 1, by decide⟩

/-- The last date of the calendar. -/
def last : Date := ⟨lastYear, 12, 31, by decide⟩

/-- `a` is an earlier date than `b`. -/
def Before (a b : Date) : Prop :=
  a.year < b.year ∨ a.year = b.year ∧ (a.month < b.month ∨ a.month = b.month ∧ a.day < b.day)

instance (a b : Date) : Decidable (Before a b) := by unfold Before; infer_instance

/-- The day after a date. -/
def next? (d : Date) : Option Date :=
  if d.day < daysInMonth d.year d.month then ofYmd? d.year d.month (d.day + 1)
  else if d.month < 12 then ofYmd? d.year (d.month + 1) 1
  else ofYmd? (d.year + 1) 1 1

/-- The day before a date. -/
def previous? (d : Date) : Option Date :=
  if 1 < d.day then ofYmd? d.year d.month (d.day - 1)
  else if 1 < d.month then ofYmd? d.year (d.month - 1) (daysInMonth d.year (d.month - 1))
  else ofYmd? (d.year - 1) 12 31

/-! ## Days of the year -/

/-- The number of a date in its year, counted from 1. -/
def ordinal (d : Date) : Nat := daysBeforeMonth d.year d.month + d.day

/-- The month and day with a given number among the days from a month on. -/
def monthAndDay? (year : Int) : (months : Nat) → (month number : Nat) → Option (Nat × Nat)
  | 0, _, _ => none
  | months + 1, month, number =>
    if number ≤ daysInMonth year month then some (month, number)
    else monthAndDay? year months (month + 1) (number - daysInMonth year month)

/-- The date with a given number in a year, if there is one. -/
def ofOrdinal? (year : Int) (number : Nat) : Option Date := do
  let (month, day) ← monthAndDay? year 12 1 number
  ofYmd? year month day

/-! ## Days of the week -/

/-- Days from the last day of the year 0 to the last day before a year. -/
def daysBeforeYear (year : Int) : Int :=
  let y := year - 1
  365 * y + y / 4 - y / 100 + y / 400

/-- Days since the last day of the year 0. -/
def dayNumber (d : Date) : Int := daysBeforeYear d.year + d.ordinal

/-- The day of the week; the first day of the year 1 is a Monday. -/
def weekday (d : Date) : Weekday := .ofSinceMonday ((d.dayNumber - 1) % 7).toNat

/-- The number of the week in the year, where weeks start on Sunday and the days before the first
Sunday belong to week 0. -/
def weekFromSunday (d : Date) : Nat := (d.ordinal + 6 - d.weekday.sinceSunday) / 7

/-- The number of the week in the year, where weeks start on Monday and the days before the first
Monday belong to week 0. -/
def weekFromMonday (d : Date) : Nat := (d.ordinal + 6 - d.weekday.sinceMonday) / 7

/-- The date in a year with a given week and day of the week, where week 1 starts on the first day
of the year that is `start` days after a Monday. -/
def ofWeek? (year : Int) (week : Nat) (day : Weekday) (start : Nat) : Option Date := do
  if 53 < week then none
  let first ← ofYmd? year 1 1
  let firstWeekStart := 1 + (start + 7 - first.weekday.sinceMonday) % 7
  let daysIntoWeek : Nat := (day.sinceMonday + 7 - start) % 7
  let number : Int := firstWeekStart + (week - 1 : Int) * 7 + daysIntoWeek
  if number ≤ 0 then none
  ofOrdinal? year number.toNat

/-! ## Weeks that belong to one year -/

/-- Days from the last day of the year before to the Monday of week 1, the week that holds the
fourth of January; between −3 and 3. -/
def isoShift (year : Int) : Int :=
  let fourth := daysBeforeYear year + 4
  3 - ((fourth - 1) % 7)

/-- The number of weeks of a year. -/
def isoWeeks (year : Int) : Nat :=
  ((daysInYear year - isoShift year + isoShift (year + 1)) / 7).toNat

/-- The year to which the week of a date belongs, and the number of the week in that year. -/
def isoWeek (d : Date) : Int × Nat :=
  let number : Int := d.ordinal - 1 - isoShift d.year
  if number < 0 then (d.year - 1, isoWeeks (d.year - 1))
  else
    let week := (number / 7).toNat + 1
    if isoWeeks d.year < week then (d.year + 1, 1) else (d.year, week)

/-- The date with a given week year, week and day of the week, if there is one. -/
def ofIsoWeek? (year : Int) (week : Nat) (day : Weekday) : Option Date := do
  if week = 0 ∨ isoWeeks year < week then none
  let number : Int := (week - 1 : Int) * 7 + day.sinceMonday + 1 + isoShift year
  if number ≤ 0 then ofOrdinal? (year - 1) (number + daysInYear (year - 1)).toNat
  else if number ≤ daysInYear year then ofOrdinal? year number.toNat
  else ofOrdinal? (year + 1) (number - daysInYear year).toNat

/-- The date so many days after the last day of the year 0, if the calendar has it. -/
def ofDayNumber? (number : Int) : Option Date :=
  let estimate := (number - 1) * 400 / 146097 + 1
  let year :=
    if number ≤ daysBeforeYear estimate then estimate - 1
    else if daysBeforeYear (estimate + 1) < number then estimate + 1
    else estimate
  ofOrdinal? year (number - daysBeforeYear year).toNat

end Date

end ClipSplice
