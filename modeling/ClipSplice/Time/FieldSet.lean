import ClipSplice.Time.Instant

/-!
# Fields of a date

A written date states some of the fields of an instant, such as its year, its week or its hour, and
it may state them more than once. A `FieldSet` collects them: `FieldSet.set` refuses a value that
differs from an earlier one. `FieldSet.date?` and `FieldSet.instant?` find the date or instant that
has all stated fields; there is none when too few are stated or when they do not fit together.
-/

namespace ClipSplice

/-- A part of a date or of a time of day that can be stated as a number. -/
inductive DateField where
  | year
  /-- The year without its last two digits. -/
  | century
  /-- The last two digits of the year. -/
  | yearOfCentury
  /-- The year to which the week belongs. -/
  | isoYear
  | isoYearOfCentury
  | quarter
  | month
  | day
  /-- The week of the year, with weeks from Sunday on. -/
  | weekFromSunday
  /-- The week of the year, with weeks from Monday on. -/
  | weekFromMonday
  | isoWeek
  /-- Days since Monday. -/
  | weekday
  /-- The day of the year. -/
  | ordinal
  /-- Zero before noon, one after. -/
  | halfDay
  /-- The hour since midnight or noon. -/
  | hourOfHalf
  | minute
  | second
  | nanosecond
  /-- Seconds since the start of the year 1970. -/
  | timestamp
  /-- Seconds by which the clock is ahead of universal time. -/
  | offset
deriving Repr, DecidableEq

/-- The greatest year that can be stated. -/
def largestYear : Int := 2147483647

/-- The least and the greatest value that a field may be given. -/
def DateField.range : DateField → Int × Int
  | .year | .isoYear | .offset => (-largestYear - 1, largestYear)
  | .century => (0, largestYear)
  | .yearOfCentury | .isoYearOfCentury => (0, 99)
  | .quarter => (1, 4)
  | .month => (1, 12)
  | .day => (1, 31)
  | .weekFromSunday | .weekFromMonday => (0, 53)
  | .isoWeek => (1, 53)
  | .weekday => (0, 6)
  | .ordinal => (1, 366)
  | .halfDay => (0, 1)
  | .hourOfHalf => (0, 11)
  | .minute => (0, 59)
  | .second => (0, 60)
  | .nanosecond => (0, 999999999)
  | .timestamp => (-9223372036854775808, 9223372036854775807)

/-- The fields that are stated, with their values. -/
structure FieldSet where
  stated : List (DateField × Int) := []
deriving Repr, DecidableEq

namespace FieldSet

/-- The value of a field, if it is stated. -/
def get? (fields : FieldSet) (field : DateField) : Option Int := fields.stated.lookup field

/-- State a field. It must be in range and agree with what is stated already. -/
def set (fields : FieldSet) (field : DateField) (value : Int) : Option FieldSet :=
  let (low, high) := field.range
  if value < low ∨ high < value then none
  else
    match fields.get? field with
    | none => some ⟨(field, value) :: fields.stated⟩
    | some earlier => if earlier = value then some fields else none

/-- Whether a field has a value, unless another one is stated. -/
def admits (fields : FieldSet) (field : DateField) (value : Int) : Bool :=
  (fields.get? field).all (· = value)

/-! ## Years -/

/-- What a set of fields says about a year. -/
inductive StatedYear where
  | unknown
  | known (year : Int)
  /-- The stated part leaves the year open. -/
  | insufficient
  /-- The parts do not fit together. -/
  | impossible
deriving Repr, DecidableEq

/-- The year with a given full value, century and place in the century. Two digits alone stand for a
year from 1970 to 2069. -/
def yearOf (full century place : Option Int) : StatedYear :=
  match full, century, place with
  | none, none, none => .unknown
  | some year, none, none => .known year
  | some year, century, place =>
    if 0 ≤ year ∧ century.all (· = year / 100) ∧ place.all (· = year % 100) then .known year
    else .impossible
  | none, some century, some place =>
    let year := century * 100 + place
    if year ≤ largestYear then .known year else .impossible
  | none, none, some place => .known (place + if place < 70 then 2000 else 1900)
  | none, some _, none => .insufficient

/-! ## Dates -/

/-- Whether a date agrees with the stated year, month and day. -/
def admitsYmd (fields : FieldSet) (d : Date) : Bool :=
  fields.admits .year d.year &&
    (if 0 ≤ d.year then
      fields.admits .century (d.year / 100) && fields.admits .yearOfCentury (d.year % 100)
    else (fields.get? .century).isNone && (fields.get? .yearOfCentury).isNone) &&
    fields.admits .month d.month && fields.admits .day d.day

/-- Whether a date agrees with the stated week year, week and day of the week. -/
def admitsIsoWeek (fields : FieldSet) (d : Date) : Bool :=
  let (year, week) := d.isoWeek
  fields.admits .isoYear year &&
    (if 0 ≤ year then fields.admits .isoYearOfCentury (year % 100)
    else (fields.get? .isoYearOfCentury).isNone) &&
    fields.admits .isoWeek week && fields.admits .weekday d.weekday.sinceMonday

/-- Whether a date agrees with the stated day of the year and the stated weeks of the year. -/
def admitsOrdinal (fields : FieldSet) (d : Date) : Bool :=
  fields.admits .ordinal d.ordinal && fields.admits .weekFromSunday d.weekFromSunday &&
    fields.admits .weekFromMonday d.weekFromMonday

/-- Why no date was found. -/
inductive Lack where
  | notEnough
  | conflict
deriving Repr, DecidableEq

/-- A candidate that must pass a test. -/
def checked (candidate : Option Date) (test : Date → Bool) : Except Lack Date :=
  match candidate with
  | none => .error .conflict
  | some d => if test d then .ok d else .error .conflict

/-- The date that follows from the fields, found from the first of these that is stated in full:
year, month and day; year and day of the year; year, week of the year and day of the week; week
year, week and day of the week. -/
def dateOf (fields : FieldSet) (year isoYear : StatedYear) : Except Lack Date :=
  let weekday := (fields.get? .weekday).map fun n => Weekday.ofSinceMonday n.toNat
  let nat (field : DateField) := (fields.get? field).map Int.toNat
  let all (d : Date) := fields.admitsYmd d && fields.admitsIsoWeek d && fields.admitsOrdinal d
  match year, nat .month, nat .day with
  | .known year, some month, some day =>
    checked (Date.ofYmd? year month day) fun d => fields.admitsIsoWeek d && fields.admitsOrdinal d
  | _, _, _ =>
    match year, nat .ordinal with
    | .known year, some number => checked (Date.ofOrdinal? year number) all
    | _, _ =>
      match year, nat .weekFromSunday, weekday with
      | .known year, some week, some day =>
        checked (Date.ofWeek? year week day Weekday.sunday.sinceMonday) all
      | _, _, _ =>
        match year, nat .weekFromMonday, weekday with
        | .known year, some week, some day =>
          checked (Date.ofWeek? year week day Weekday.monday.sinceMonday) all
        | _, _, _ =>
          match isoYear, nat .isoWeek, weekday with
          | .known year, some week, some day =>
            checked (Date.ofIsoWeek? year week day) fun d =>
              fields.admitsYmd d && fields.admitsOrdinal d
          | _, _, _ => .error .notEnough

/-- The quarter of a date. -/
def quarterOf (d : Date) : Nat := (d.month - 1) / 3 + 1

/-- The date that has all stated fields. -/
def findDate (fields : FieldSet) : Except Lack Date :=
  match
    yearOf (fields.get? .year) (fields.get? .century) (fields.get? .yearOfCentury),
    yearOf (fields.get? .isoYear) none (fields.get? .isoYearOfCentury) with
  | .insufficient, _ => .error .notEnough
  | .impossible, _ | _, .impossible => .error .conflict
  | year, isoYear => do
    let d ← fields.dateOf year isoYear
    if fields.admits .quarter (quarterOf d) then .ok d else .error .conflict

/-- The date that has all stated fields, if there is just one. -/
def date? (fields : FieldSet) : Option Date := fields.findDate.toOption

/-! ## Times of day and instants -/

/-- Hour, minute, second and nanosecond, as stated. Seconds may be left out, fractions only with
seconds; second 60 is a leap second. -/
def timeOfDay (fields : FieldSet) : Except Lack (Nat × Nat × Nat × Nat) :=
  let nat (field : DateField) := (fields.get? field).map Int.toNat
  match nat .halfDay, nat .hourOfHalf, nat .minute with
  | some half, some hour, some minute =>
    let (second, leap) :=
      match nat .second with
      | none => (0, 0)
      | some second => if second = 60 then (59, nanosPerSecond) else (second, 0)
    match nat .nanosecond, nat .second with
    | some _, none => .error .notEnough
    | nano, _ => .ok (half * 12 + hour, minute, second, leap + nano.getD 0)
  | _, _, _ => .error .notEnough

/-- The day number of the first day of the year 1970. -/
def epochDay : Int := 719163

/-- Whole seconds from the start of the year 1970 to an instant. -/
def secondsSinceEpoch (t : Instant) : Int :=
  (t.date.dayNumber - epochDay) * secondsPerDay + t.second

/-- Add the fields of an instant that a timestamp states. A leap second is a second before or in the
timestamp. -/
def withTimestamp (fields : FieldSet) (timestamp : Int) : Option FieldSet := do
  let leap := fields.get? .second = some 60
  let second := timestamp % 60
  if leap ∧ second ≠ 59 ∧ second ≠ 0 then none
  let timestamp := if leap ∧ second = 0 then timestamp - 1 else timestamp
  let date ← Date.ofDayNumber? (timestamp / secondsPerDay + epochDay)
  let ofDay := timestamp % secondsPerDay
  let fields ← if leap then some fields else fields.set .second (ofDay % 60)
  let fields ← fields.set .year date.year
  let fields ← fields.set .ordinal date.ordinal
  let fields ← fields.set .halfDay (ofDay / 3600 / 12)
  let fields ← fields.set .hourOfHalf (ofDay / 3600 % 12)
  fields.set .minute (ofDay / 60 % 60)

/-- The instant on a stated date at a stated time. -/
def instantAt? (date : Date) (time : Nat × Nat × Nat × Nat) : Option Instant :=
  let (hour, minute, second, nano) := time
  Instant.ofTime? date hour minute second nano

/-- The instant that has all stated fields, if there is just one. A timestamp must fit to the rest,
or makes up for what is not stated. -/
def instant? (fields : FieldSet) : Option Instant :=
  match fields.findDate, fields.timeOfDay, fields.get? .timestamp with
  | .ok date, .ok time, timestamp => do
    let t ← instantAt? date time
    let seconds := secondsSinceEpoch t
    let fits := timestamp.all fun given =>
      given = seconds ∨ nanosPerSecond ≤ t.nano ∧ given = seconds + 1
    if fits then some t else none
  | .error .conflict, _, _ => none
  | _, .error .conflict, _ => none
  | _, _, none => none
  | _, _, some timestamp => do
    let fields ← fields.withTimestamp timestamp
    let date ← fields.date?
    let time ← fields.timeOfDay.toOption
    instantAt? date time

end FieldSet

end ClipSplice
