import ClipSplice.Time.Date

/-!
# Instants

An instant is a date with a time of day, in nanoseconds. A leap second follows the 60th second of a
minute and is written as second 60; it is kept as the second before it with more than 999 999 999
nanoseconds. `Instant.first` and `Instant.last` are the ends of the calendar.
-/

namespace ClipSplice

/-- Nanoseconds in a second. -/
def nanosPerSecond : Nat := 1000000000

/-- Nanoseconds in a microsecond. -/
def nanosPerMicrosecond : Nat := 1000

/-- Seconds in a day. -/
def secondsPerDay : Nat := 86400

/-- A date with a time of day. -/
structure Instant where
  date : Date
  /-- Seconds since midnight. -/
  second : Nat
  /-- Nanoseconds since the start of the second; above 999 999 999 in a leap second. -/
  nano : Nat
  second_lt : second < secondsPerDay
  nano_lt : nano < 2 * nanosPerSecond
deriving Repr, DecidableEq

namespace Instant

/-- The start of a date. -/
def midnight (date : Date) : Instant := ⟨date, 0, 0, by decide, by decide⟩

/-- The last whole second of a date. -/
def lastSecond (date : Date) : Instant := ⟨date, secondsPerDay - 1, 0, by decide, by decide⟩

/-- The earliest instant. -/
def first : Instant := midnight .first

/-- The last instant. -/
def last : Instant := ⟨.last, secondsPerDay - 1, nanosPerSecond - 1, by decide, by decide⟩

/-- The instant on a date with a given time of day, if there is one. A leap second is given by at
least 1 000 000 000 nanoseconds and follows the last second of a minute only. -/
def ofTime? (date : Date) (hour minute second nano : Nat) : Option Instant :=
  if h : hour < 24 ∧ minute < 60 ∧ second < 60 ∧
      (nano < nanosPerSecond ∨ second = 59 ∧ nano < 2 * nanosPerSecond) then
    some ⟨date, (hour * 60 + minute) * 60 + second, nano, by simp only [secondsPerDay]; omega,
      by simp only [nanosPerSecond] at h ⊢; omega⟩
  else none

/-- The hour of the day. -/
def hour (t : Instant) : Nat := t.second / 3600

/-- The minute of the hour. -/
def minute (t : Instant) : Nat := t.second / 60 % 60

/-- The second of the minute; a leap second counts as the second before it. -/
def secondOfMinute (t : Instant) : Nat := t.second % 60

/-- A leap second follows the last second of a minute. -/
def LeapEndsMinute (t : Instant) : Prop := nanosPerSecond ≤ t.nano → t.secondOfMinute = 59

/-- An instant is found under its own time of day. -/
theorem ofTime?_self {t : Instant} (h : t.LeapEndsMinute) :
    ofTime? t.date t.hour t.minute t.secondOfMinute t.nano = some t := by
  have hsecond := t.second_lt
  have hnano := t.nano_lt
  simp only [LeapEndsMinute, secondOfMinute, secondsPerDay, nanosPerSecond] at h hsecond hnano
  have htime : t.hour < 24 ∧ t.minute < 60 ∧ t.secondOfMinute < 60 ∧
      (t.nano < nanosPerSecond ∨ t.secondOfMinute = 59 ∧ t.nano < 2 * nanosPerSecond) := by
    simp only [hour, minute, secondOfMinute, nanosPerSecond]
    omega
  have hparts : (t.hour * 60 + t.minute) * 60 + t.secondOfMinute = t.second := by
    simp only [hour, minute, secondOfMinute]
    omega
  rw [ofTime?, dif_pos htime]
  simp only [hparts]

/-- What is found for a time of day has it. -/
theorem eq_of_ofTime? {date : Date} {hour minute second nano : Nat} {t : Instant}
    (h : ofTime? date hour minute second nano = some t) :
    t.date = date ∧ t.nano = nano ∧ t.second = (hour * 60 + minute) * 60 + second ∧
      t.LeapEndsMinute := by
  unfold ofTime? at h
  split at h
  · cases h
    refine ⟨rfl, rfl, rfl, ?_⟩
    simp only [LeapEndsMinute, secondOfMinute]
    omega
  · cases h

/-! ## Order -/

/-- `s` is earlier than `t`. -/
def Before (s t : Instant) : Prop :=
  s.date.Before t.date ∨
    s.date = t.date ∧ (s.second < t.second ∨ s.second = t.second ∧ s.nano < t.nano)

instance (s t : Instant) : Decidable (Before s t) := by unfold Before; infer_instance

/-- `s` is not later than `t`. -/
instance : LE Instant := ⟨fun s t => ¬ Before t s⟩

instance (s t : Instant) : Decidable (s ≤ t) := inferInstanceAs (Decidable (¬ Before t s))

/-! ## One microsecond on and back -/

/-- The instant one microsecond later, if the calendar has it. A leap second lasts a second and goes
over into the next second. -/
def nextMicrosecond? (t : Instant) : Option Instant :=
  let inLeap := nanosPerSecond ≤ t.nano
  let wholeSecond := if inLeap then 2 * nanosPerSecond else nanosPerSecond
  if h : t.nano + nanosPerMicrosecond < wholeSecond then
    some { t with
      nano := t.nano + nanosPerMicrosecond
      nano_lt := by
        have : wholeSecond ≤ 2 * nanosPerSecond := by
          simp only [wholeSecond]; split <;> simp [nanosPerSecond]
        omega }
  else
    let nano := t.nano + nanosPerMicrosecond - wholeSecond
    have nano_lt : nano < 2 * nanosPerSecond := by
      have := t.nano_lt
      by_cases leap : nanosPerSecond ≤ t.nano <;>
        simp only [nano, wholeSecond, inLeap, leap, if_true, if_false, nanosPerSecond,
          nanosPerMicrosecond] at * <;>
        omega
    if h : t.second + 1 < secondsPerDay then
      some { t with second := t.second + 1, second_lt := h, nano, nano_lt }
    else t.date.next?.map fun date => { date, second := 0, nano, second_lt := by decide, nano_lt }

/-- The instant one microsecond earlier, if the calendar has it. -/
def previousMicrosecond? (t : Instant) : Option Instant :=
  if h : nanosPerMicrosecond ≤ t.nano then
    some { t with
      nano := t.nano - nanosPerMicrosecond
      nano_lt := Nat.lt_of_le_of_lt (Nat.sub_le ..) t.nano_lt }
  else
    let nano := t.nano + nanosPerSecond - nanosPerMicrosecond
    have nano_lt : nano < 2 * nanosPerSecond := by
      simp only [nano, nanosPerSecond, nanosPerMicrosecond] at *
      omega
    if 0 < t.second then
      some { t with
        second := t.second - 1
        second_lt := Nat.lt_of_le_of_lt (Nat.sub_le ..) t.second_lt
        nano
        nano_lt }
    else
      t.date.previous?.map fun date =>
        { date, second := secondsPerDay - 1, nano, second_lt := by decide, nano_lt }

/-! ## As text -/

/-- The decimal digits of a number, with zeros in front up to a width. -/
def padded (width n : Nat) : String :=
  let digits := toString n
  "".pushn '0' (width - digits.length) ++ digits

/-- A year: four digits from 0 to 9999, outside with a sign in front. -/
def yearText (year : Int) : String :=
  if 0 ≤ year ∧ year ≤ 9999 then padded 4 year.toNat
  else (if year < 0 then "-" else "+") ++ padded 4 year.natAbs

/-- A fraction of a second with as few groups of three digits as are exact. -/
def fractionText (nano : Nat) : String :=
  if nano = 0 then ""
  else if nano % 1000000 = 0 then "." ++ padded 3 (nano / 1000000)
  else if nano % 1000 = 0 then "." ++ padded 6 (nano / 1000)
  else "." ++ padded 9 nano

/-- An instant as text. -/
def display (t : Instant) : String :=
  let leap := nanosPerSecond ≤ t.nano
  let second := if leap then t.secondOfMinute + 1 else t.secondOfMinute
  let nano := if leap then t.nano - nanosPerSecond else t.nano
  yearText t.date.year ++ "-" ++ padded 2 t.date.month ++ "-" ++ padded 2 t.date.day ++ " " ++
    padded 2 t.hour ++ ":" ++ padded 2 t.minute ++ ":" ++ padded 2 second ++ fractionText nano

end Instant

end ClipSplice
