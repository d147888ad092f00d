import ClipSplice.Text.Blank
import ClipSplice.Time.FieldSet

/-!
# Date formats

A date format says how a date is written: directives such as `%Y` or `%d` stand for fields, blanks
for any blanks, and all other characters for themselves. `DateFormat.parse?` reads a text by a
format. The whole text must be used up; numbers may have blanks in front and fewer digits than
usual, and names of months and weekdays are read without regard to case.
-/

namespace ClipSplice

/-- How a number is read. -/
structure NumberShape where
  /-- The most digits. -/
  width : Nat
  /-- A sign may stand in front; with one, there may be any number of digits. -/
  signed : Bool := false

/-- What a numeric directive states. -/
inductive NumberField where
  | plain (field : DateField) (shape : NumberShape)
  /-- The hour from 0 to 23. -/
  | hour
  /-- The hour from 1 to 12, where 12 is the first. -/
  | hourOfTwelve
  /-- The day of the week, where Sunday is 0. -/
  | weekdaySinceSunday
  /-- The day of the week, where Monday is 1. -/
  | weekdayFromMonday

/-- How the digits of a fraction of a second are written. -/
inductive FractionShape where
  /-- A point and at least one digit, or nothing at all. -/
  | any
  /-- A point and so many digits, or nothing at all. -/
  | pointAnd (digits : Nat)
  /-- So many digits. -/
  | digits (count : Nat)

/-- A piece of a date format. -/
inductive FormatItem where
  | literal (text : List Char)
  /-- Any number of blanks. -/
  | blanks
  | number (field : NumberField)
  /-- The name of a month; `long` names may be written in full. -/
  | monthName (long : Bool)
  | weekdayName (long : Bool)
  /-- `AM` or `PM`. -/
  | halfDay
  | fraction (shape : FractionShape)
  /-- A word that names a time zone, which is skipped. -/
  | zoneName
  /-- An offset from universal time; a lenient one may be `Z` and may lack the minutes. -/
  | offset (lenient : Bool)
  /-- The separator `T` or a space between date and time. -/
  | timeMark
  /-- An offset that may be written `Z` or `UTC`. -/
  | universal
  | invalid

namespace FormatItem

/-! ## Directives -/

/-- A number of up to `width` digits. -/
def digitsOf (field : DateField) (width : Nat) : FormatItem :=
  .number (.plain field { width })

/-- A year. -/
def yearOf (field : DateField) : FormatItem := .number (.plain field { width := 4, signed := true })

/-- The character `c`. -/
def char (c : Char) : FormatItem := .literal [c]

/-- Month, day and two digits of the year with slashes. -/
def slashedDate : List FormatItem :=
  [digitsOf .month 2, char '/', digitsOf .day 2, char '/', digitsOf .yearOfCentury 2]

/-- Year, month and day with hyphens. -/
def hyphenedDate : List FormatItem :=
  [yearOf .year, char '-', digitsOf .month 2, char '-', digitsOf .day 2]

/-- Hour and minute. -/
def hourMinute : List FormatItem := [.number .hour, char ':', digitsOf .minute 2]

/-- Hour, minute and second. -/
def clock : List FormatItem := hourMinute ++ [char ':', digitsOf .second 2]

/-- The same items with blanks allowed in front of every literal. -/
def loosely (items : List FormatItem) : List FormatItem :=
  items.flatMap fun item =>
    match item with
    | .literal text => [.blanks, .literal text]
    | item => [item]

/-- A width that no number reaches. -/
def unbounded : Nat := Nat.pow 2 64

/-- The number that a directive stands for, if it stands for one number. -/
def numeric? : Char → Option FormatItem
  | 'C' => some (digitsOf .century 2)
  | 'G' => some (yearOf .isoYear)
  | 'H' | 'k' => some (.number .hour)
  | 'I' | 'l' => some (.number .hourOfTwelve)
  | 'M' => some (digitsOf .minute 2)
  | 'S' => some (digitsOf .second 2)
  | 'U' => some (digitsOf .weekFromSunday 2)
  | 'V' => some (digitsOf .isoWeek 2)
  | 'W' => some (digitsOf .weekFromMonday 2)
  | 'Y' => some (yearOf .year)
  | 'd' | 'e' => some (digitsOf .day 2)
  | 'f' => some (digitsOf .nanosecond 9)
  | 'g' => some (digitsOf .isoYearOfCentury 2)
  | 'j' => some (digitsOf .ordinal 3)
  | 'm' => some (digitsOf .month 2)
  | 'q' => some (digitsOf .quarter 1)
  | 's' => some (digitsOf .timestamp unbounded)
  | 'u' => some (.number .weekdayFromMonday)
  | 'w' => some (.number .weekdaySinceSunday)
  | 'y' => some (digitsOf .yearOfCentury 2)
  | _ => none

/-- The items that a directive of one letter stands for. -/
def directive (c : Char) : List FormatItem :=
  match numeric? c with
  | some item => [item]
  | none =>
    match c with
    | 'A' => [.weekdayName true]
    | 'B' => [.monthName true]
    | 'D' | 'x' => slashedDate
    | 'F' => hyphenedDate
    | 'P' | 'p' => [.halfDay]
    | 'R' => hourMinute
    | 'T' | 'X' => clock
    | 'Z' => [.zoneName]
    | 'a' => [.weekdayName false]
    | 'b' | 'h' => [.monthName false]
    | 'c' =>
      [.weekdayName false, .blanks, .monthName false, .blanks, digitsOf .day 2, .blanks] ++
        clock ++ [.blanks, yearOf .year]
    | 'n' | 't' => [.blanks]
    | 'r' =>
      [.number .hourOfTwelve, char ':', digitsOf .minute 2, char ':', digitsOf .second 2, .blanks,
        .halfDay]
    | 'v' => [digitsOf .day 2, char '-', .monthName false, char '-', yearOf .year]
    | 'z' => [.offset false]
    | '+' =>
      loosely hyphenedDate ++ [.timeMark] ++ loosely clock ++ [.fraction .any, .blanks, .universal]
    | '%' => [char '%']
    | _ => [.invalid]

/-- The items for the text behind a percent sign, and the rest of the format. A hyphen, underscore
or zero asks for a certain padding, which is allowed in front of a number only and does not matter
for reading. -/
def specifier : List Char → List FormatItem × List Char
  | '-' :: c :: rest | '_' :: c :: rest | '0' :: c :: rest =>
    (((numeric? c).map ([·])).getD [.invalid], rest)
  | '#' :: 'z' :: rest => ([.offset true], rest)
  | ':' :: ':' :: ':' :: 'z' :: rest => ([.offset false], rest)
  | ':' :: ':' :: 'z' :: rest => ([.offset false], rest)
  | ':' :: 'z' :: rest => ([.offset false], rest)
  | '.' :: 'f' :: rest => ([.fraction .any], rest)
  | '.' :: '3' :: 'f' :: rest => ([.fraction (.pointAnd 3)], rest)
  | '.' :: '6' :: 'f' :: rest => ([.fraction (.pointAnd 6)], rest)
  | '.' :: '9' :: 'f' :: rest => ([.fraction (.pointAnd 9)], rest)
  | '3' :: 'f' :: rest => ([.fraction (.digits 3)], rest)
  | '6' :: 'f' :: rest => ([.fraction (.digits 6)], rest)
  | '9' :: 'f' :: rest => ([.fraction (.digits 9)], rest)
  | c :: rest => (directive c, rest)
  | [] => ([.invalid], [])

/-- The items of a format of at most `fuel` characters. -/
def itemsOf : (fuel : Nat) → List Char → List FormatItem
  | 0, _ => []
  | _ + 1, [] => []
  | fuel + 1, '%' :: rest =>
    let (items, rest) := specifier rest
    items ++ itemsOf fuel rest
  | fuel + 1, c :: rest => (if isBlank c then .blanks else char c) :: itemsOf fuel rest

end FormatItem

/-! ## Reading -/

/-- What has been read so far: the rest of the text and the fields that were stated. -/
structure DateReading where
  rest : List Char
  fields : FieldSet

namespace DateReading

/-- State a field. -/
def state (reading : DateReading) (field : DateField) (value : Int) : Option DateReading :=
  (reading.fields.set field value).map fun fields => { reading with fields }

/-- The value of decimal digits. -/
def decimal (digits : List Char) : Nat :=
  digits.foldl (fun n c => n * 10 + (c.toNat - '0'.toNat)) 0

/-- The number written with up to `width` digits, its length and the rest; at least one digit must
be there. -/
def number? (width : Nat) (text : List Char) : Option (Nat × Nat × List Char) :=
  let digits := (text.take width).takeWhile Char.isDigit
  if digits.isEmpty then none else some (decimal digits, digits.length, text.drop digits.length)

/-- A number in a certain shape and the rest. -/
def shaped? (shape : NumberShape) (text : List Char) : Option (Int × List Char) :=
  let plain (sign : Int) (width : Nat) (text : List Char) :=
    (number? width text).map fun (n, _, rest) => (sign * n, rest)
  match shape.signed, text with
  | true, '-' :: rest => plain (-1) rest.length rest
  | true, '+' :: rest => plain 1 rest.length rest
  | _, _ => plain 1 shape.width text

/-- Read a number and state what it means. -/
def readNumber (reading : DateReading) (field : NumberField) : Option DateReading := do
  let text := Text.trimStart reading.rest
  let shape : NumberShape :=
    match field with
    | .plain _ shape => shape
    | .hour | .hourOfTwelve => { width := 2 }
    | .weekdaySinceSunday | .weekdayFromMonday => { width := 1 }
  let (n, rest) ← shaped? shape text
  let reading := { reading with rest }
  match field with
  | .plain field _ => reading.state field n
  | .hour => (← reading.state .halfDay (n / 12)).state .hourOfHalf (n % 12)
  | .hourOfTwelve => if 1 ≤ n ∧ n ≤ 12 then reading.state .hourOfHalf (n % 12) else none
  | .weekdaySinceSunday =>
    if n ≤ 6 then reading.state .weekday ((n + 6) % 7) else none
  | .weekdayFromMonday => reading.state .weekday (n - 1)

/-! ### Names -/

/-- The names of the months, each cut after three letters. -/
def monthNames : List (String × String) :=
  [("jan", "uary"), ("feb", "ruary"), ("mar", "ch"), ("apr", "il"), ("may", ""), ("jun", "e"),
    ("jul", "y"), ("aug", "ust"), ("sep", "tember"), ("oct", "ober"), ("nov", "ember"),
    ("dec", "ember")]

/-- The names of the days of the week, each cut after three letters. -/
def weekdayNames : List (String × String) :=
  [("mon", "day"), ("tue", "sday"), ("wed", "nesday"), ("thu", "rsday"), ("fri", "day"),
    ("sat", "urday"), ("sun", "day")]

/-- The rest of a text after a word, without regard to case. -/
def afterWord? (word : String) (text : List Char) : Option (List Char) :=
  let n := word.length
  if (text.take n).map Char.toLower = word.toList then some (text.drop n) else none

/-- The number of the first name that a text starts with, and the rest. The second part of a name
is read when it is there and `long` names are allowed. -/
def nameIn? (long : Bool) (text : List Char) : (names : List (String × String)) → (number : Nat) →
    Option (Nat × List Char)
  | [], _ => none
  | (short, ending) :: names, number =>
    match afterWord? short text with
    | none => nameIn? long text names (number + 1)
    | some rest => some (number, if long then (afterWord? ending rest).getD rest else rest)

/-! ### Fractions and offsets -/

/-- Nanoseconds written with up to nine digits, of which at least `least` must be there. -/
def nanoseconds? (least most : Nat) (text : List Char) : Option (Nat × List Char) := do
  let (n, length, rest) ← number? most text
  if length < least then none
  some (n * Nat.pow 10 (9 - length), rest)

/-- Read a fraction of a second. -/
def readFraction (reading : DateReading) : FractionShape → Option DateReading
  | .any =>
    match reading.rest with
    | '.' :: text => do
      let (nano, rest) ← nanoseconds? 1 9 text
      { reading with rest := rest.dropWhile Char.isDigit }.state .nanosecond nano
    | _ => some reading
  | .pointAnd count =>
    match reading.rest with
    | '.' :: text => do
      let (nano, rest) ← nanoseconds? count count text
      { reading with rest }.state .nanosecond nano
    | _ => some reading
  | .digits count => do
    let (nano, rest) ← nanoseconds? count count reading.rest
    { reading with rest }.state .nanosecond nano

/-- Two digits and the rest. -/
def twoDigits? : List Char → Option (Nat × List Char)
  | a :: b :: rest => if a.isDigit && b.isDigit then some (decimal [a, b], rest) else none
  | _ => none

/-- The seconds of an offset with a sign, two digits of hours and two of minutes, and the rest;
colons and blanks may stand between hours and minutes. -/
def signedOffset? (withoutMinutes : Bool) (text : List Char) : Option (Int × List Char) := do
  let (sign, text) ←
    match text with
    | '+' :: text => some ((1 : Int), text)
    | '-' :: text => some (-1, text)
    | '−' :: text => some (-1, text)
    | _ => none
  let (hours, text) ← twoDigits? text
  let text := text.dropWhile fun c => c = ':' || isBlank c
  if text.isEmpty && withoutMinutes then some (sign * hours * 3600, [])
  else
    let (minutes, rest) ← twoDigits? text
    if 60 ≤ minutes then none
    some (sign * (hours * 3600 + minutes * 60), rest)

/-- Read an offset from universal time. -/
def readOffset (reading : DateReading) (zulu withoutMinutes : Bool) : Option DateReading := do
  let text := Text.trimStart reading.rest
  let (offset, rest) ←
    match zulu, text with
    | true, 'Z' :: rest | true, 'z' :: rest => some ((0 : Int), rest)
    | _, _ => signedOffset? withoutMinutes text
  { reading with rest }.state .offset offset

/-! ### Items -/

/-- Read one piece of a format. -/
def readItem (reading : DateReading) : FormatItem → Option DateReading
  | .literal text => (Text.after? text reading.rest).map fun rest => { reading with rest }
  | .blanks => some { reading with rest := Text.trimStart reading.rest }
  | .number field => reading.readNumber field
  | .monthName long => do
    let (month, rest) ← nameIn? long reading.rest monthNames 1
    { reading with rest }.state .month month
  | .weekdayName long => do
    let (day, rest) ← nameIn? long reading.rest weekdayNames 0
    { reading with rest }.state .weekday day
  | .halfDay =>
    match afterWord? "am" reading.rest, afterWord? "pm" reading.rest with
    | some rest, _ => { reading with rest }.state .halfDay 0
    | none, some rest => { reading with rest }.state .halfDay 1
    | none, none => none
  | .fraction shape => reading.readFraction shape
  | .zoneName => some { reading with rest := reading.rest.dropWhile fun c => !isBlank c }
  | .offset lenient => reading.readOffset lenient lenient
  | .timeMark =>
    match reading.rest with
    | 'T' :: rest | 't' :: rest | ' ' :: rest => some { reading with rest }
    | _ => none
  | .universal =>
    match afterWord? "utc" reading.rest with
    | some rest => { reading with rest }.state .offset 0
    | none => reading.readOffset true false
  | .invalid => none

/-- Read the pieces of a format one after the other. -/
def readItems (reading : DateReading) : List FormatItem → Option DateReading
  | [] => some reading
  | item :: items => (reading.readItem item).bind fun reading => readItems reading items

end DateReading

namespace DateFormat

/-- The fields that a text states under a format. -/
def fields? (format text : String) : Option FieldSet := do
  let items := FormatItem.itemsOf format.length format.toList
  let reading ← DateReading.readItems { rest := text.toList, fields := {} } items
  if reading.rest.isEmpty then some reading.fields else none

/-- The instant that a text states under a format; a date without a full time of day is taken at
midnight. -/
def parse? (format text : String) : Option Instant := do
  let fields ← fields? format text
  match fields.instant? with
  | some t => some t
  | none => fields.date?.map .midnight

end DateFormat

end ClipSplice
