import ClipSplice.Regex.Basic
import ClipSplice.Time.DateFormat

/-!
# Dates in names

A `DatePattern` finds a date in a name: a regular expression finds the text, and a format reads it.
Most patterns come from a template such as `YYYY-MM-DD`, in which every letter pair stands for a
part of the date and everything else for itself.
-/

namespace ClipSplice

/-- A piece of a date template. -/
inductive DatePiece where
  | year
  | shortYear
  | month
  | day
  | hour
  | minute
  /-- Whether the time is before or after noon. -/
  | noon
  /-- The hour on a clock face. -/
  | clockHour
  | literal (c : Char)
deriving Repr, DecidableEq

namespace DatePiece

/-- The pattern that finds a piece. -/
def pattern : DatePiece → List Char
  | year => "\\d\x7b4\x7d".toList
  | noon => "(?:AM|PM)".toList
  | literal c => Regex.escapeChar c
  | _ => "\\d\\d".toList

/-- The part of a date format that reads a piece. -/
def directive : DatePiece → List Char
  | year => ['%', 'Y']
  | shortYear => ['%', 'y']
  | month => ['%', 'm']
  | day => ['%', 'd']
  | hour => ['%', 'H']
  | minute => ['%', 'M']
  | noon => ['%', 'p']
  | clockHour => ['%', 'I']
  | literal c => if c = '%' then ['%', '%'] else [c]

/-- The pieces of a template; of two that fit, the longer one is taken. -/
def ofTemplate : List Char → List DatePiece
  | 'Y' :: 'Y' :: 'Y' :: 'Y' :: rest => year :: ofTemplate rest
  | 'Y' :: 'Y' :: rest => shortYear :: ofTemplate rest
  | 'M' :: 'M' :: rest => month :: ofTemplate rest
  | 'D' :: 'D' :: rest => day :: ofTemplate rest
  | 'H' :: 'H' :: rest => hour :: ofTemplate rest
  | 'm' :: 'm' :: rest => minute :: ofTemplate rest
  | 'P' :: 'M' :: rest => noon :: ofTemplate rest
  | 'h' :: 'h' :: rest => clockHour :: ofTemplate rest
  | c :: rest => literal c :: ofTemplate rest
  | [] => []

end DatePiece

/-- A way to find a date in a name. -/
structure DatePattern where
  pattern : String
  format : String
  regex : Regex
  regex_eq : Regex.ofPattern? pattern = some regex

namespace DatePattern

/-- The pattern that searches for `pattern` and reads what it finds by `format`. -/
def new? (pattern format : String) : Option DatePattern :=
  match h : Regex.ofPattern? pattern with
  | some regex => some ⟨pattern, format, regex, h⟩
  | none => none

/-- Six digits: month, day and year. -/
def standard? : Option DatePattern := new? "\\d\x7b6\x7d" "%m%d%y"

/-- The pattern of a template. -/
def ofTemplate? (template : String) : Option DatePattern :=
  let pieces := DatePiece.ofTemplate template.toList
  new? (.ofList (pieces.flatMap DatePiece.pattern))
    (.ofList (pieces.flatMap DatePiece.directive))

/-- The first date in a name, if the text that was found is a date. -/
def extract? (pattern : DatePattern) (name : String) : Option Instant :=
  (pattern.regex.find? name).bind fun found => DateFormat.parse? pattern.format found.text

end DatePattern

end ClipSplice
