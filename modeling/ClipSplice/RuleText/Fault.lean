import ClipSplice.Text.Blank

/-!
# What is wrong with a rule text

A `Fault` names the line of a rule text on which reading failed, shows a short piece of that line
and says why. The first fault of a text is the only one that is reported.
-/

namespace ClipSplice.RuleText

/-- What the reader was looking for. -/
inductive Label where
  | closingQuote
  | optionName
  | optionValue
  | conditionOptions
  | regularExpression
  | date
  | endDate
  | conditionList
  | condition
  | clipList
  | ruleList
  | rule
  /-- A certain character. -/
  | mark (c : Char)
deriving Repr, DecidableEq

/-- The words for a label. -/
def Label.text : Label → String
  | .closingQuote => "closing quote"
  | .optionName => "option name"
  | .optionValue => "option value"
  | .conditionOptions => "condition options"
  | .regularExpression => "regular expression"
  | .date => "date"
  | .endDate => "end date"
  | .conditionList => "condition list"
  | .condition => "condition"
  | .clipList => "clip list"
  | .ruleList => "rule list"
  | .rule => "rule"
  | .mark c => "\x60" ++ c.toString ++ "\x60"

/-- Why a rule text was refused. -/
inductive Cause where
  /-- The text does not follow the grammar; the labels say what was expected, innermost first. -/
  | expected (labels : List Label)
  | duplicateClause (name : String)
  | illegalRegexOption (key : String)
  | illegalGlobOption (key : String)
  | unsupportedDateOption (key : String)
  | duplicateOption (key : String)
  | incompatibleOptions (first second : String)
  /-- A date template without the option that reads dates from names. -/
  | strayTemplate
  /-- A date that the calendar does not have. -/
  | invalidDate (text : String)
  | invalidRegex
  | invalidGlob
  | invalidDateFormat
deriving Repr, DecidableEq

/-- The words for a cause. -/
def Cause.message : Cause → String
  | .expected [] => "syntax error"
  | .expected labels => "expected " ++ ", ".intercalate (labels.map Label.text)
  | .duplicateClause name => "duplicate " ++ name ++ " clause"
  | .illegalRegexOption key => "illegal option for regex: " ++ key
  | .illegalGlobOption key => "illegal option for glob: " ++ key
  | .unsupportedDateOption key => "unsupported option for date: " ++ key
  | .duplicateOption key => "duplicate option: " ++ key
  | .incompatibleOptions first second => "incompatible options: " ++ first ++ ", " ++ second
  | .strayTemplate => "fmt requires the F option"
  | .invalidDate text => "invalid date: " ++ text
  | .invalidRegex => "invalid regex"
  | .invalidGlob => "invalid glob"
  | .invalidDateFormat => "invalid date format"

/-- A fault of a rule text. -/
structure Fault where
  /-- Counted from 1. -/
  line : Nat
  excerpt : String
  cause : Cause
deriving Repr, DecidableEq

namespace Fault

/-- The most characters that an excerpt shows. -/
def excerptLimit : Nat := 40

/-- The excerpt of a text at a place, given by the text before it and the text from it on: the rest
of the line, or what the line holds before the place when nothing is left of it. -/
def excerptOf (before after : List Char) : List Char :=
  let rest := Text.trim (Text.firstLine after)
  let excerpt :=
    if rest.isEmpty then Text.trim (before.reverse.takeWhile (· ≠ '\n')).reverse else rest
  if excerpt.isEmpty then "end of input".toList else excerpt.take excerptLimit

/-- The fault at a byte offset of a source. An offset inside a character counts as the start of the
character, one past the end as the end. -/
def atOffset (source : String) (offset : Nat) (cause : Cause) : Fault :=
  let (before, after) := Text.splitAtByte offset source.toList
  { line := before.count '\n' + 1
    excerpt := String.ofList (excerptOf before after)
    cause }

/-- The sentence that reports a fault. -/
def display (fault : Fault) : String :=
  "parse error at line " ++ toString fault.line ++ ": " ++ fault.cause.message ++
    " (near \x60" ++ fault.excerpt ++ "\x60)"

end Fault

end ClipSplice.RuleText
