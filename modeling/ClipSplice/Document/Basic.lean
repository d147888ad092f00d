import ClipSplice.Document.Fault
import ClipSplice.Document.Shape

/-!
# Rule documents

A rule document is a JSON value that holds a rule. `RuleDocument` is what such a document says, with
patterns, flags and dates as they are written; `RuleDocument.ofJson?` and `RuleDocument.toJson` lead
from one form to the other. Bounds of time ranges that are missing are open.
-/

namespace ClipSplice

open Document

/-- A condition as a document states it. -/
inductive ConditionDocument where
  | all (members : List ConditionDocument)
  | any (members : List ConditionDocument)
  | negation (inner : ConditionDocument)
  | regex (pattern : String) (flags : Nat)
  | glob (text : String) (caseSensitive : Bool)
  | currentTime (start finish : Option DateFields)
  | nameTime (start finish : Option DateFields) (pattern format : String)
deriving Repr

/-- A rule as a document states it. -/
inductive RuleDocument where
  | default
  | clips (condition : Option ConditionDocument) (pre post : List String)
  | list (rules : List RuleDocument) (condition : Option ConditionDocument)
deriving Repr

/-! ## Dates -/

namespace Document.DateFields

/-- A year as it is stored. -/
def yearOf : Json → Option Int := integerOf (-2147483648) 2147483647

/-- A part of a date other than the year. -/
def partOf : Json → Option Nat := naturalOf 32

/-- A date with its time of day. In an array all parts have to be there. -/
def full? (value : Json) : Option DateFields := do
  let fields ← recordOf
    ["year", "month", "day", "hour", "minute", "second", "microsecond"] value
  return {
    year := ← required fields "year" yearOf
    month := ← required fields "month" partOf
    day := ← required fields "day" partOf
    hour := ← required fields "hour" partOf
    minute := ← required fields "minute" partOf
    second := ← required fields "second" partOf
    microsecond := ← required fields "microsecond" partOf }

/-- A date alone, which stands for its start. -/
def plain? (value : Json) : Option DateFields := do
  let fields ← recordOf ["year", "month", "day"] value
  return {
    year := ← required fields "year" yearOf
    month := ← required fields "month" partOf
    day := ← required fields "day" partOf
    hour := 0, minute := 0, second := 0, microsecond := 0 }

/-- What an object holds under a name. -/
def wrapped? (name : String) (read : Json → Option DateFields) : Json → Option DateFields
  | .object members => do required (← fieldsOfMembers [name] members) name read
  | _ => none

/-- A date in the first of its forms that fits: with a time of day, without, or either of them
under a name. -/
def ofJson? (room : Nat) (value : Json) : Option DateFields :=
  if value.fits room then
    full? value <|> plain? value <|> wrapped? "datetime" full? value <|>
      wrapped? "date" plain? value
  else none

/-- A date as a document states it. -/
def toJson (d : DateFields) : Json :=
  let field (name : String) (n : Int) : Option String × Json :=
    (some name, .number (.integer n))
  .object [field "year" d.year, field "month" d.month, field "day" d.day, field "hour" d.hour,
    field "minute" d.minute, field "second" d.second, field "microsecond" d.microsecond]

end Document.DateFields

/-! ## Conditions -/

namespace ConditionDocument

/-- The pattern that finds a date in a name, where a document gives none. -/
def defaultPattern : String := "\\d\x7b6\x7d"

/-- The format that reads a date in a name, where a document gives none. -/
def defaultFormat : String := "%m%d%y"

/-- A condition that a value states. -/
def ofJson? : (room : Nat) → Json → Option ConditionDocument
  | 0, _ => none
  | 1, _ => none
  | room + 2, value => do
    let (name, content) ← choiceOf value
    match name with
    | "And" =>
      let fields ← recordOf ["submatchers"] content
      match room with
      | 0 => none
      | room + 1 =>
        let items ← required fields "submatchers" itemsOf
        return .all (← items.mapM (ofJson? room))
    | "Or" =>
      let fields ← recordOf ["submatchers"] content
      match room with
      | 0 => none
      | room + 1 =>
        let items ← required fields "submatchers" itemsOf
        return .any (← items.mapM (ofJson? room))
    | "Not" =>
      let fields ← recordOf ["matcher"] content
      return .negation (← required fields "matcher" (ofJson? room))
    | "RegexMatcher" =>
      let fields ← recordOf ["regex", "flags"] content
      return .regex (← required fields "regex" textOf)
        (← withDefault fields "flags" (naturalOf 32) 0)
    | "GlobMatcher" =>
      let fields ← recordOf ["pattern", "casesensitive"] content
      return .glob (← required fields "pattern" textOf)
        (← withDefault fields "casesensitive" boolOf true)
    | "CurrentTimeMatch" =>
      let fields ← recordOf ["start", "end"] content
      return .currentTime (← optionalField fields "start" (DateFields.ofJson? room))
        (← optionalField fields "end" (DateFields.ofJson? room))
    | "FileTimeMatch" =>
      let fields ← recordOf ["start", "end", "dateregex", "dateformat"] content
      return .nameTime (← optionalField fields "start" (DateFields.ofJson? room))
        (← optionalField fields "end" (DateFields.ofJson? room))
        (← withDefault fields "dateregex" textOf defaultPattern)
        (← withDefault fields "dateformat" textOf defaultFormat)
    | _ => none

/-- The member of a choice. -/
def choice (name : String) (fields : List (Option String × Json)) : Json :=
  .object [(some name, .object fields)]

/-- The member for a bound, unless it is open. -/
def bound (name : String) : Option DateFields → List (Option String × Json)
  | none => []
  | some date => [(some name, date.toJson)]

mutual

/-- The value that states a condition. -/
def toJson : ConditionDocument → Json
  | all members => choice "And" [(some "submatchers", .array (toJsons members))]
  | any members => choice "Or" [(some "submatchers", .array (toJsons members))]
  | negation inner => choice "Not" [(some "matcher", toJson inner)]
  | regex pattern flags =>
    choice "RegexMatcher"
      [(some "regex", .string pattern), (some "flags", .number (.integer flags))]
  | glob text caseSensitive =>
    choice "GlobMatcher"
      [(some "pattern", .string text), (some "casesensitive", .bool caseSensitive)]
  | currentTime start finish =>
    choice "CurrentTimeMatch" (bound "start" start ++ bound "end" finish)
  | nameTime start finish pattern format =>
    choice "FileTimeMatch" (bound "start" start ++ bound "end" finish ++
      [(some "dateregex", .string pattern), (some "dateformat", .string format)])

/-- The values that state some conditions. -/
def toJsons : List ConditionDocument → List Json
  | [] => []
  | condition :: rest => toJson condition :: toJsons rest

end

/-- The value that states a condition, or `null`. -/
def optionalToJson : Option ConditionDocument → Json
  | none => .null
  | some condition => condition.toJson

end ConditionDocument

/-! ## Rules -/

namespace RuleDocument

/-- A rule that a value states. -/
def ofJson? : (room : Nat) → Json → Option RuleDocument
  | 0, _ => none
  | 1, _ => none
  | room + 2, value => do
    let (name, content) ← choiceOf value
    match name with
    | "RuleList" =>
      let fields ← recordOf ["rules", "cond"] content
      match room with
      | 0 => none
      | inner + 1 =>
        let items ← required fields "rules" itemsOf
        return .list (← items.mapM (ofJson? inner))
          (← optionalField fields "cond" (ConditionDocument.ofJson? room))
    | "DefaultRule" =>
      let _ ← recordOf [] content
      return .default
    | "MatchRule" =>
      let fields ← recordOf ["matcher", "pre", "post"] content
      return .clips (← optionalField fields "matcher" (ConditionDocument.ofJson? room))
        (← withDefault fields "pre" (textsOf room) [])
        (← withDefault fields "post" (textsOf room) [])
    | _ => none

/-- The value for some clips. -/
def clipsToJson (clips : List String) : Json := .array (clips.map fun clip => .string (some clip))

mutual

/-- The value that states a rule. -/
def toJson : RuleDocument → Json
  | default => ConditionDocument.choice "DefaultRule" []
  | clips condition pre post =>
    ConditionDocument.choice "MatchRule"
      [(some "matcher", ConditionDocument.optionalToJson condition),
        (some "pre", clipsToJson pre), (some "post", clipsToJson post)]
  | list rules condition =>
    ConditionDocument.choice "RuleList"
      [(some "rules", .array (toJsons rules)),
        (some "cond", ConditionDocument.optionalToJson condition)]

/-- The values that state some rules. -/
def toJsons : List RuleDocument → List Json
  | [] => []
  | rule :: rest => toJson rule :: toJsons rest

end

end RuleDocument

end ClipSplice
