import ClipSplice.Document.Basic
import ClipSplice.Json.Reader
import ClipSplice.Json.Writer
import ClipSplice.Rule.Basic

/-!
# What a rule document means

`Rule.ofJson` reads a rule from the text of a document, and `Rule.toJson` writes one. The ends of
the calendar are written by leaving the bound out; the first instant of the year 1 and the last
microsecond of the year 9999 are read as open bounds, too.
-/

namespace ClipSplice

open Document

/-! ## Writing -/

/-- The parts of an instant, to the microsecond. -/
def Document.DateFields.ofInstant (t : Instant) : DateFields where
  year := t.date.year
  month := t.date.month
  day := t.date.day
  hour := t.hour
  minute := t.minute
  second := t.secondOfMinute
  microsecond := t.nano / nanosPerMicrosecond

/-- A bound of a time range, which is open where it equals `extreme`. -/
def boundDocument (t extreme : Instant) : Option DateFields :=
  if t = extreme then none else some (.ofInstant t)

mutual

/-- The document of a condition. -/
def Condition.toDocument : Condition → ConditionDocument
  | .all members => .all (Condition.toDocuments members)
  | .any members => .any (Condition.toDocuments members)
  | .negation inner => .negation (Condition.toDocument inner)
  | .regex r => .regex r.pattern r.flags.bits
  | .glob g => .glob g.text g.caseSensitive
  | .during range =>
    let start := boundDocument range.start .first
    let finish := boundDocument range.finish .last
    match range.source with
    | .now => .currentTime start finish
    | .embedded pattern => .nameTime start finish pattern.pattern pattern.format

/-- The documents of some conditions. -/
def Condition.toDocuments : List Condition → List ConditionDocument
  | [] => []
  | condition :: rest => Condition.toDocument condition :: Condition.toDocuments rest

end

mutual

/-- The document of a rule. -/
def Rule.toDocument : Rule → RuleDocument
  | .default => .default
  | .clips condition pre post => .clips (condition.map Condition.toDocument) pre post
  | .list condition rules =>
    .list (Rule.toDocuments rules) (condition.map Condition.toDocument)

/-- The documents of some rules. -/
def Rule.toDocuments : List Rule → List RuleDocument
  | [] => []
  | rule :: rest => Rule.toDocument rule :: Rule.toDocuments rest

end

/-- The text of the document of a rule. -/
def Rule.toJson (rule : Rule) : String := rule.toDocument.toJson.toText

/-! ## Reading -/

/-- The instant that stands for an open start: the first of the year 1. -/
def openStart? : Option Instant := (Date.ofYmd? 1 1 1).map .midnight

/-- The instant that stands for an open end: the last microsecond of the year 9999. -/
def openFinish? : Option Instant :=
  (Date.ofYmd? 9999 12 31).bind fun day => Instant.ofTime? day 23 59 59 999999000

/-- The end of the calendar in place of an instant that stands for an open bound. -/
def widened (t : Instant) : Instant :=
  if some t = openStart? then .first
  else if some t = openFinish? then .last
  else t

/-- The instant that a date states. -/
def Document.DateFields.instant? (d : DateFields) : Option Instant :=
  (Date.ofYmd? d.year d.month d.day).bind fun day =>
    Instant.ofTime? day d.hour d.minute d.second (d.microsecond * nanosPerMicrosecond)

/-- A bound of a time range; one that is missing is `extreme`. -/
def boundOf (extreme : Instant) : Option DateFields → Except Document.Fault Instant
  | none => .ok extreme
  | some date =>
    match date.instant? with
    | some t => .ok (widened t)
    | none => .error (.invalidDate date)

/-- A pattern that was understood, or the fault. -/
def orInvalid {α : Type} (pattern : String) : Option α → Except Document.Fault α
  | some value => .ok value
  | none => .error (.invalidRegex pattern)

mutual

/-- The condition that a document states. -/
def ConditionDocument.toCondition : ConditionDocument → Except Document.Fault Condition
  | .all members => do return .all (← ConditionDocument.toConditions members)
  | .any members => do return .any (← ConditionDocument.toConditions members)
  | .negation inner => do return .negation (← ConditionDocument.toCondition inner)
  | .regex pattern flags =>
    match RegexFlags.ofBits? flags with
    | none => .error (.unknownFlags flags)
    | some flags => do return .regex (← orInvalid pattern (AnchoredRegex.new? pattern flags))
  | .glob text caseSensitive => do
    return .glob (← orInvalid text (Glob.new? text caseSensitive))
  | .currentTime start finish => do
    let start ← boundOf .first start
    let finish ← boundOf .last finish
    return .during { start, finish }
  | .nameTime start finish pattern format => do
    let pattern ← orInvalid pattern (DatePattern.new? pattern format)
    let start ← boundOf .first start
    let finish ← boundOf .last finish
    return .during { start, finish, source := .embedded pattern }

/-- The conditions that some documents state. -/
def ConditionDocument.toConditions :
    List ConditionDocument → Except Document.Fault (List Condition)
  | [] => .ok []
  | document :: rest => do
    return (← ConditionDocument.toCondition document) :: (← ConditionDocument.toConditions rest)

end

/-- The condition that a document states, if there is one. -/
def guardOfDocument : Option ConditionDocument → Except Document.Fault (Option Condition)
  | none => .ok none
  | some document => do return some (← document.toCondition)

mutual

/-- The rule that a document states. -/
def RuleDocument.toRule : RuleDocument → Except Document.Fault Rule
  | .default => .ok .default
  | .clips condition pre post => do return .clips (← guardOfDocument condition) pre post
  | .list rules condition => do
    let condition ← guardOfDocument condition
    return .list condition (← RuleDocument.toRules rules)

/-- The rules that some documents state. -/
def RuleDocument.toRules : List RuleDocument → Except Document.Fault (List Rule)
  | [] => .ok []
  | document :: rest => do
    return (← RuleDocument.toRule document) :: (← RuleDocument.toRules rest)

end

/-- The rule in the text of a document. The whole document has to be well formed before its
patterns and dates are looked at. -/
def Rule.ofJson (text : String) : Except Document.Fault Rule :=
  match (Json.ofText? text).bind (RuleDocument.ofJson? depthLimit) with
  | some document => document.toRule
  | none => .error .malformed

end ClipSplice
