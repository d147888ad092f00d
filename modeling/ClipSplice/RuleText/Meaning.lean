import ClipSplice.Rule.Basic
import ClipSplice.RuleText.TreeReader

/-!
# What a rule text means

`Rule.ofText` reads a rule text and makes rules of its trees. On the way the options of conditions
are checked, and dates and patterns have to be valid. The first fault is reported at the place of
the option, clip list or condition that has it.
-/

namespace ClipSplice

theorem exists_of_bind_eq_ok {ε α β : Type} {found : Except ε α} {next : α → Except ε β} {b : β}
    (h : (found >>= next) = .ok b) : ∃ a, found = .ok a ∧ next a = .ok b := by
  cases found with
  | error fault => cases h
  | ok a => exact ⟨a, rfl, h⟩

namespace RuleText

/-- The fault at a place of a source, which is marked by the number of bytes behind it. -/
def faultAt (source : String) (place : Nat) (cause : Cause) : Fault :=
  .atOffset source (Text.byteSize source.toList - place) cause

/-- A value that may be missing, or the fault. -/
def orFault {α : Type} (source : String) (place : Nat) (cause : Cause) :
    Option α → Except Fault α
  | some value => .ok value
  | none => .error (faultAt source place cause)

theorem eq_of_orFault {α : Type} {source : String} {place : Nat} {cause : Cause}
    {found : Option α} {value : α} (h : orFault source place cause found = .ok value) :
    found = some value := by
  cases found with
  | none => cases h
  | some a =>
    cases h
    rfl

/-! ## Options -/

/-- The flags of a regular expression. -/
def regexFlags (source : String) (flags : RegexFlags) : List OptionTree → Except Fault RegexFlags
  | [] => .ok flags
  | option :: rest =>
    match option.value, RegexFlags.ofLetter? option.key with
    | none, some flag => regexFlags source (flags.union flag) rest
    | _, _ => .error (faultAt source option.place (.illegalRegexOption option.key))

/-- Whether a glob distinguishes case. -/
def globCase (source : String) (caseSensitive : Bool) : List OptionTree → Except Fault Bool
  | [] => .ok caseSensitive
  | option :: rest =>
    if option.key = "I" ∧ option.value = none then globCase source false rest
    else .error (faultAt source option.place (.illegalGlobOption option.key))

/-- Refuse an option that was given before; `seen` are the keys so far. -/
def checkDuplicates (source : String) (seen : List String) : List OptionTree → Except Fault Unit
  | [] => .ok ()
  | option :: rest =>
    if seen.contains option.key then
      .error (faultAt source option.place (.duplicateOption option.key))
    else checkDuplicates source (option.key :: seen) rest

/-- What the options of a date say. -/
structure DateOptions where
  /-- `F` reads the date from the name, `T` reads the clock. -/
  source : Option String := none
  /-- The template of the date, with the place of its option. -/
  template : Option (Nat × String) := none

/-- Collect the options of a date. -/
def dateOptions (source : String) (found : DateOptions) :
    List OptionTree → Except Fault DateOptions
  | [] => .ok found
  | option :: rest =>
    if (option.key = "F" ∨ option.key = "T") ∧ option.value = none then
      match found.source with
      | some earlier =>
        .error (faultAt source option.place (.incompatibleOptions earlier option.key))
      | none => dateOptions source { found with source := some option.key } rest
    else
      match option.key, option.value with
      | "fmt", some template =>
        dateOptions source { found with template := some (option.place, template) } rest
      | _, _ => .error (faultAt source option.place (.unsupportedDateOption option.key))

/-- The pattern by which the options of a date at `place` say that it is read from a name. -/
def datePattern (source : String) (place : Nat) (options : List OptionTree) :
    Except Fault (Option DatePattern) := do
  checkDuplicates source [] options
  let found ← dateOptions source {} options
  match found.source, found.template with
  | some "F", some (_, template) =>
    return some (← orFault source place .invalidDateFormat (DatePattern.ofTemplate? template))
  | some "F", none =>
    return some (← orFault source place .invalidDateFormat DatePattern.standard?)
  | _, some (templatePlace, _) => .error (faultAt source templatePlace .strayTemplate)
  | _, none => return none

/-! ## Conditions -/

/-- The instant that a date literal names. -/
def DateLiteral.instant? (date : DateLiteral) : Option Instant :=
  let (hour, minute) := date.time.getD (0, 0)
  (Date.ofYmd? date.year date.month date.day).bind fun day =>
    Instant.ofTime? day hour minute 0 0

/-- The instant of a date literal in a condition at `place`. -/
def dateOf (source : String) (place : Nat) (date : DateLiteral) : Except Fault Instant :=
  orFault source place (.invalidDate date.text) date.instant?

/-- The range of a span of time in a condition at `place`. -/
def rangeOf (source : String) (place : Nat) : DateSpan → Except Fault TimeRange
  | .between first last => do
    let start ← dateOf source place first
    let finish ← dateOf source place last
    return { start, finish }
  | .compare comparison date => do
    let t ← dateOf source place date
    orFault source place (.invalidDate date.text) (TimeRange.compare? comparison t)

mutual

/-- The condition that a tree stands for. -/
def conditionOf (source : String) : ConditionTree → Except Fault Condition
  | .all members => do return .all (← conditionsOf source members)
  | .any members => do return .any (← conditionsOf source members)
  | .negation inner => do return .negation (← conditionOf source inner)
  | .regex place pattern options => do
    let flags ← regexFlags source .none options
    return .regex (← orFault source place .invalidRegex (AnchoredRegex.new? pattern flags))
  | .glob place text options => do
    let caseSensitive ← globCase source true options
    return .glob (← orFault source place .invalidGlob (Glob.new? text caseSensitive))
  | .date place span options => do
    let range ← rangeOf source place span
    match ← datePattern source place options with
    | some pattern => return .during (range.withPattern pattern)
    | none => return .during range

/-- The conditions that some trees stand for. -/
def conditionsOf (source : String) : List ConditionTree → Except Fault (List Condition)
  | [] => .ok []
  | tree :: rest => do return (← conditionOf source tree) :: (← conditionsOf source rest)

end

/-- The condition that a tree stands for, if there is a tree. -/
def guardOf (source : String) : Option ConditionTree → Except Fault (Option Condition)
  | none => .ok none
  | some tree => do return some (← conditionOf source tree)

/-! ## Rules -/

/-- The clips before and after the file. No list may be given twice. -/
def clipsOf (source : String) (pre post : Option (List String)) :
    List ClauseTree → Except Fault (List String × List String)
  | [] => .ok (pre.getD [], post.getD [])
  | clause :: rest =>
    let duplicate := Except.error (faultAt source clause.place (.duplicateClause clause.side.name))
    match clause.side with
    | .pre => if pre.isSome then duplicate else clipsOf source (some clause.clips) post rest
    | .post => if post.isSome then duplicate else clipsOf source pre (some clause.clips) rest

mutual

/-- The rule that a tree stands for. -/
def ruleOf (source : String) : RuleTree → Except Fault Rule
  | .default condition => do
    match ← guardOf source condition with
    | none => return .default
    | some condition => return .clips (some condition) [] []
  | .clips condition clauses => do
    let condition ← guardOf source condition
    let (pre, post) ← clipsOf source none none clauses
    return .clips condition pre post
  | .list condition rules => do
    let condition ← guardOf source condition
    return .list condition (← rulesOf source rules)

/-- The rules that some trees stand for. -/
def rulesOf (source : String) : List RuleTree → Except Fault (List Rule)
  | [] => .ok []
  | tree :: rest => do return (← ruleOf source tree) :: (← rulesOf source rest)

end

end RuleText

open RuleText in
/-- The rule that a text writes: a list of the rules in it. -/
def Rule.ofText (source : String) : Except RuleText.Fault Rule :=
  match readRules source.toList with
  | .done trees _ => do return .list none (← rulesOf source trees)
  | .miss labels rest => .error (faultAt source (Text.byteSize rest) (.expected labels))
  | .stop labels rest => .error (faultAt source (Text.byteSize rest) (.expected labels))

end ClipSplice
