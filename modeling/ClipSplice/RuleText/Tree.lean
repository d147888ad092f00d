import ClipSplice.Time.Comparison

/-!
# Rule texts as trees

The structure of a rule text before its options, dates and patterns are looked at. A place in the
text is marked by the number of bytes from there to the end.
-/

namespace ClipSplice.RuleText

/-- A date as it is written. -/
structure DateLiteral where
  month : Nat
  day : Nat
  year : Nat
  /-- Hour and minute. -/
  time : Option (Nat × Nat)
  text : String
deriving Repr, DecidableEq

/-- A span of time as it is written. -/
inductive DateSpan where
  | compare (comparison : Comparison) (date : DateLiteral)
  | between (first last : DateLiteral)
deriving Repr, DecidableEq

/-- An option of a condition: a word, perhaps with a value. -/
structure OptionTree where
  key : String
  value : Option String
  place : Nat
deriving Repr, DecidableEq

/-- A condition. -/
inductive ConditionTree where
  | all (members : List ConditionTree)
  | any (members : List ConditionTree)
  | negation (inner : ConditionTree)
  | regex (place : Nat) (pattern : String) (options : List OptionTree)
  | glob (place : Nat) (text : String) (options : List OptionTree)
  | date (place : Nat) (span : DateSpan) (options : List OptionTree)
deriving Repr

/-- The two kinds of clip lists. -/
inductive ClipSide where
  | pre
  | post
deriving Repr, DecidableEq

/-- The name of a clip list. -/
def ClipSide.name : ClipSide → String
  | pre => "pre"
  | post => "post"

/-- A clip list. -/
structure ClauseTree where
  side : ClipSide
  clips : List String
  place : Nat
deriving Repr, DecidableEq

/-- A rule. -/
inductive RuleTree where
  | default (condition : Option ConditionTree)
  | clips (condition : Option ConditionTree) (clauses : List ClauseTree)
  | list (condition : Option ConditionTree) (rules : List RuleTree)
deriving Repr

end ClipSplice.RuleText
