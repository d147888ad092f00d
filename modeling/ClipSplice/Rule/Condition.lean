import ClipSplice.Rule.AnchoredRegex
import ClipSplice.Rule.Glob
import ClipSplice.Rule.TimeRange
import ClipSplice.Text.Quoted

/-!
# Conditions

A condition holds for a name at an instant or does not. When it holds because a regular expression
matched, what its groups took can be used in the clips of a rule; `Condition.check` says which
match that is. Lists without members never hold.
-/

namespace ClipSplice

/-- A condition on names. -/
inductive Condition where
  | regex (regex : AnchoredRegex)
  | glob (glob : Glob)
  /-- All members hold; the match of the last one counts. -/
  | all (members : List Condition)
  /-- A member holds; the match of the first that does counts. -/
  | any (members : List Condition)
  | negation (inner : Condition)
  | during (range : TimeRange)

/-- How a condition came to hold. -/
inductive Outcome where
  | plain
  | captured (found : Regex.Match)

namespace Condition

/-! ## Building -/

/-- Both conditions; a list of conditions that must all hold is made longer. -/
def and : Condition → Condition → Condition
  | all members, other => all (members ++ [other])
  | first, other => all [first, other]

/-- One of two conditions; a list of conditions of which one must hold is made longer. -/
def or : Condition → Condition → Condition
  | any members, other => any (members ++ [other])
  | first, other => any [first, other]

/-! ## Checking -/

mutual

/-- How the condition holds for a name at an instant, if it does. -/
def check (name : String) (now : Instant) : Condition → Option Outcome
  | regex r => (r.regex.find? name).map .captured
  | glob g => if g.isMatch name then some .plain else none
  | all members => checkAll name now members
  | any members => checkAny name now members
  | negation inner => if (check name now inner).isSome then none else some .plain
  | during range => if range.holds name now then some .plain else none

/-- How the last of some conditions holds, if all do. -/
def checkAll (name : String) (now : Instant) : List Condition → Option Outcome
  | [] => none
  | [condition] => check name now condition
  | condition :: rest =>
    if (check name now condition).isSome then checkAll name now rest else none

/-- How the first of some conditions that holds does so. -/
def checkAny (name : String) (now : Instant) : List Condition → Option Outcome
  | [] => none
  | condition :: rest => check name now condition <|> checkAny name now rest

end

/-- Whether the condition holds. -/
def holds (condition : Condition) (name : String) (now : Instant) : Bool :=
  (condition.check name now).isSome

theorem checkAll_isSome (name : String) (now : Instant) (members : List Condition) :
    (checkAll name now members).isSome = (!members.isEmpty && members.all (holds · name now)) := by
  induction members with
  | nil => rw [checkAll]; rfl
  | cons condition rest ih =>
    cases rest with
    | nil => rw [checkAll]; simp [holds]
    | cons next rest =>
      rw [checkAll]
      · by_cases h : (check name now condition).isSome = true
        · rw [if_pos h, ih]
          simp [holds, h]
        · rw [if_neg h]
          simp [holds, h]
      · simp

theorem checkAny_isSome (name : String) (now : Instant) (members : List Condition) :
    (checkAny name now members).isSome = members.any (holds · name now) := by
  induction members with
  | nil => rw [checkAny]; rfl
  | cons condition rest ih =>
    rw [checkAny, List.any_cons, ← ih, holds]
    cases check name now condition <;> simp

/-- A list of conditions that must all hold does hold when it has members and all of them hold. -/
theorem holds_all (members : List Condition) (name : String) (now : Instant) :
    (all members).holds name now = (!members.isEmpty && members.all (holds · name now)) := by
  rw [holds, check, checkAll_isSome]

/-- A list of conditions of which one must hold does hold when one of them holds. -/
theorem holds_any (members : List Condition) (name : String) (now : Instant) :
    (any members).holds name now = members.any (holds · name now) := by
  rw [holds, check, checkAny_isSome]

theorem holds_negation (inner : Condition) (name : String) (now : Instant) :
    (negation inner).holds name now = !inner.holds name now := by
  rw [holds, check, holds]
  cases check name now inner <;> rfl

/-! ## As text -/

mutual

/-- A condition as text. -/
def display : Condition → String
  | regex r => "regex:" ++ Text.quoted r.pattern
  | glob g => Text.quoted g.text ++ if g.caseSensitive then "" else " [I]"
  | all members => "and(" ++ ", ".intercalate (displays members) ++ ")"
  | any members => "or(" ++ ", ".intercalate (displays members) ++ ")"
  | negation inner => "not(" ++ display inner ++ ")"
  | during range => range.start.display ++ " .. " ++ range.finish.display

/-- Some conditions as texts. -/
def displays : List Condition → List String
  | [] => []
  | condition :: rest => display condition :: displays rest

end

end Condition

end ClipSplice
