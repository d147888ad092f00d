import ClipSplice.Rule.Condition
import ClipSplice.Rule.Symbol
import ClipSplice.Rule.Template

/-!
# Rules

A rule makes a playlist for a name, or does not apply to it. A list of rules is as good as the first
of them that applies.
-/

namespace ClipSplice

/-- A rule. -/
inductive Rule where
  /-- Plays the file alone. -/
  | default
  /-- Plays clips before and after the file if the condition holds. -/
  | clips (condition : Option Condition) (pre post : List String)
  /-- The first rule that applies, if the condition holds. -/
  | list (condition : Option Condition) (rules : List Rule)

namespace Rule

/-- The condition of a rule. -/
def condition? : Rule → Option Condition
  | default => none
  | clips condition _ _ => condition
  | list condition _ => condition

/-! ## Playlists -/

/-- How a condition that may be missing holds. -/
def guard (condition : Option Condition) (name : String) (now : Instant) : Option Outcome :=
  match condition with
  | none => some .plain
  | some condition => condition.check name now

/-- The clip of a template. -/
def clipOf (outcome : Outcome) (template : String) : Symbol :=
  match outcome with
  | .plain => .clip template
  | .captured found => .clip (expandTemplate found template)

mutual

/-- The playlist for a name, if the rule applies at an instant. -/
def playlist? (name : String) (now : Instant) : Rule → Option (List Symbol)
  | default => some [.original name]
  | clips condition pre post =>
    (guard condition name now).map fun outcome =>
      pre.map (clipOf outcome) ++ .original name :: post.map (clipOf outcome)
  | list condition rules =>
    if (guard condition name now).isSome then firstPlaylist? name now rules else none

/-- The playlist of the first rule that applies. -/
def firstPlaylist? (name : String) (now : Instant) : List Rule → Option (List Symbol)
  | [] => none
  | rule :: rest => playlist? name now rule <|> firstPlaylist? name now rest

end

/-! ## As text -/

/-- A list of clips as text, under a name. -/
def displayClips (name : String) (templates : List String) : String :=
  name ++ ": [" ++ ", ".intercalate (templates.map Text.quoted) ++ "]"

/-- A condition in front of a rule. -/
def displayGuard : Option Condition → String
  | none => ""
  | some condition => condition.display ++ ": "

mutual

/-- A rule as text. -/
def display : Rule → String
  | default => "default"
  | clips condition pre post =>
    displayGuard condition ++ displayClips "pre" pre ++ " " ++ displayClips "post" post
  | list condition rules =>
    displayGuard condition ++ "[" ++ ", ".intercalate (displays rules) ++ "]"

/-- Some rules as texts. -/
def displays : List Rule → List String
  | [] => []
  | rule :: rest => display rule :: displays rest

end

end Rule

end ClipSplice
