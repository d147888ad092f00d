import ClipSplice.Regex.Search

/-!
# Regular expressions

A `Regex` is a pattern that can be searched for. `Regex.find?` gives the first match of a text,
with what its groups have taken.
-/

namespace ClipSplice

/-- A pattern that has been read and understood. -/
structure Regex where
  pattern : String
  program : Regex.Node
  /-- The number of capture groups. -/
  groups : Nat
  /-- The named groups with their numbers. -/
  names : List (String × Nat)
deriving Repr, DecidableEq

namespace Regex

/-- Read a pattern; nothing is given for a text that is none. -/
def ofPattern? (pattern : String) (caseInsensitive : Bool := false) : Option Regex := do
  let read ← Pattern.ofText? pattern.toList
  let (program, _) ← (Tree.capture 0 read.tree).toNode? { caseInsensitive }
  if !(program.size + .frame).fits then none
  return ⟨pattern, (program.node.numbered 0).1, read.captures, read.names⟩

/-- A match: the text that was searched, and the positions at which the groups begin and end. Group
`i` lies between the marks `2 i` and `2 i + 1`, and group 0 is the whole match. -/
structure Match where
  subject : List Char
  marks : Marks
  names : List (String × Nat)
deriving Repr, DecidableEq

namespace Match

/-- What a group has taken, if it exists and took part in the match. -/
def group? (m : Match) (i : Nat) : Option String := do
  let first ← (← m.marks[2 * i]?)
  let last ← (← m.marks[2 * i + 1]?)
  return .ofList ((m.subject.drop first).take (last - first))

/-- What a group with a name has taken. -/
def named? (m : Match) (name : String) : Option String :=
  (m.names.lookup name).bind m.group?

/-- The whole text that was matched. -/
def text (m : Match) : String := (m.group? 0).getD ""

end Match

/-- The first match in a text. -/
def find? (regex : Regex) (text : String) : Option Match :=
  (search regex.program (List.replicate (2 * regex.groups + 2) none) none 0 text.toList).map
    fun marks => ⟨text.toList, marks, regex.names⟩

/-- Whether there is a match in a text. -/
def isMatch (regex : Regex) (text : String) : Bool := (regex.find? text).isSome

/-- The pattern that matches a character and nothing else. -/
def escapeChar (c : Char) : List Char := if isMeta c then ['\\', c] else [c]

end Regex

end ClipSplice
