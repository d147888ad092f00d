import ClipSplice.Regex.CharClass

/-!
# Patterns as trees

The structure of a regular expression as it is written, before the flags in it are applied.
-/

namespace ClipSplice.Regex

/-- The classes that have a letter of their own. -/
inductive LetterClass where
  | digit
  | space
  | word
deriving Repr, DecidableEq

/-- A character that stands for itself. -/
structure Literal where
  char : Char
  /-- It is written by two hexadecimal digits, which name a byte where characters are bytes. -/
  twoDigits : Bool := false
deriving Repr, DecidableEq

/-- The operations on sets between brackets. -/
inductive SetOperation where
  | intersection
  | difference
  | symmetricDifference
deriving Repr, DecidableEq

/-- What stands between brackets. -/
inductive SetTree where
  | empty
  | literal (l : Literal)
  | range (low high : Literal)
  | ascii (set : CharClass) (negated : Bool)
  | letter (set : LetterClass) (negated : Bool)
  | property (query : PropertyQuery) (negated : Bool)
  | bracket (negated : Bool) (inner : SetTree)
  | union (a b : SetTree)
  | operation (op : SetOperation) (a b : SetTree)
deriving Repr, DecidableEq

/-- Places that match without a character. -/
inductive Anchor where
  | lineStart
  | lineEnd
  | textStart
  | textEnd
  | wordBoundary
  | notWordBoundary
  | wordStart
  | wordEnd
  /-- No word character in front. -/
  | wordStartHalf
  /-- No word character behind. -/
  | wordEndHalf
deriving Repr, DecidableEq

/-- The flags that a pattern can set and clear. -/
inductive Flag where
  | caseInsensitive
  | multiLine
  | dotMatchesNewLine
  | swapGreed
  | unicode
  /-- Lines may end in a carriage return as well. -/
  | carriageReturns
  | ignoreBlanks
deriving Repr, DecidableEq

/-- Flags that are set (`true`) or cleared (`false`). -/
abbrev FlagChanges := List (Flag × Bool)

/-- A pattern. -/
inductive Tree where
  | empty
  | flags (changes : FlagChanges)
  | literal (l : Literal)
  | dot
  | anchor (a : Anchor)
  | letter (set : LetterClass) (negated : Bool)
  | property (query : PropertyQuery) (negated : Bool)
  | bracket (negated : Bool) (inner : SetTree)
  /-- Repetition from `least` up to `most` times. -/
  | repetition (least : Nat) (most : Option Nat) (greedy : Bool) (inner : Tree)
  | group (changes : FlagChanges) (inner : Tree)
  | capture (index : Nat) (inner : Tree)
  | concat (first rest : Tree)
  | alternation (first rest : Tree)
deriving Repr, DecidableEq

namespace SetTree

/-- How deep a set is nested. Sets joined without an operation count as one level. -/
def depth : SetTree → Nat
  | bracket _ inner => inner.depth + 1
  | union a (union b c) => max (a.depth + 1) (union b c).depth
  | union a b => max a.depth b.depth + 1
  | operation _ a b => max a.depth b.depth + 1
  | _ => 0

end SetTree

namespace Tree

/-- How deep a pattern is nested. Pieces in a row, and alternatives in a row, count as one level. -/
def depth : Tree → Nat
  | bracket _ inner => inner.depth + 1
  | repetition _ _ _ inner => inner.depth + 1
  | group _ inner => inner.depth + 1
  | capture _ inner => inner.depth + 1
  | concat a (concat b c) => max (a.depth + 1) (concat b c).depth
  | concat a b => max a.depth b.depth + 1
  | alternation a (alternation b c) => max (a.depth + 1) (alternation b c).depth
  | alternation a b => max a.depth b.depth + 1
  | _ => 0

/-- Pieces in a row as one pattern. -/
def ofPieces : List Tree → Tree
  | [] => empty
  | [t] => t
  | t :: ts => concat t (ofPieces ts)

/-- Alternatives as one pattern. -/
def ofAlternatives : List Tree → Tree
  | [] => empty
  | [t] => t
  | t :: ts => alternation t (ofAlternatives ts)

end Tree

end ClipSplice.Regex
