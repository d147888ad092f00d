import ClipSplice.Regex.SetReader
import ClipSplice.Unicode.Addition

/-!
# Reading patterns

`Pattern.ofText?` reads a pattern from left to right. Groups that are still open are kept on a
stack, innermost first; each closing parenthesis completes the innermost. A text that is not a
pattern gives nothing.
-/

namespace ClipSplice.Regex

/-- A pattern that has been read. -/
structure Pattern where
  tree : Tree
  /-- The number of capture groups. -/
  captures : Nat
  /-- The named groups with their numbers. -/
  names : List (String × Nat)
deriving Repr, DecidableEq

/-- What an open group becomes when it is closed. -/
inductive GroupKind where
  | plain (changes : FlagChanges)
  | capture (index : Nat)

/-- A group whose end has not been read. -/
structure OpenGroup where
  kind : GroupKind
  /-- The pieces in front of the group, the last one first. -/
  pieces : List Tree
  /-- The alternatives in front of those pieces, the last one first. -/
  alternatives : List Tree
  /-- Whether spacing is free outside the group. -/
  free : Bool

/-- How far the reading of a pattern has come. -/
structure PatternReader where
  free : Bool := false
  captures : Nat := 0
  names : List (String × Nat) := []
  /-- The pieces of the current alternative, the last one first. -/
  pieces : List Tree := []
  /-- The alternatives of the innermost group, the last one first. -/
  alternatives : List Tree := []
  groups : List OpenGroup := []

namespace PatternReader

/-- Add a piece. -/
def push (r : PatternReader) (piece : Tree) : PatternReader :=
  { r with pieces := piece :: r.pieces }

/-- What has been read of the innermost group. -/
def inner (r : PatternReader) : Tree :=
  .ofAlternatives (r.alternatives.reverse ++ [.ofPieces r.pieces.reverse])

/-- Begin the next alternative. -/
def alternate (r : PatternReader) : PatternReader :=
  { r with pieces := [], alternatives := .ofPieces r.pieces.reverse :: r.alternatives }

/-- Begin a group. -/
def openGroup (r : PatternReader) (kind : GroupKind) (free : Bool) : PatternReader :=
  { r with
    free, pieces := [], alternatives := []
    groups := ⟨kind, r.pieces, r.alternatives, r.free⟩ :: r.groups }

/-- End the innermost group. -/
def closeGroup? (r : PatternReader) : Option PatternReader :=
  match r.groups with
  | [] => none
  | group :: groups =>
    let tree := match group.kind with
      | .plain changes => .group changes r.inner
      | .capture index => .capture index r.inner
    some { r with
      free := group.free, pieces := tree :: group.pieces
      alternatives := group.alternatives, groups }

/-- Repeat the last piece; there has to be one, and flags are none. -/
def repeatLast? (r : PatternReader) (least : Nat) (most : Option Nat) (greedy : Bool) :
    Option PatternReader :=
  match r.pieces with
  | [] => none
  | .flags _ :: _ => none
  | piece :: pieces => some { r with pieces := .repetition least most greedy piece :: pieces }

end PatternReader

/-! ## Groups -/

/-- Whether a character is a letter in the wide sense. -/
def isAlphabetic (c : Char) : Bool :=
  if c.toNat < 0x80 then c.isAlpha
  else BinaryProperty.holds "alphabetic" c || Addition.alphabetic.contains c

/-- Whether a character belongs to a number. -/
def isNumeric (c : Char) : Bool :=
  Category.anyOf Category.numbers c || Addition.numbers.contains c

/-- Whether a character may stand in the name of a group. -/
def isNameChar (first : Bool) (c : Char) : Bool :=
  c = '_' || isAlphabetic c || (!first && (c = '.' || c = '[' || c = ']' || isNumeric c))

/-- Whether a text is the name of a group. -/
def isGroupName : List Char → Bool
  | [] => false
  | c :: rest => isNameChar true c && rest.all (isNameChar false)

/-- The flag of a letter. -/
def Flag.ofLetter? : Char → Option Flag
  | 'i' => some .caseInsensitive
  | 'm' => some .multiLine
  | 's' => some .dotMatchesNewLine
  | 'U' => some .swapGreed
  | 'u' => some .unicode
  | 'R' => some .carriageReturns
  | 'x' => some .ignoreBlanks
  | _ => none

/-- What a list of changes makes of a flag. -/
def FlagChanges.apply (changes : FlagChanges) (flag : Flag) (before : Bool) : Bool :=
  ((changes.find? fun change => change.1 = flag).map Prod.snd).getD before

/-- Flags up to a colon or closing parenthesis, which is given with them. No flag may be named
twice, and there is at most one hyphen, with a flag behind it. -/
def readFlags (changes : FlagChanges) (cleared dangling : Bool) :
    List Char → Option (FlagChanges × Char × List Char)
  | [] => none
  | c :: rest =>
    if c = ':' || c = ')' then
      if dangling then none else some (changes.reverse, c, rest)
    else if c = '-' then
      if cleared then none else readFlags changes true true rest
    else
      match Flag.ofLetter? c with
      | none => none
      | some flag =>
        if changes.any fun change => change.1 = flag then none
        else readFlags ((flag, !cleared) :: changes) cleared false rest

/-- A capture group with a name, which reaches up to `>`. -/
def readNamedGroup (r : PatternReader) (text : List Char) :
    Option (PatternReader × List Char) := do
  let (name, after) ← Text.cut? '>' text
  let name' := String.ofList name
  if !isGroupName name || r.names.any fun entry => entry.1 = name' then none
  let index := r.captures + 1
  let r := { r with captures := index, names := (name', index) :: r.names }
  return (r.openGroup (.capture index) r.free, after)

/-- The beginning of a group behind its parenthesis, or a setting of flags. -/
def readGroup (r : PatternReader) (text : List Char) : Option (PatternReader × List Char) :=
  match skip r.free text with
  | '?' :: 'P' :: '<' :: rest => readNamedGroup r rest
  | '?' :: '=' :: _ => none
  | '?' :: '!' :: _ => none
  | '?' :: '<' :: '=' :: _ => none
  | '?' :: '<' :: '!' :: _ => none
  | '?' :: '<' :: rest => readNamedGroup r rest
  | '?' :: rest => do
    let (changes, last, after) ← readFlags [] false false rest
    let free := changes.apply .ignoreBlanks r.free
    if last = ':' then return (r.openGroup (.plain changes) free, after)
    else if changes.isEmpty then none
    else return ({ r with free }.push (.flags changes), after)
  | rest =>
    let index := r.captures + 1
    some ({ r with captures := index }.openGroup (.capture index) r.free, rest)

/-! ## Repetitions -/

/-- Decimal digits with free spacing between them. -/
def takeDigits (free inComment : Bool) : List Char → List Char × List Char
  | [] => ([], [])
  | c :: rest =>
    if inComment then takeDigits free (c ≠ '\n') rest
    else if free && isBlank c then takeDigits free false rest
    else if free && c = '#' then takeDigits free true rest
    else if c.isDigit then
      let (digits, after) := takeDigits free false rest
      (c :: digits, after)
    else ([], c :: rest)

/-- Blanks, which may stand around the numbers between braces in any case. -/
def skipBlanks (free : Bool) (text : List Char) : List Char :=
  skip free (text.dropWhile isBlank)

/-- A number below 2^32, with blanks around it. -/
def readCount (free : Bool) (text : List Char) : Option Nat × List Char :=
  let (digits, after) := takeDigits free false (text.dropWhile isBlank)
  let n := Nat.ofDigitChars 10 digits 0
  (if digits.isEmpty || Nat.pow 2 32 ≤ n then none else some n, skipBlanks free after)

/-- A lazy mark behind a repetition: whether the repetition is greedy, and the text after it. -/
def readGreed : List Char → Bool × List Char
  | '?' :: rest => (false, rest)
  | rest => (true, rest)

/-- The bounds of a repetition behind its opening brace, up to and with the closing one. -/
def readBounds (free : Bool) (text : List Char) : Option (Nat × Option Nat × List Char) := do
  let (least, after) := readCount free (skip free text)
  let least ← least
  match after with
  | ',' :: rest =>
    match skip free rest with
    | '\x7d' :: rest => return (least, none, rest)
    | rest =>
      let (most, after) := readCount free rest
      let most ← most
      match after with
      | '\x7d' :: rest => if least ≤ most then return (least, some most, rest) else none
      | _ => none
  | '\x7d' :: rest => return (least, some least, rest)
  | _ => none

/-! ## Patterns -/

/-- One step of reading: the next character `c` with the text behind it. -/
def readPiece (r : PatternReader) (c : Char) (rest : List Char) :
    Option (PatternReader × List Char) :=
  match c with
  | '(' => readGroup r rest
  | ')' => r.closeGroup?.map fun r => (r, rest)
  | '|' => some (r.alternate, rest)
  | '[' => (readSet r.free rest).map fun (set, after) =>
      (r.push (.bracket set.negated set.inner), after)
  | '?' =>
    let (greedy, after) := readGreed rest
    (r.repeatLast? 0 (some 1) greedy).map fun r => (r, after)
  | '*' =>
    let (greedy, after) := readGreed rest
    (r.repeatLast? 0 none greedy).map fun r => (r, after)
  | '+' =>
    let (greedy, after) := readGreed rest
    (r.repeatLast? 1 none greedy).map fun r => (r, after)
  | '\x7b' =>
    match readBounds r.free rest with
    | none => none
    | some (least, most, after) =>
      let (greedy, after) := readGreed (skip r.free after)
      (r.repeatLast? least most greedy).map fun r => (r, after)
  | '\\' => (readEscape r.free rest).map fun (escape, after) => (r.push escape.toTree, after)
  | '.' => some (r.push .dot, rest)
  | '^' => some (r.push (.anchor .lineStart), rest)
  | '$' => some (r.push (.anchor .lineEnd), rest)
  | c => some (r.push (.literal ⟨c, false⟩), rest)

/-- Read to the end of the text. Every step takes at least one character, so that as much fuel as
there are characters is enough. -/
def readPieces (r : PatternReader) : (fuel : Nat) → List Char → Option PatternReader
  | fuel, text =>
    match skip r.free text with
    | [] => some r
    | c :: rest =>
      match fuel with
      | 0 => none
      | fuel + 1 =>
        match readPiece r c rest with
        | none => none
        | some (r, after) => readPieces r fuel after

/-- How deep a pattern may be nested. -/
def depthLimit : Nat := 250

/-- The pattern that a text writes. -/
def Pattern.ofText? (text : List Char) : Option Pattern := do
  let r ← readPieces {} text.length text
  if !r.groups.isEmpty || r.inner.depth > depthLimit then none
  return ⟨r.inner, r.captures, r.names.reverse⟩

end ClipSplice.Regex
