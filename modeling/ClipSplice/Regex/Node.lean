import ClipSplice.Regex.Size
import ClipSplice.Regex.TreeReader

/-!
# What a pattern means

`Tree.toNode?` applies the flags of a pattern and spells out its counted repetitions. What is left
are nodes of nine kinds, each of them as simple to match as it can be, together with the room that
they take. A pattern means nothing when it asks for characters that are not encoded text, or when
there is no room for it.
-/

namespace ClipSplice.Regex

/-! ## Looking around -/

/-- The places of words that can be asked for. -/
inductive WordPlace where
  | boundary
  | inside
  | start
  | finish
  /-- Nothing of a word in front. -/
  | startHalf
  /-- Nothing of a word behind. -/
  | finishHalf
deriving Repr, DecidableEq

/-- A condition on the characters next to a position. -/
inductive Look where
  | textStart
  | textEnd
  | lineStart (carriageReturns : Bool)
  | lineEnd (carriageReturns : Bool)
  | word (place : WordPlace) (ascii : Bool)
deriving Repr, DecidableEq

/-- Whether the condition holds between two characters; there is none at the ends of the text. -/
def Look.holds : Look → (before after : Option Char) → Bool
  | textStart, before, _ => before.isNone
  | textEnd, _, after => after.isNone
  | lineStart carriageReturns, before, after =>
    before.isNone || before = some '\n' ||
      (carriageReturns && before = some '\r' && after ≠ some '\n')
  | lineEnd carriageReturns, before, after =>
    after.isNone || (after = some '\n' && !(carriageReturns && before = some '\r')) ||
      (carriageReturns && after = some '\r')
  | word place ascii, before, after =>
    let inWord (c : Char) := if ascii then CharClass.asciiWord.contains c else isWordChar c
    let front := before.any inWord
    let back := after.any inWord
    match place with
    | .boundary => front != back
    | .inside => front == back
    | .start => !front && back
    | .finish => front && !back
    | .startHalf => !front
    | .finishHalf => !back

/-! ## Nodes -/

/-- A pattern without flags. -/
inductive Node where
  /-- Matches nothing at all, everywhere. -/
  | empty
  /-- One character of a set. The sets of a program are numbered, which tells them apart at once. -/
  | one (number : Nat) (set : CharClass)
  | look (condition : Look)
  /-- Notes the position under a number. -/
  | mark (slot : Nat)
  | concat (first rest : Node)
  /-- Either of two nodes, the first one preferred. -/
  | either (first second : Node)
  /-- The body, which takes a character at least, any number of times. -/
  | star (greedy : Bool) (body : Node)
  /-- The body one or more times. -/
  | rounds (greedy : Bool) (body : Node)
  /-- What follows a round: further rounds, or the end of the repetition. -/
  | again (greedy : Bool) (body : Node)
deriving Repr, DecidableEq

namespace Node

/-- Whether a node takes no character, wherever it matches. -/
def takesNothing : Node → Bool
  | empty => true
  | one _ _ => false
  | look _ => true
  | mark _ => true
  | concat a b => a.takesNothing && b.takesNothing
  | either a b => a.takesNothing && b.takesNothing
  | star _ _ => false
  | rounds _ a => a.takesNothing
  | again _ a => a.takesNothing

/-- The node, or nothing; nothing is preferred when the choice is lazy. -/
def optional (greedy : Bool) (a : Node) : Node :=
  if greedy then either a empty else either empty a

/-- The node `n` times, and then `last`. -/
def copies (a : Node) (last : Node) : Nat → Node
  | 0 => last
  | n + 1 => concat a (copies a last n)

/-- The node up to `n` times. -/
def upTo (greedy : Bool) (a : Node) : Nat → Node
  | 0 => empty
  | n + 1 => optional greedy (concat a (upTo greedy a n))

/-- The node at least `least` times and at most `most` times; `solid` says that every round takes a
character. -/
def repeated (least : Nat) (most : Option Nat) (greedy solid : Bool) (a : Node) : Node :=
  match least, most with
  | least, some most =>
    if least = most then copies a a (least - 1)
    else copies a (upTo greedy a (most - least)) least
  | 0, none => if solid then star greedy a else optional greedy (rounds greedy a)
  | least + 1, none => copies a (rounds greedy a) least

/-- The node with its sets numbered from `n` on, and the next number. -/
def numbered (n : Nat) : Node → Node × Nat
  | empty => (empty, n)
  | one _ set => (one n set, n + 1)
  | look condition => (look condition, n)
  | mark slot => (mark slot, n)
  | concat a b =>
    let (a, n) := a.numbered n
    let (b, n) := b.numbered n
    (concat a b, n)
  | either a b =>
    let (a, n) := a.numbered n
    let (b, n) := b.numbered n
    (either a b, n)
  | star greedy a =>
    let (a, n) := a.numbered n
    (star greedy a, n)
  | rounds greedy a =>
    let (a, n) := a.numbered n
    (rounds greedy a, n)
  | again greedy a =>
    let (a, n) := a.numbered n
    (again greedy a, n)

end Node

/-! ## Measured nodes -/

/-- A node with the room that it takes and the length of its shortest match. There is no shortest
match when a set in it has no characters. -/
structure Measured where
  node : Node
  size : Size
  shortest : Option Nat
deriving Repr, DecidableEq

namespace Measured

/-- Nothing. -/
def empty : Measured := ⟨.empty, .both 0, some 0⟩

/-- A condition. -/
def look (condition : Look) : Measured := ⟨.look condition, .place, some 0⟩

/-- A character of a set. -/
def one (set : CharClass) : Measured :=
  let intervals := set.intervals
  ⟨.one 0 set, .ofIntervals intervals, if intervals.isEmpty then none else some 1⟩

/-- One piece after the other. -/
def concat (a b : Measured) : Measured :=
  ⟨.concat a.node b.node, a.size + b.size, return (← a.shortest) + (← b.shortest)⟩

/-- Either of two pieces; `inRow` says that the second one stands for several alternatives. -/
def either (inRow : Bool) (a b : Measured) : Measured :=
  ⟨.either a.node b.node, .either inRow a.size b.size, return min (← a.shortest) (← b.shortest)⟩

/-- A piece between the marks of a group. -/
def capture (index : Nat) (a : Measured) : Measured :=
  ⟨.concat (.mark (2 * index)) (.concat a.node (.mark (2 * index + 1))), a.size + .marks,
    a.shortest⟩

/-- Whether a piece takes a character wherever it matches. -/
def isSolid (a : Measured) : Bool := a.shortest.any (0 < ·)

/-- A piece at least `least` times and at most `most` times, if there is room for it. A piece that
takes no character needs at most one round. -/
def repeated? (least : Nat) (most : Option Nat) (greedy : Bool) (a : Measured) : Option Measured :=
  let (least, most) :=
    if a.node.takesNothing then (min least 1, some (min (most.getD 1) 1)) else (least, most)
  match least, most with
  | _, some 0 => some empty
  | 1, some 1 => some a
  | least, most =>
    let size := a.size.repeated least most a.isSolid
    if size.fits then
      some ⟨a.node.repeated least most greedy a.isSolid, size, a.shortest.map (least * ·)⟩
    else none

end Measured

/-! ## Flags -/

/-- The flags that are in force. -/
structure Flags where
  caseInsensitive : Bool := false
  multiLine : Bool := false
  dotMatchesNewLine : Bool := false
  swapGreed : Bool := false
  unicode : Bool := true
  carriageReturns : Bool := false
deriving Repr, DecidableEq

namespace Flags

/-- The flags after some changes. -/
def change (flags : Flags) (changes : FlagChanges) : Flags where
  caseInsensitive := changes.apply .caseInsensitive flags.caseInsensitive
  multiLine := changes.apply .multiLine flags.multiLine
  dotMatchesNewLine := changes.apply .dotMatchesNewLine flags.dotMatchesNewLine
  swapGreed := changes.apply .swapGreed flags.swapGreed
  unicode := changes.apply .unicode flags.unicode
  carriageReturns := changes.apply .carriageReturns flags.carriageReturns

/-- A set with all characters that are equal to one of its own under the flags. -/
def fold (flags : Flags) (set : CharClass) : CharClass :=
  if !flags.caseInsensitive then set
  else if flags.unicode then .foldCase set
  else .intersection (.foldCase set) (.range '\x00' '\x7f')

/-- A set, or all other characters. Without Unicode the others would include bytes that are no
text. -/
def negate? (flags : Flags) (negated : Bool) (set : CharClass) : Option CharClass :=
  if !negated then some set
  else if flags.unicode then some (.complement set)
  else none

/-- A character that is written out. Where characters are bytes, a byte that is no text cannot be
asked for. -/
def literal? (flags : Flags) (l : Literal) : Option CharClass :=
  if !flags.unicode && l.twoDigits && 0x80 ≤ l.char.toNat then none
  else if flags.caseInsensitive then some (.ofFolded (!flags.unicode) l.char)
  else some (.single l.char)

/-- A class that has a letter of its own. -/
def letter? (flags : Flags) (set : LetterClass) (negated : Bool) : Option CharClass :=
  flags.negate? negated <|
    match set, flags.unicode with
    | .digit, true => .named .digit
    | .space, true => .named .space
    | .word, true => .named .word
    | .digit, false => .asciiDigit
    | .space, false => .asciiSpace
    | .word, false => .asciiWord

/-- A class that is named by a property. -/
def property? (flags : Flags) (query : PropertyQuery) (negated : Bool) : Option CharClass :=
  if flags.unicode then query.resolve?.bind fun set => flags.negate? negated (flags.fold set)
  else none

/-- The end of a range in a set, or a single item of it. -/
def setChar? (flags : Flags) (l : Literal) : Option Char :=
  if flags.unicode || l.char.toNat < 0x80 then some l.char else none

/-- Any character, or any but those that end a line. -/
def dot? (flags : Flags) : Option CharClass :=
  if !flags.unicode then none
  else if flags.dotMatchesNewLine then some .any
  else if flags.carriageReturns then
    some (.complement (.union (.single '\r') (.single '\n')))
  else some (.complement (.single '\n'))

/-- The condition that an anchor asks for. -/
def look (flags : Flags) : Anchor → Look
  | .lineStart => if flags.multiLine then .lineStart flags.carriageReturns else .textStart
  | .lineEnd => if flags.multiLine then .lineEnd flags.carriageReturns else .textEnd
  | .textStart => .textStart
  | .textEnd => .textEnd
  | .wordBoundary => .word .boundary (!flags.unicode)
  | .notWordBoundary => .word .inside (!flags.unicode)
  | .wordStart => .word .start (!flags.unicode)
  | .wordEnd => .word .finish (!flags.unicode)
  | .wordStartHalf => .word .startHalf (!flags.unicode)
  | .wordEndHalf => .word .finishHalf (!flags.unicode)

end Flags

/-! ## From trees to nodes -/

/-- The characters that a set between brackets contains. -/
def SetTree.toClass? (flags : Flags) : SetTree → Option CharClass
  | empty => some .none
  | literal l => (flags.setChar? l).map .single
  | range low high => do return .range (← flags.setChar? low) (← flags.setChar? high)
  | ascii set negated => flags.negate? negated (flags.fold set)
  | letter set negated => flags.letter? set negated
  | property query negated => flags.property? query negated
  | bracket negated inner => do flags.negate? negated (flags.fold (← inner.toClass? flags))
  | union a b => do return .union (← a.toClass? flags) (← b.toClass? flags)
  | operation op a b => do
    let a := flags.fold (← a.toClass? flags)
    let b := flags.fold (← b.toClass? flags)
    match op with
    | .intersection => return .intersection a b
    | .difference => return .difference a b
    | .symmetricDifference => return .symmetricDifference a b

/-- What a tree means under some flags, and the flags that hold after it. -/
def Tree.toNode? (flags : Flags) : Tree → Option (Measured × Flags)
  | empty => some (.empty, flags)
  | .flags changes => some (.empty, flags.change changes)
  | literal l => (flags.literal? l).map fun set => (.one set, flags)
  | dot => flags.dot?.map fun set => (.one set, flags)
  | anchor a => some (.look (flags.look a), flags)
  | letter set negated => (flags.letter? set negated).map fun set => (.one set, flags)
  | property query negated => (flags.property? query negated).map fun set => (.one set, flags)
  | bracket negated inner => do
    let set ← flags.negate? negated (flags.fold (← inner.toClass? flags))
    return (.one set, flags)
  | repetition least most greedy inner => do
    let (inner, after) ← inner.toNode? flags
    return (← inner.repeated? least most (greedy != after.swapGreed), after)
  | group changes inner => do
    let (inner, _) ← inner.toNode? (flags.change changes)
    return (inner, flags)
  | capture index inner => do
    let (inner, _) ← inner.toNode? flags
    return (inner.capture index, flags)
  | concat first rest => do
    let (first, flags) ← first.toNode? flags
    let (rest, flags) ← rest.toNode? flags
    return (first.concat rest, flags)
  | alternation first rest => do
    let inRow := match rest with
      | alternation _ _ => true
      | _ => false
    let (first, flags) ← first.toNode? flags
    let (rest, flags) ← rest.toNode? flags
    return (first.either inRow rest, flags)

end ClipSplice.Regex
