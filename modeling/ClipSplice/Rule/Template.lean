import ClipSplice.Regex.Basic

/-!
# Clip templates

A clip name may refer to what the groups of a regular expression took:

* `$name` and `${name}`, where the name is a number for a group without a name;
* `\1` and `\12`, and `\g<name>`.

`$$` and `\\` write the characters themselves, and `\n`, `\t` and `\r` a line feed, a tab and a
carriage return. What is none of these, and a reference to a group that took no part in the match,
stays as it is written.
-/

namespace ClipSplice

/-- A piece of a template. -/
inductive TemplatePiece where
  | literal (c : Char)
  /-- A reference to a group, and the text that is kept when there is no such group. -/
  | reference (key written : List Char)
deriving Repr, DecidableEq

namespace TemplatePiece

/-- Whether a character may stand in the name of a group in a template. -/
def isKeyChar (c : Char) : Bool := c = '_' || c.isAlphanum

/-- A key up to the character that closes it. -/
def closedKey? (close : Char) (text : List Char) : Option (List Char) := do
  let (key, _) ← Text.cut? close text
  if !key.isEmpty && key.all isKeyChar then some key else none

/-- What a dollar sign stands for, given the text behind it, and how many characters it takes from
that text. -/
def ofDollar : List Char → TemplatePiece × Nat
  | '$' :: _ => (literal '$', 1)
  | '\x7b' :: rest =>
    match closedKey? '\x7d' rest with
    | some key => (reference key ('$' :: '\x7b' :: key ++ ['\x7d']), key.length + 2)
    | none => (literal '$', 0)
  | rest =>
    match rest.takeWhile isKeyChar with
    | [] => (literal '$', 0)
    | key => (reference key ('$' :: key), key.length)

/-- What a backslash stands for, given the text behind it, and how many characters it takes from
that text. -/
def ofBackslash : List Char → TemplatePiece × Nat
  | '\\' :: _ => (literal '\\', 1)
  | 'n' :: _ => (literal '\n', 1)
  | 't' :: _ => (literal '\t', 1)
  | 'r' :: _ => (literal '\r', 1)
  | 'g' :: '<' :: rest =>
    match closedKey? '>' rest with
    | some key => (reference key ("\\g<".toList ++ key ++ ['>']), key.length + 3)
    | none => (literal '\\', 0)
  | rest =>
    match (rest.take 2).takeWhile Char.isDigit with
    | [] => (literal '\\', 0)
    | key => (reference key ('\\' :: key), key.length)

/-- The pieces of a template, without its first `passed` characters. -/
def piecesOf : (passed : Nat) → List Char → List TemplatePiece
  | _, [] => []
  | passed + 1, _ :: rest => piecesOf passed rest
  | 0, c :: rest =>
    if c = '$' then (ofDollar rest).1 :: piecesOf (ofDollar rest).2 rest
    else if c = '\\' then (ofBackslash rest).1 :: piecesOf (ofBackslash rest).2 rest
    else literal c :: piecesOf 0 rest

/-- What a group took. A key of digits is the number of the group. -/
def groupOf? (found : Regex.Match) (key : List Char) : Option String :=
  if key.all Char.isDigit then found.group? (Nat.ofDigitChars 10 key 0)
  else found.named? (.ofList key)

/-- What stands for a piece. -/
def expand (found : Regex.Match) : TemplatePiece → List Char
  | literal c => [c]
  | reference key written => ((groupOf? found key).map String.toList).getD written

end TemplatePiece

/-- A template with its references filled in. -/
def expandTemplate (found : Regex.Match) (template : String) : String :=
  .ofList ((TemplatePiece.piecesOf 0 template.toList).flatMap (TemplatePiece.expand found))

end ClipSplice
