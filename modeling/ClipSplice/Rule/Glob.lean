import ClipSplice.Regex.Basic

/-!
# Globs

A glob is matched against a whole name: `*` stands for any characters, `?` for one, and a set
between brackets for one of its characters. A `!` behind the opening bracket asks for a character
outside the set. A bracket that is not closed stands for itself. Globs are matched by the regular
expression that `Glob.patternOf` writes for them.
-/

namespace ClipSplice

/-- A piece of a glob. -/
inductive GlobPiece where
  /-- Any characters, or none. -/
  | anything
  | anyChar
  /-- What stands between two brackets. -/
  | set (body : List Char)
  | literal (c : Char)
deriving Repr, DecidableEq

namespace GlobPiece

/-- The text up to the bracket that closes a set. A closing bracket at the start, or behind a `!`
at the start, belongs to the set. -/
def setBody? : List Char → Option (List Char)
  | '!' :: ']' :: rest => (Text.cut? ']' rest).map fun (body, _) => '!' :: ']' :: body
  | ']' :: rest => (Text.cut? ']' rest).map fun (body, _) => ']' :: body
  | rest => (Text.cut? ']' rest).map Prod.fst

/-- The pieces of a glob, without its first `passed` characters. Stars in a row count once. -/
def piecesOf : (passed : Nat) → List Char → List GlobPiece
  | _, [] => []
  | passed + 1, _ :: rest => piecesOf passed rest
  | 0, c :: rest =>
    if c = '*' then
      if rest.head? = some '*' then piecesOf 0 rest else anything :: piecesOf 0 rest
    else if c = '?' then anyChar :: piecesOf 0 rest
    else if c = '[' then
      match setBody? rest with
      | some body => set body :: piecesOf (body.length + 1) rest
      | none => literal c :: piecesOf 0 rest
    else literal c :: piecesOf 0 rest

/-- A character of a set as it is written in a pattern. -/
def setChar (c : Char) : List Char :=
  if c = '\\' || c = '[' || c = '&' || c = '~' then ['\\', c] else [c]

/-- The pattern of a piece. -/
def pattern : GlobPiece → List Char
  | anything => ['.', '*']
  | anyChar => ['.']
  | set ('!' :: body) => '[' :: '^' :: body.flatMap setChar ++ [']']
  | set ('^' :: body) => '[' :: '\\' :: '^' :: body.flatMap setChar ++ [']']
  | set body => '[' :: body.flatMap setChar ++ [']']
  | literal c => Regex.escapeChar c

end GlobPiece

/-- The regular expression that matches what a glob matches. -/
def Glob.patternOf (text : String) : String :=
  .ofList ("^(?s:".toList ++ (GlobPiece.piecesOf 0 text.toList).flatMap GlobPiece.pattern ++
    ")\\z".toList)

/-- A glob that has been understood. -/
structure Glob where
  text : String
  caseSensitive : Bool
  regex : Regex
  regex_eq : Regex.ofPattern? (Glob.patternOf text) (!caseSensitive) = some regex

namespace Glob

/-- The glob that a text writes. -/
def new? (text : String) (caseSensitive : Bool) : Option Glob :=
  match h : Regex.ofPattern? (patternOf text) (!caseSensitive) with
  | some regex => some ⟨text, caseSensitive, regex, h⟩
  | none => none

/-- Whether a glob matches a name. -/
def isMatch (glob : Glob) (name : String) : Bool := glob.regex.isMatch name

end Glob

end ClipSplice
