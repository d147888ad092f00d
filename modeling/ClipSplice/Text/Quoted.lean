import ClipSplice.Text.Hex
import ClipSplice.Unicode.Addition
import ClipSplice.Unicode.Category
import ClipSplice.Unicode.Property

/-!
# Quoted text

Texts that are shown to a person stand between double quotes. A backslash and a double quote get a
backslash in front of them, the usual control characters have their short escapes, and every
character that would not show by itself (combining marks, separators, control and unassigned
characters) is written as `\u{…}` with its hexadecimal code point. File names are quoted by the
same rule, with the apostrophe escaped as well.
-/

namespace ClipSplice.Text

/-- Whether a character shows by itself; of the separators only the ordinary space does. -/
def isVisible (c : Char) : Bool :=
  if c.toNat < 0x7f then 0x20 ≤ c.toNat
  else Category.anyOf Category.visible c || Addition.visible.contains c

/-- Whether a character attaches to the one before it. -/
def isCombining (c : Char) : Bool :=
  BinaryProperty.holds "graphemeextend" c || Addition.extending.contains c

/-- The quoted form of one character; `apostrophe` says whether `'` is escaped. -/
def quotedChar (apostrophe : Bool) (c : Char) : List Char :=
  if c = '\x00' then ['\\', '0']
  else if c = '\t' then ['\\', 't']
  else if c = '\r' then ['\\', 'r']
  else if c = '\n' then ['\\', 'n']
  else if c = '\\' || c = '"' || (apostrophe && c = '\'') then ['\\', c]
  else if c.toNat < 0x7f && 0x20 ≤ c.toNat then [c]
  else if isVisible c && !isCombining c then [c]
  else "\\u\x7b".toList ++ hex c.toNat ++ ['\x7d']

/-- A text between double quotes. -/
def quoted (text : String) : String :=
  String.ofList ('"' :: text.toList.flatMap (quotedChar false) ++ ['"'])

/-- A file name between double quotes. -/
def quotedPath (text : String) : String :=
  String.ofList ('"' :: text.toList.flatMap (quotedChar true) ++ ['"'])

end ClipSplice.Text
