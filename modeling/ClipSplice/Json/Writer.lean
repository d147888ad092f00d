import ClipSplice.Json.Basic
import ClipSplice.Text.Hex

/-!
# Writing JSON

Values are written without blanks. In strings only quotes, backslashes and control characters are
escaped.
-/

namespace ClipSplice.Json

/-- A character inside a string. -/
def escape (c : Char) : List Char :=
  if c = '"' then ['\\', '"']
  else if c = '\\' then ['\\', '\\']
  else if c = '\x08' then ['\\', 'b']
  else if c = '\x0c' then ['\\', 'f']
  else if c = '\n' then ['\\', 'n']
  else if c = '\r' then ['\\', 'r']
  else if c = '\t' then ['\\', 't']
  else if c < ' ' then
    "\\u00".toList ++ [Text.hexDigit (c.toNat / 16), Text.hexDigit (c.toNat % 16)]
  else [c]

/-- A string between its quotes. -/
def writeString (text : String) : List Char := '"' :: text.toList.flatMap escape ++ ['"']

/-- A number. -/
def writeNumber : JsonNumber → List Char
  | .integer n => (toString n).toList
  | .decimal significand exponent =>
    (toString significand).toList ++ 'e' :: (toString exponent).toList

mutual

/-- A value. A string without a text is written as an empty one. -/
def write : Json → List Char
  | null => "null".toList
  | bool b => if b then "true".toList else "false".toList
  | number n => writeNumber n
  | string text => writeString (text.getD "")
  | array items => '[' :: writeItems items ++ [']']
  | object members => '\x7b' :: writeMembers members ++ ['\x7d']

/-- The items of an array, with commas between them. -/
def writeItems : List Json → List Char
  | [] => []
  | [item] => write item
  | item :: rest => write item ++ ',' :: writeItems rest

/-- The members of an object, with commas between them. -/
def writeMembers : List (Option String × Json) → List Char
  | [] => []
  | [(name, value)] => writeString (name.getD "") ++ ':' :: write value
  | (name, value) :: rest =>
    writeString (name.getD "") ++ ':' :: write value ++ ',' :: writeMembers rest

end

/-- A value as text. -/
def toText (json : Json) : String := .ofList json.write

end ClipSplice.Json
