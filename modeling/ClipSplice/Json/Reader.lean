import ClipSplice.Json.Basic
import ClipSplice.Text.Hex

/-!
# Reading JSON

`Json.ofText?` reads a text that holds one value and nothing else but blanks. Whether the escapes of
a string name a text is found out here; whether that matters is left to those who use the value.
-/

namespace ClipSplice.Json

/-- Whether a character may stand between the parts of a value. -/
def isSpace (c : Char) : Bool := c = ' ' || c = '\t' || c = '\n' || c = '\r'

/-- The text without leading blanks. -/
def skipSpaces (text : List Char) : List Char := text.dropWhile isSpace

/-! ## Strings -/

/-- The number that four hexadecimal digits write. -/
def hexUnit? (a b c d : Char) : Option Nat := do
  let high := 16 * (← Text.hexValue? a) + (← Text.hexValue? b)
  return 256 * high + (16 * (← Text.hexValue? c) + (← Text.hexValue? d))

/-- The character that a letter stands for behind a backslash. -/
def escaped? : Char → Option Char
  | '"' => some '"'
  | '\\' => some '\\'
  | '/' => some '/'
  | 'b' => some '\x08'
  | 'f' => some '\x0c'
  | 'n' => some '\n'
  | 'r' => some '\r'
  | 't' => some '\t'
  | _ => none

/-- The code points up to the closing quote, and the text after it. Half a surrogate pair counts as
a code point of its own. -/
def readPoints : List Char → Option (List Nat × List Char)
  | '"' :: rest => some ([], rest)
  | '\\' :: 'u' :: a :: b :: c :: d :: rest => do
    let unit ← hexUnit? a b c d
    let (points, after) ← readPoints rest
    return (unit :: points, after)
  | '\\' :: c :: rest => do
    let c ← escaped? c
    let (points, after) ← readPoints rest
    return (c.toNat :: points, after)
  | c :: rest =>
    if c < ' ' then none
    else (readPoints rest).map fun (points, after) => (c.toNat :: points, after)
  | [] => none

/-- Whether a code point is the first half of a surrogate pair. -/
def isHighSurrogate (n : Nat) : Bool := 0xD800 ≤ n && n < 0xDC00

/-- Whether a code point is the second half of a surrogate pair. -/
def isLowSurrogate (n : Nat) : Bool := 0xDC00 ≤ n && n < 0xE000

/-- The text that code points name; surrogates have to come in pairs. -/
def decode : List Nat → Option (List Char)
  | [] => some []
  | [n] => if isHighSurrogate n || isLowSurrogate n then none else some [Char.ofNat n]
  | n :: m :: rest =>
    if isLowSurrogate n then none
    else if isHighSurrogate n then
      if isLowSurrogate m then
        (decode rest).map (Char.ofNat (0x10000 + (n - 0xD800) * 0x400 + (m - 0xDC00)) :: ·)
      else none
    else (decode (m :: rest)).map (Char.ofNat n :: ·)

/-- A string behind its opening quote. -/
def readString (text : List Char) : Option (Option String × List Char) :=
  (readPoints text).map fun (points, after) => ((decode points).map .ofList, after)

/-! ## Numbers -/

/-- Leading decimal digits, of which there must be one, and the text after them. -/
def readDigits (text : List Char) : Option (List Char × List Char) :=
  match text.takeWhile Char.isDigit with
  | [] => none
  | digits => some (digits, text.dropWhile Char.isDigit)

/-- The part of a number behind a point; without a point there is none. -/
def readFraction (text : List Char) : Option (Option (List Char) × List Char) :=
  match text with
  | '.' :: rest => (readDigits rest).map fun (digits, after) => (some digits, after)
  | _ => some (none, text)

/-- A sign, which may be missing: whether it is a minus, and the text after it. -/
def readSign (text : List Char) : Bool × List Char :=
  match text with
  | '-' :: rest => (true, rest)
  | '+' :: rest => (false, rest)
  | _ => (false, text)

/-- The exponent of a number, which may be missing. -/
def readExponent (text : List Char) : Option (Option Int × List Char) :=
  match text with
  | c :: rest =>
    if c = 'e' ∨ c = 'E' then do
      let (negative, rest) := readSign rest
      let (digits, after) ← readDigits rest
      let n : Int := Nat.ofDigitChars 10 digits 0
      return (some (if negative then -n else n), after)
    else some (none, text)
  | [] => some (none, text)

/-- A number. Zero is the only one that starts with a zero. -/
def readNumber (text : List Char) : Option (JsonNumber × List Char) := do
  let (negative, rest) := match text with
    | '-' :: rest => (true, rest)
    | text => (false, text)
  let (whole, rest) ← readDigits rest
  if whole.head? = some '0' && 1 < whole.length then none
  let (fraction, rest) ← readFraction rest
  let (exponent, rest) ← readExponent rest
  let significand := Nat.ofDigitChars 10 (whole ++ fraction.getD []) 0
  let shift : Int := (fraction.getD []).length
  if fraction.isSome || exponent.isSome || (negative && significand = 0) then
    return (.decimal significand (exponent.getD 0 - shift), rest)
  else if negative then return (.integer (-significand), rest)
  else return (.integer significand, rest)

/-! ## Values -/

mutual

/-- A value and the text after it. Every step takes at least one character. -/
def readValue : (fuel : Nat) → List Char → Option (Json × List Char)
  | 0, _ => none
  | fuel + 1, text =>
    match skipSpaces text with
    | '"' :: rest => (readString rest).map fun (text, after) => (string text, after)
    | '[' :: rest =>
      match skipSpaces rest with
      | ']' :: after => some (array [], after)
      | rest => (readItems fuel rest).map fun (items, after) => (array items, after)
    | '\x7b' :: rest =>
      match skipSpaces rest with
      | '\x7d' :: after => some (object [], after)
      | rest => (readMembers fuel rest).map fun (members, after) => (object members, after)
    | 'n' :: 'u' :: 'l' :: 'l' :: after => some (null, after)
    | 't' :: 'r' :: 'u' :: 'e' :: after => some (bool true, after)
    | 'f' :: 'a' :: 'l' :: 's' :: 'e' :: after => some (bool false, after)
    | text => (readNumber text).map fun (n, after) => (number n, after)

/-- The items of an array up to its end. -/
def readItems : (fuel : Nat) → List Char → Option (List Json × List Char)
  | 0, _ => none
  | fuel + 1, text =>
    match readValue fuel text with
    | none => none
    | some (item, rest) =>
      match skipSpaces rest with
      | ',' :: rest => (readItems fuel rest).map fun (items, after) => (item :: items, after)
      | ']' :: after => some ([item], after)
      | _ => none

/-- The members of an object up to its end. -/
def readMembers : (fuel : Nat) → List Char → Option (List (Option String × Json) × List Char)
  | 0, _ => none
  | fuel + 1, text =>
    match skipSpaces text with
    | '"' :: rest =>
      match readString rest with
      | none => none
      | some (name, rest) =>
        match skipSpaces rest with
        | ':' :: rest =>
          match readValue fuel rest with
          | none => none
          | some (value, rest) =>
            match skipSpaces rest with
            | ',' :: rest =>
              (readMembers fuel rest).map fun (members, after) => ((name, value) :: members, after)
            | '\x7d' :: after => some ([(name, value)], after)
            | _ => none
        | _ => none
    | _ => none

end

/-- The value that a text writes. -/
def ofText? (text : String) : Option Json :=
  match readValue (2 * text.length + 2) text.toList with
  | some (value, rest) => if (skipSpaces rest).isEmpty then some value else none
  | none => none

end ClipSplice.Json
