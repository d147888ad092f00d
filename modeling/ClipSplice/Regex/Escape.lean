import ClipSplice.Regex.Tree
import ClipSplice.Text.Hex

/-!
# Escapes in patterns

What may follow a backslash, and the free spacing that a flag allows between the pieces of a
pattern. Every reader takes the text that is left and gives what it found with the rest of the
text, or nothing when the text is not well formed.
-/

namespace ClipSplice.Regex

/-! ## Free spacing -/

/-- The text without the blanks and comments that it starts with. A comment reaches from `#` to the
end of its line; `inComment` says that one has begun. -/
def skipSpacing (inComment : Bool) : List Char → List Char
  | [] => []
  | c :: rest =>
    if inComment then skipSpacing (c ≠ '\n') rest
    else if isBlank c then skipSpacing false rest
    else if c = '#' then skipSpacing true rest
    else c :: rest

/-- Skip blanks and comments if spacing is free. -/
def skip (free : Bool) (text : List Char) : List Char :=
  if free then skipSpacing false text else text

/-- The characters up to a closing brace, without free spacing, and the text after the brace. -/
def takeBraced (free inComment : Bool) : List Char → Option (List Char × List Char)
  | [] => none
  | c :: rest =>
    if inComment then takeBraced free (c ≠ '\n') rest
    else if free && isBlank c then takeBraced free false rest
    else if free && c = '#' then takeBraced free true rest
    else if c = '\x7d' then some ([], rest)
    else (takeBraced free false rest).map fun (inner, after) => (c :: inner, after)

/-! ## Numbers -/

/-- The number that hexadecimal digits write. -/
def hexNumber? (digits : List Char) : Option Nat :=
  digits.foldl (fun n c => do return 16 * (← n) + (← Text.hexValue? c)) (some 0)

/-- The character with a code point, if there is one. -/
def charOf? (n : Nat) : Option Char := if n.isValidChar then some (Char.ofNat n) else none

/-- Take `n` characters with free spacing between them and after the last. -/
def takeSpaced (free : Bool) : Nat → List Char → Option (List Char × List Char)
  | 0, text => some ([], text)
  | _ + 1, [] => none
  | n + 1, c :: rest =>
    (takeSpaced free n (skip free rest)).map fun (taken, after) => (c :: taken, after)

/-- A character by its number: between braces, or `width` digits. `text` follows the letter that
announces it. -/
def readHex (free : Bool) (width : Nat) (text : List Char) : Option (Literal × List Char) :=
  match skip free text with
  | '\x7b' :: inner => do
    let (digits, after) ← takeBraced free false inner
    if digits.isEmpty then none
    let c ← charOf? (← hexNumber? digits)
    return (⟨c, false⟩, skip free after)
  | text => do
    let (digits, after) ← takeSpaced free width text
    let c ← charOf? (← hexNumber? digits)
    return (⟨c, width = 2⟩, after)

/-! ## Escapes -/

/-- What an escape stands for. -/
inductive Escape where
  | literal (l : Literal)
  | anchor (a : Anchor)
  | letter (set : LetterClass) (negated : Bool)
  | property (query : PropertyQuery) (negated : Bool)
deriving Repr, DecidableEq

/-- An escape as a pattern of its own. -/
def Escape.toTree : Escape → Tree
  | .literal l => .literal l
  | .anchor a => .anchor a
  | .letter set negated => .letter set negated
  | .property query negated => .property query negated

/-- Characters that have a meaning in patterns. -/
def isMeta (c : Char) : Bool := "\\.+*?()|[]\x7b\x7d^$#&-~".toList.contains c

/-- Whether a backslash may stand in front of the character without changing what it stands for.
Letters, digits and angle brackets are kept for meanings of their own. -/
def isEscapable (c : Char) : Bool :=
  isMeta c || (c.toNat < 0x80 && !c.isAlphanum && c ≠ '<' && c ≠ '>')

/-- The text up to the first occurrence of `mark`, and the text after it. -/
def cutAt? (mark : List Char) : List Char → Option (List Char × List Char)
  | [] => none
  | c :: rest =>
    match Text.after? mark (c :: rest) with
    | some after => some ([], after)
    | none => (cutAt? mark rest).map fun (front, after) => (c :: front, after)

/-- The property that the text between the braces names, and whether it is denied. Between a name
and a value may stand a colon, `=` or, to deny it, `!=`. -/
def propertyNamed (text : List Char) : PropertyQuery × Bool :=
  match cutAt? ['!', '='] text with
  | some (name, value) => (.valued (.ofList name) (.ofList value), true)
  | none =>
    match cutAt? [':'] text <|> cutAt? ['='] text with
    | some (name, value) => (.valued (.ofList name) (.ofList value), false)
    | none => (.plain (.ofList text), false)

/-- A property by its name: between braces, or one letter. A property that is denied twice, by the
capital letter of the escape and between the braces, is asked for. -/
def readProperty (free negated : Bool) (text : List Char) : Option (Escape × List Char) :=
  match skip free text with
  | [] => none
  | '\x7b' :: inner => do
    let (name, after) ← takeBraced free false inner
    let (query, denied) := propertyNamed name
    return (.property query (negated != denied), after)
  | c :: rest =>
    if c = '\\' then none
    else some (.property (.plain (.singleton c)) negated, skip free rest)

/-- Characters in the names of word boundaries. -/
def isBoundaryNameChar (c : Char) : Bool := c.isAlpha || c = '-'

/-- The boundary that a name between braces stands for. -/
def boundaryNamed? : String → Option Anchor
  | "start" => some .wordStart
  | "end" => some .wordEnd
  | "start-half" => some .wordStartHalf
  | "end-half" => some .wordEndHalf
  | _ => none

/-- The boundary that starts with `\b`: a brace with a letter or hyphen behind it begins a name,
any other brace begins a repetition. -/
def readBoundary (free : Bool) : List Char → Option (Escape × List Char)
  | '\x7b' :: rest =>
    match skip free rest with
    | [] => none
    | c :: inner =>
      if isBoundaryNameChar c then do
        let (name, after) ← takeBraced free false (c :: inner)
        return (.anchor (← boundaryNamed? (.ofList name)), after)
      else some (.anchor .wordBoundary, '\x7b' :: rest)
  | text => some (.anchor .wordBoundary, text)

/-- The escape whose text follows a backslash. -/
def readEscape (free : Bool) : List Char → Option (Escape × List Char)
  | [] => none
  | c :: rest =>
    match c with
    | 'x' => (readHex free 2 rest).map fun (l, after) => (.literal l, after)
    | 'u' => (readHex free 4 rest).map fun (l, after) => (.literal l, after)
    | 'U' => (readHex free 8 rest).map fun (l, after) => (.literal l, after)
    | 'p' => readProperty free false rest
    | 'P' => readProperty free true rest
    | 'd' => some (.letter .digit false, rest)
    | 's' => some (.letter .space false, rest)
    | 'w' => some (.letter .word false, rest)
    | 'D' => some (.letter .digit true, rest)
    | 'S' => some (.letter .space true, rest)
    | 'W' => some (.letter .word true, rest)
    | 'a' => some (.literal ⟨'\x07', false⟩, rest)
    | 'f' => some (.literal ⟨'\x0c', false⟩, rest)
    | 't' => some (.literal ⟨'\t', false⟩, rest)
    | 'n' => some (.literal ⟨'\n', false⟩, rest)
    | 'r' => some (.literal ⟨'\r', false⟩, rest)
    | 'v' => some (.literal ⟨'\x0b', false⟩, rest)
    | 'A' => some (.anchor .textStart, rest)
    | 'z' => some (.anchor .textEnd, rest)
    | 'b' => readBoundary free rest
    | 'B' => some (.anchor .notWordBoundary, rest)
    | '<' => some (.anchor .wordStart, rest)
    | '>' => some (.anchor .wordEnd, rest)
    | c => if isEscapable c then some (.literal ⟨c, false⟩, rest) else none

end ClipSplice.Regex
