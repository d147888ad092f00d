import ClipSplice.Text.Blank
import ClipSplice.Unicode.Age
import ClipSplice.Unicode.BreakClass
import ClipSplice.Unicode.CaseFolding
import ClipSplice.Unicode.Category
import ClipSplice.Unicode.Property
import ClipSplice.Unicode.Script

/-!
# Character classes

A character class is a set of characters, built from ranges and named sets by the operations of
Boolean algebra and by closing a set under case folding. `CharClass.contains` says which characters
are in it. Properties are named as in patterns; `PropertyQuery.resolve?` finds the set that a name
stands for.
-/

namespace ClipSplice.Regex

/-- A set of characters that has a name of its own. -/
inductive NamedSet where
  /-- Decimal digits of all scripts. -/
  | digit
  | space
  /-- Letters, marks, digits, connectors and joiners: what words are made of. -/
  | word
  | categories (categories : List Category)
  /-- Characters whose own script is the named one. -/
  | script (name : String)
  /-- Characters in use with the named script. -/
  | scriptExtensions (name : String)
  | property (name : String)
  /-- Characters that a version of the standard knew already. -/
  | age (version : String)
  /-- Characters of one class in the division of texts. -/
  | breakClass (unit : TextUnit) (name : String)
deriving Repr, DecidableEq

/-- Whether a character is one that words are made of. -/
def isWordChar (c : Char) : Bool :=
  if c.toNat < 0x80 then c.isAlphanum || c = '_'
  else
    BinaryProperty.holds "alphabetic" c ||
      Category.anyOf (Category.marks ++ [.decimalNumber, .connectorPunctuation]) c ||
      BinaryProperty.holds "joincontrol" c

/-- Whether a character belongs to a named set. -/
def NamedSet.contains : NamedSet → Char → Bool
  | .digit, c => Category.decimalNumberTable.contains c
  | .space, c => isBlank c
  | .word, c => isWordChar c
  | .categories kinds, c => Category.anyOf kinds c
  | .script name, c => (Script.named? name).any fun found => found.own.contains c
  | .scriptExtensions name, c => (Script.named? name).any fun found => found.extends? c
  | .property name, c => BinaryProperty.holds name c
  | .age version, c => Age.contains version c
  | .breakClass unit name, c => NamedTable.contains name unit.breakClasses c

/-- A set of characters. -/
inductive CharClass where
  | none
  | range (low high : Char)
  | named (set : NamedSet)
  | complement (a : CharClass)
  | union (a b : CharClass)
  | intersection (a b : CharClass)
  | difference (a b : CharClass)
  | symmetricDifference (a b : CharClass)
  /-- All characters that are equal to one in the set without regard to case. -/
  | foldCase (a : CharClass)
deriving Repr, DecidableEq

namespace CharClass

/-- Whether a character is in the class. -/
def contains : CharClass → Char → Bool
  | none, _ => false
  | range low high, c => low ≤ c && c ≤ high
  | named set, c => set.contains c
  | complement a, c => !a.contains c
  | union a b, c => a.contains c || b.contains c
  | intersection a b, c => a.contains c && b.contains c
  | difference a b, c => a.contains c && !b.contains c
  | symmetricDifference a b, c => a.contains c != b.contains c
  | foldCase a, c => a.contains c || (CaseFolding.mates c).any a.contains

/-- The class of one character. -/
def single (c : Char) : CharClass := range c c

/-- The class of all characters. -/
def any : CharClass := complement none

/-- The union of some classes. -/
def unionOf : List CharClass → CharClass
  | [] => none
  | [a] => a
  | a :: as => union a (unionOf as)

/-- A character and those equal to it without regard to case; `ascii` leaves out all but the letters
from A to Z. -/
def ofFolded (ascii : Bool) (c : Char) : CharClass :=
  let mates := if ascii && c.toNat < 0x80 then (CaseFolding.mates c).filter (·.toNat < 0x80)
    else if ascii then []
    else CaseFolding.mates c
  unionOf ((c :: mates).map single)

/-! ## Classes of ASCII characters -/

/-- The digits from 0 to 9. -/
def asciiDigit : CharClass := range '0' '9'

/-- The letters from A to Z. -/
def asciiUpper : CharClass := range 'A' 'Z'

/-- The letters from a to z. -/
def asciiLower : CharClass := range 'a' 'z'

/-- The letters from A to Z in both cases. -/
def asciiAlpha : CharClass := union asciiUpper asciiLower

/-- Letters and digits. -/
def asciiAlnum : CharClass := union asciiDigit asciiAlpha

/-- Letters, digits and the underscore. -/
def asciiWord : CharClass := union asciiAlnum (single '_')

/-- Space, tab and the other characters that move the print position. -/
def asciiSpace : CharClass := union (range '\t' '\r') (single ' ')

/-- The ASCII class with a given name, as it is written between `[:` and `:]`. -/
def ascii? : String → Option CharClass
  | "alnum" => some asciiAlnum
  | "alpha" => some asciiAlpha
  | "ascii" => some (range '\x00' '\x7f')
  | "blank" => some (union (single '\t') (single ' '))
  | "cntrl" => some (union (range '\x00' '\x1f') (single '\x7f'))
  | "digit" => some asciiDigit
  | "graph" => some (range '!' '~')
  | "lower" => some asciiLower
  | "print" => some (range ' ' '~')
  | "punct" => some (unionOf [range '!' '/', range ':' '@', range '[' '\x60', range '\x7b' '~'])
  | "space" => some asciiSpace
  | "upper" => some asciiUpper
  | "word" => some asciiWord
  | "xdigit" => some (unionOf [asciiDigit, range 'A' 'F', range 'a' 'f'])
  | _ => Option.none

end CharClass

/-! ## Properties by name -/

/-- A property as a pattern names it: by one name, or by the name of a property and a value. -/
inductive PropertyQuery where
  | plain (name : String)
  | valued (name value : String)
deriving Repr, DecidableEq

namespace PropertyQuery

/-- A name in the form in which names are compared: lower case, without blanks, hyphens,
underscores, characters outside ASCII and a leading `is`. -/
def normalize (name : String) : String :=
  let letters := name.toList
  let isPrefixed := (letters.take 2).map Char.toLower = ['i', 's']
  let kept := (if isPrefixed then letters.drop 2 else letters).filter fun c =>
    c ≠ ' ' && c ≠ '_' && c ≠ '-' && c.toNat < 0x80
  let kept := kept.map Char.toLower
  String.ofList (if isPrefixed && kept = ['c'] then ['i', 's', 'c'] else kept)

/-- The general categories that a name stands for. -/
def categories? : String → Option (List Category)
  | "lu" | "uppercaseletter" => some [.uppercaseLetter]
  | "ll" | "lowercaseletter" => some [.lowercaseLetter]
  | "lt" | "titlecaseletter" => some [.titlecaseLetter]
  | "lm" | "modifierletter" => some [.modifierLetter]
  | "lo" | "otherletter" => some [.otherLetter]
  | "lc" | "casedletter" => some Category.casedLetters
  | "l" | "letter" => some Category.letters
  | "mn" | "nonspacingmark" => some [.nonspacingMark]
  | "mc" | "spacingmark" => some [.spacingMark]
  | "me" | "enclosingmark" => some [.enclosingMark]
  | "m" | "mark" | "combiningmark" => some Category.marks
  | "nd" | "decimalnumber" | "digit" => some [.decimalNumber]
  | "nl" | "letternumber" => some [.letterNumber]
  | "no" | "othernumber" => some [.otherNumber]
  | "n" | "number" => some Category.numbers
  | "pc" | "connectorpunctuation" => some [.connectorPunctuation]
  | "pd" | "dashpunctuation" => some [.dashPunctuation]
  | "ps" | "openpunctuation" => some [.openPunctuation]
  | "pe" | "closepunctuation" => some [.closePunctuation]
  | "pi" | "initialpunctuation" => some [.initialPunctuation]
  | "pf" | "finalpunctuation" => some [.finalPunctuation]
  | "po" | "otherpunctuation" => some [.otherPunctuation]
  | "p" | "punctuation" | "punct" => some Category.punctuation
  | "sm" | "mathsymbol" => some [.mathSymbol]
  | "sc" | "currencysymbol" => some [.currencySymbol]
  | "sk" | "modifiersymbol" => some [.modifierSymbol]
  | "so" | "othersymbol" => some [.otherSymbol]
  | "s" | "symbol" => some Category.symbols
  | "zs" | "spaceseparator" => some [.spaceSeparator]
  | "zl" | "lineseparator" => some [.lineSeparator]
  | "zp" | "paragraphseparator" => some [.paragraphSeparator]
  | "z" | "separator" => some Category.separators
  | "cc" | "control" | "cntrl" => some [.control]
  | "cf" | "format" => some [.format]
  | "co" | "privateuse" => some [.privateUse]
  | _ => none

/-- The class of a general category, with the sets that are named like one. -/
def category? (name : String) : Option CharClass :=
  let assigned := CharClass.named (.categories Category.assigned)
  match name with
  | "any" => some .any
  | "ascii" => some (.range '\x00' '\x7f')
  | "assigned" => some assigned
  | "cn" | "unassigned" => some (.complement assigned)
  | "c" | "other" =>
    some (.complement (.named (.categories (Category.visible ++ Category.separators))))
  | _ => (categories? name).map fun categories => .named (.categories categories)

/-- The class of a script. -/
def script? (extended : Bool) (name : String) : Option CharClass :=
  (Script.named? name).map fun _ =>
    .named (if extended then .scriptExtensions name else .script name)

/-- The class of a set that a list of named tables holds under the given name. -/
def listed? (tables : List NamedTable) (set : String → NamedSet) (name : String) :
    Option CharClass :=
  (NamedTable.named? name tables).map fun _ => .named (set name)

/-- The class that a query stands for. A single name may be a binary property, a general category or
a script, in this order, except for three short names that are categories. -/
def resolve? : PropertyQuery → Option CharClass
  | .plain name =>
    let name := normalize name
    let property :=
      if ["cf", "sc", "lc"].contains name then none
      else listed? BinaryProperty.all .property name
    property <|> category? name <|> script? false name
  | .valued name value =>
    let value := normalize value
    match normalize name with
    | "gc" | "generalcategory" => category? value
    | "sc" | "script" => script? false value
    | "scx" | "scriptextensions" => script? true value
    | "age" => listed? Age.versions .age value
    | "gcb" | "graphemeclusterbreak" =>
      listed? TextUnit.graphemeClasses (.breakClass .grapheme) value
    | "wb" | "wordbreak" => listed? TextUnit.wordClasses (.breakClass .word) value
    | "sb" | "sentencebreak" => listed? TextUnit.sentenceClasses (.breakClass .sentence) value
    | _ => none

end PropertyQuery

end ClipSplice.Regex
