import ClipSplice.Regex.Basic

/-!
# Regular expressions in rules

In a rule a regular expression has to match at the start of a name; where the match ends does not
matter. Flags may be set beside it, as letters in rule text and as bits in documents.
-/

namespace ClipSplice

/-- The flags of a regular expression. Only the first changes what is matched: letters, digits and
blanks are those of all scripts anyway. -/
structure RegexFlags where
  ignoreCase : Bool := false
  locale : Bool := false
  unicode : Bool := false
deriving Repr, DecidableEq

namespace RegexFlags

/-- No flag. -/
def none : RegexFlags := {}

/-- The flags as bits of a number. -/
def bits (flags : RegexFlags) : Nat :=
  (if flags.ignoreCase then 2 else 0) + (if flags.locale then 4 else 0) +
    (if flags.unicode then 32 else 0)

/-- The flags whose bits are those of a number; other bits may not be set. -/
def ofBits? (n : Nat) : Option RegexFlags :=
  let flags : RegexFlags := ⟨n.testBit 1, n.testBit 2, n.testBit 5⟩
  if flags.bits = n then some flags else Option.none

/-- The bits of some flags stand for these flags. -/
theorem ofBits?_bits (flags : RegexFlags) : ofBits? flags.bits = some flags := by
  obtain ⟨i, l, u⟩ := flags
  cases i <;> cases l <;> cases u <;> decide

/-- The flag of a letter. -/
def ofLetter? (letter : String) : Option RegexFlags :=
  match letter with
  | "I" => some { ignoreCase := true }
  | "L" => some { locale := true }
  | "U" => some { unicode := true }
  | _ => Option.none

/-- All flags of two sets. -/
def union (a b : RegexFlags) : RegexFlags :=
  ⟨a.ignoreCase || b.ignoreCase, a.locale || b.locale, a.unicode || b.unicode⟩

/-- Whether all flags of `b` are set in `a`. -/
def contains (a b : RegexFlags) : Bool := a.union b = a

end RegexFlags

/-- The pattern that matches at the start of a text what `pattern` matches. -/
def anchoredPattern (pattern : String) : String := "^(?:" ++ pattern ++ ")"

/-- A regular expression that has to match at the start of a name. -/
structure AnchoredRegex where
  pattern : String
  flags : RegexFlags
  regex : Regex
  regex_eq : Regex.ofPattern? (anchoredPattern pattern) flags.ignoreCase = some regex

namespace AnchoredRegex

/-- The regular expression that a text writes. -/
def new? (pattern : String) (flags : RegexFlags) : Option AnchoredRegex :=
  match h : Regex.ofPattern? (anchoredPattern pattern) flags.ignoreCase with
  | some regex => some ⟨pattern, flags, regex, h⟩
  | none => none

end AnchoredRegex

end ClipSplice
