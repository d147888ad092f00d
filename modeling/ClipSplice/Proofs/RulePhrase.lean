import ClipSplice.Proofs.CalendarSteps
import ClipSplice.RuleText.Meaning
import Mathlib

/-!
# Sentences of the rule grammar

What can be written in a rule text, apart from how it is laid out: phrases for conditions and
rules, the tokens of each phrase, and what each phrase means. A phrase holds the regular
expressions, globs and dates that it names, so that there is none for a pattern that does not
compile or for a day that the calendar does not have. Patterns, globs, clips and templates are
written between quotes.

`LaidOut` says which texts are layouts of some tokens: blanks and comments stand between the
tokens, and the commas that may be missing are there or not.
-/

namespace ClipSplice.RuleText

/-! ## Tokens -/

/-- Whether a text starts with a character that is neither blank nor the start of a comment. -/
def startsWord : List Char → Bool
  | [] => false
  | c :: _ => !isBlank c && c ≠ '#'

/-- A text without space in front. -/
structure Word where
  text : List Char
  starts : startsWord text = true

/-- What a rule text consists of. -/
inductive Token where
  | word (word : Word)
  /-- A comma that may be missing. -/
  | maybeComma

namespace Token

/-- A single character as a token. -/
def ofChar (c : Char) (starts : startsWord [c] = true) : Token := .word ⟨[c], starts⟩

def comma : Token := ofChar ',' (by decide)
def colon : Token := ofChar ':' (by decide)
def equals : Token := ofChar '=' (by decide)
def hyphen : Token := ofChar '-' (by decide)
def openParen : Token := ofChar '(' (by decide)
def closeParen : Token := ofChar ')' (by decide)
def openBracket : Token := ofChar '[' (by decide)
def closeBracket : Token := ofChar ']' (by decide)

end Token

/-- A word that needs no quotes. -/
structure BareWord where
  text : String
  bare : text.toList ≠ [] ∧ text.toList.all isBare = true

theorem startsWord_of_isBare {c : Char} {rest : List Char} (hbare : isBare c = true) :
    startsWord (c :: rest) = true := by
  have hhash : c ≠ '#' := by
    rintro rfl
    exact absurd hbare (by decide)
  simp only [isBare, Bool.and_eq_true] at hbare
  simp [startsWord, hbare.1, hhash]

theorem BareWord.starts (word : BareWord) : startsWord word.text.toList = true := by
  obtain ⟨hne, hall⟩ := word.bare
  cases hchars : word.text.toList with
  | nil => exact absurd hchars hne
  | cons c rest =>
    rw [hchars, List.all_cons, Bool.and_eq_true] at hall
    exact startsWord_of_isBare hall.1

/-- A bare word as a token. -/
def BareWord.token (word : BareWord) : Token := .word ⟨word.text.toList, word.starts⟩

/-! ## Texts between quotes -/

/-- A text as it stands between quotes: the quote is written with a backslash in front. -/
def escaped (quote : Char) : List Char → List Char
  | [] => []
  | c :: rest => if c = quote then '\\' :: c :: escaped quote rest else c :: escaped quote rest

/-- A text between quotes. No text ends in a backslash, for that would take in the closing
quote. -/
structure Literal where
  quote : Char
  quote_eq : quote = '\'' ∨ quote = '"'
  text : String
  closes : text.toList.getLast? ≠ some '\\'

namespace Literal

/-- A literal as it is written. -/
def chars (literal : Literal) : List Char :=
  literal.quote :: (escaped literal.quote literal.text.toList ++ [literal.quote])

theorem starts (literal : Literal) : startsWord literal.chars = true := by
  rcases literal.quote_eq with hquote | hquote <;> rw [chars, hquote] <;> rfl

/-- A literal as a token. -/
def token (literal : Literal) : Token := .word ⟨literal.chars, literal.starts⟩

end Literal

/-! ## Options -/

/-- An option of a condition: a word, perhaps with a value. -/
structure OptionPhrase where
  key : BareWord
  value : Option Literal := none

namespace OptionPhrase

/-- The tokens of an option. -/
def tokens (option : OptionPhrase) : List Token :=
  option.key.token :: (option.value.map fun value => [.equals, value.token]).getD []

end OptionPhrase

/-- The tokens of some options: nothing, or a list between brackets. -/
def optionTokens : List OptionPhrase → List Token
  | [] => []
  | first :: rest =>
    .openBracket :: (first.tokens ++ rest.flatMap (fun option => .comma :: option.tokens) ++
      [.closeBracket])

/-- A flag of a regular expression. -/
inductive RegexLetter where
  | ignoreCase
  | locale
  | unicode
deriving DecidableEq

namespace RegexLetter

/-- The option that sets a flag. -/
def option : RegexLetter → OptionPhrase
  | ignoreCase => { key := ⟨"I", by decide⟩ }
  | locale => { key := ⟨"L", by decide⟩ }
  | unicode => { key := ⟨"U", by decide⟩ }

/-- The flags that some letters set. -/
def flags (letters : List RegexLetter) : RegexFlags where
  ignoreCase := letters.contains .ignoreCase
  locale := letters.contains .locale
  unicode := letters.contains .unicode

end RegexLetter

/-- A regular expression with its flags. -/
structure RegexPhrase where
  pattern : Literal
  letters : List RegexLetter
  regex : AnchoredRegex
  pattern_eq : regex.pattern = pattern.text
  flags_eq : regex.flags = RegexLetter.flags letters

/-- The tokens of a regular expression; the pattern follows its mark without space. -/
def RegexPhrase.tokens (phrase : RegexPhrase) : List Token :=
  .word ⟨"regex:".toList ++ phrase.pattern.chars, by rfl⟩ ::
    optionTokens (phrase.letters.map RegexLetter.option)

/-- A glob. -/
structure GlobPhrase where
  pattern : Literal
  glob : Glob
  text_eq : glob.text = pattern.text

/-- The tokens of a glob; an option says that case does not matter. -/
def GlobPhrase.tokens (phrase : GlobPhrase) : List Token :=
  phrase.pattern.token ::
    optionTokens (if phrase.glob.caseSensitive then [] else [RegexLetter.ignoreCase.option])

/-! ## Dates -/

/-- The decimal digits of a number, as many as are asked for. -/
def digitsOf : (count n : Nat) → List Char
  | 0, _ => []
  | count + 1, n => digitsOf count (n / 10) ++ [Nat.digitChar (n % 10)]

/-- The characters between the parts of a date. -/
inductive DateMark where
  | hyphen
  | slash
  | dot

/-- The character of a mark. -/
def DateMark.char : DateMark → Char
  | hyphen => '-'
  | slash => '/'
  | dot => '.'

/-- A time of day behind a date. -/
structure TimePhrase where
  hour : Nat
  minute : Nat
  hour_lt : hour < 24
  minute_lt : minute < 60
  /-- Whether a space comes before the time, and not the mark of the date. -/
  spaced : Bool

/-- A date of the calendar, perhaps with a time of day. A year is written with four digits. -/
structure DatePhrase where
  date : Date
  year_nonneg : 0 ≤ date.year
  year_lt : date.year < 10000
  mark : DateMark
  time : Option TimePhrase

namespace DatePhrase

/-- The characters of the time of day behind a date. -/
def timeChars (phrase : DatePhrase) : List Char :=
  match phrase.time with
  | none => []
  | some time =>
    (if time.spaced then ' ' else phrase.mark.char) ::
      (digitsOf 2 time.hour ++ digitsOf 2 time.minute)

/-- A date as it is written. -/
def chars (phrase : DatePhrase) : List Char :=
  digitsOf 2 phrase.date.month ++ phrase.mark.char :: (digitsOf 2 phrase.date.day ++
    phrase.mark.char :: (digitsOf 4 phrase.date.year.toNat ++ phrase.timeChars))

/-- Seconds from midnight to the time of day; a date alone means midnight. -/
def second (phrase : DatePhrase) : Nat :=
  match phrase.time with
  | none => 0
  | some time => (time.hour * 60 + time.minute) * 60

theorem second_lt (phrase : DatePhrase) : phrase.second < secondsPerDay := by
  unfold second
  cases phrase.time with
  | none => decide
  | some time =>
    have hhour := time.hour_lt
    have hminute := time.minute_lt
    simp only [secondsPerDay]
    omega

theorem nano_lt : 0 < 2 * nanosPerSecond := by decide

/-- The instant that a date names. -/
def instant (phrase : DatePhrase) : Instant :=
  ⟨phrase.date, phrase.second, 0, phrase.second_lt, nano_lt⟩

theorem previousMicrosecond?_isSome (phrase : DatePhrase) :
    phrase.instant.previousMicrosecond?.isSome = true := by
  have hyear := phrase.year_nonneg
  refine Instant.previousMicrosecond?_isSome ?_
  simp only [instant, firstYear]
  omega

theorem nextMicrosecond?_isSome (phrase : DatePhrase) :
    phrase.instant.nextMicrosecond?.isSome = true := by
  have hyear := phrase.year_lt
  refine Instant.nextMicrosecond?_isSome ?_
  simp only [instant, lastYear]
  omega

theorem starts (phrase : DatePhrase) : startsWord phrase.chars = true := by
  have hdigit : ∀ d < 10, startsWord [Nat.digitChar d] = true := by decide
  exact hdigit (phrase.date.month / 10 % 10) (Nat.mod_lt _ (by decide))

/-- A date as a token. -/
def token (phrase : DatePhrase) : Token := .word ⟨phrase.chars, phrase.starts⟩

end DatePhrase

/-- A span of time: from one date to another, or up to or from a date. -/
inductive SpanPhrase where
  | between (first last : DatePhrase)
  | compare (comparison : Comparison) (date : DatePhrase)

namespace SpanPhrase

/-- The tokens of a span. -/
def tokens : SpanPhrase → List Token
  | between first last => [first.token, .hyphen, last.token]
  | compare comparison date =>
    [.word ⟨comparison.sign.toList, by cases comparison <;> decide⟩, date.token]

/-- The ends of a span, both included. A comparison ends at the end of the calendar, and next to its
date when that is excluded; "equal" means the whole day. -/
def range : SpanPhrase → TimeRange
  | between first last => { start := first.instant, finish := last.instant }
  | compare .equal date => { start := .midnight date.date, finish := .lastSecond date.date }
  | compare .lessOrEqual date => { start := .first, finish := date.instant }
  | compare .greaterOrEqual date => { start := date.instant, finish := .last }
  | compare .less date =>
    { start := .first
      finish := date.instant.previousMicrosecond?.get date.previousMicrosecond?_isSome }
  | compare .greater date =>
    { start := date.instant.nextMicrosecond?.get date.nextMicrosecond?_isSome
      finish := .last }

end SpanPhrase

/-- The options of a span: what is compared with it. -/
inductive SourcePhrase where
  | unsaid
  | clock
  | name
  /-- A date in the name that is written as a template says; the template comes before the other
  option or after it. -/
  | template (templateFirst : Bool) (template : Literal) (pattern : DatePattern)
    (pattern_eq : DatePattern.ofTemplate? template.text = some pattern)

namespace SourcePhrase

/-- The options that say what is compared. -/
def options : SourcePhrase → List OptionPhrase
  | unsaid => []
  | clock => [{ key := ⟨"T", by decide⟩ }]
  | name => [{ key := ⟨"F", by decide⟩ }]
  | template templateFirst value _ _ =>
    let embedded : OptionPhrase := { key := ⟨"F", by decide⟩ }
    let format : OptionPhrase := { key := ⟨"fmt", by decide⟩, value := some value }
    if templateFirst then [format, embedded] else [embedded, format]

/-- What is compared; the clock, if nothing else is said. -/
def source : SourcePhrase → TimeSource
  | unsaid => .now
  | clock => .now
  | name => .embedded (DatePattern.standard?.get (by decide +kernel))
  | template _ _ pattern _ => .embedded pattern

end SourcePhrase

/-! ## Conditions -/

/-- A condition. Lists of conditions have at least one member. -/
inductive ConditionPhrase where
  | all (first : ConditionPhrase) (rest : List ConditionPhrase)
  | any (first : ConditionPhrase) (rest : List ConditionPhrase)
  | negation (inner : ConditionPhrase)
  | regex (phrase : RegexPhrase)
  | glob (phrase : GlobPhrase)
  | date (span : SpanPhrase) (source : SourcePhrase)

namespace ConditionPhrase

mutual

/-- The tokens of a condition. -/
def tokens : ConditionPhrase → List Token
  | all first rest =>
    BareWord.token ⟨"and", by decide⟩ :: .openParen ::
      (tokens first ++ furtherTokens rest ++ [.closeParen])
  | any first rest =>
    BareWord.token ⟨"or", by decide⟩ :: .openParen ::
      (tokens first ++ furtherTokens rest ++ [.closeParen])
  | negation inner =>
    BareWord.token ⟨"not", by decide⟩ :: .openParen :: (tokens inner ++ [.closeParen])
  | regex phrase => phrase.tokens
  | glob phrase => phrase.tokens
  | date span source => span.tokens ++ optionTokens source.options

/-- The tokens of further conditions, with commas in front. -/
def furtherTokens : List ConditionPhrase → List Token
  | [] => []
  | phrase :: rest => .comma :: (tokens phrase ++ furtherTokens rest)

end

mutual

/-- The condition that a phrase means. -/
def meaning : ConditionPhrase → Condition
  | all first rest => .all (meaning first :: meanings rest)
  | any first rest => .any (meaning first :: meanings rest)
  | negation inner => .negation (meaning inner)
  | regex phrase => .regex phrase.regex
  | glob phrase => .glob phrase.glob
  | date span source => .during { span.range with source := source.source }

/-- The conditions that some phrases mean. -/
def meanings : List ConditionPhrase → List Condition
  | [] => []
  | phrase :: rest => meaning phrase :: meanings rest

end

end ConditionPhrase

/-! ## Rules -/

/-- A rule, perhaps with a condition. -/
inductive RulePhrase where
  | default (guard : Option ConditionPhrase)
  | clips (guard : Option ConditionPhrase) (pre post : List Literal)
  | list (guard : Option ConditionPhrase) (rules : List RulePhrase)

/-- The tokens of a condition in front of a rule. -/
def guardTokens : Option ConditionPhrase → List Token
  | none => []
  | some phrase => phrase.tokens ++ [.colon]

/-- The tokens of a list of clips. -/
def clipTokens : List Literal → List Token
  | [] => [.openBracket, .closeBracket]
  | first :: rest =>
    .openBracket :: (first.token :: rest.flatMap (fun clip => [.comma, clip.token]) ++
      [.closeBracket])

namespace RulePhrase

mutual

/-- The tokens of a rule. -/
def tokens : RulePhrase → List Token
  | default guard => guardTokens guard ++ [BareWord.token ⟨"default", by decide⟩]
  | clips guard pre post =>
    guardTokens guard ++
      (BareWord.token ⟨"pre", by decide⟩ :: .colon :: clipTokens pre ++ .maybeComma ::
        BareWord.token ⟨"post", by decide⟩ :: .colon :: clipTokens post)
  | list guard rules =>
    guardTokens guard ++ .openBracket :: (sequenceTokens rules ++ [.closeBracket])

/-- The tokens of some rules, one after the other. -/
def sequenceTokens : List RulePhrase → List Token
  | [] => []
  | phrase :: rest => tokens phrase ++ furtherTokens rest

/-- The tokens of further rules, perhaps with commas in front. -/
def furtherTokens : List RulePhrase → List Token
  | [] => []
  | phrase :: rest => .maybeComma :: (tokens phrase ++ furtherTokens rest)

end

mutual

/-- The rule that a phrase means; a condition alone decides that nothing is added. -/
def meaning : RulePhrase → Rule
  | default none => .default
  | default (some guard) => .clips (some guard.meaning) [] []
  | clips guard pre post =>
    .clips (guard.map ConditionPhrase.meaning) (pre.map Literal.text) (post.map Literal.text)
  | list guard rules => .list (guard.map ConditionPhrase.meaning) (meanings rules)

/-- The rules that some phrases mean. -/
def meanings : List RulePhrase → List Rule
  | [] => []
  | phrase :: rest => meaning phrase :: meanings rest

end

end RulePhrase

/-! ## Layout -/

/-- Blanks and comments, perhaps none. A comment ends with its line. -/
inductive Gap : List Char → Prop where
  | nil : Gap []
  | blank {c : Char} {rest : List Char} (hblank : isBlank c = true) (hrest : Gap rest) :
    Gap (c :: rest)
  | comment {text rest : List Char} (htext : ∀ c ∈ text, c ≠ '\n' ∧ c ≠ '\r')
    (hrest : Gap rest) : Gap ('#' :: (text ++ '\n' :: rest))

/-- How much space stands in front of a token. -/
inductive Lead where
  | none
  | some
  | any

/-- Whether a gap may stand in front of a token. -/
def Lead.Allows : Lead → List Char → Prop
  | none, gap => gap = []
  | some, gap => gap ≠ []
  | any, _ => True

/-- A text is a layout of some tokens, with so much space in front of the first; between the tokens
there is some space. -/
inductive LaidOut : Lead → List Token → List Char → Prop where
  | nil {lead : Lead} {gap : List Char} (hgap : Gap gap) (hlead : lead = .none → gap = []) :
    LaidOut lead [] gap
  | word {lead : Lead} {word : Word} {tokens : List Token} {gap rest : List Char} (hgap : Gap gap)
    (hlead : lead.Allows gap) (hrest : LaidOut .some tokens rest) :
    LaidOut lead (.word word :: tokens) (gap ++ (word.text ++ rest))
  | comma {lead : Lead} {tokens : List Token} {gap rest : List Char} (hgap : Gap gap)
    (hlead : lead.Allows gap) (hrest : LaidOut .some tokens rest) :
    LaidOut lead (.maybeComma :: tokens) (gap ++ ',' :: rest)
  | noComma {lead : Lead} {tokens : List Token} {text : List Char}
    (htokens : LaidOut lead tokens text) : LaidOut lead (.maybeComma :: tokens) text

/-- Some tokens with a gap behind each, with or without the commas that may be missing. -/
def layOut (gap : List Char) (commas : Bool) : List Token → List Char
  | [] => []
  | .word word :: rest => word.text ++ (gap ++ layOut gap commas rest)
  | .maybeComma :: rest =>
    if commas then ',' :: (gap ++ layOut gap commas rest) else layOut gap commas rest

/-- All tokens can be laid out with any gap between them. -/
theorem laidOut_layOut {gap : List Char} (hgap : Gap gap) (hne : gap ≠ []) (commas : Bool)
    (tokens : List Token) : LaidOut .any tokens (layOut gap commas tokens) := by
  -- only the first token has no gap in front, so the others are laid out first
  have hbehind : ∀ tokens, LaidOut .some tokens (gap ++ layOut gap commas tokens) := by
    intro tokens
    induction tokens with
    | nil =>
      rw [layOut, List.append_nil]
      exact .nil hgap nofun
    | cons token rest ih =>
      cases token with
      | word word => exact .word hgap hne ih
      | maybeComma =>
        cases commas with
        | true => exact .comma hgap hne ih
        | false => exact .noComma ih
  induction tokens with
  | nil => exact .nil .nil nofun
  | cons token rest ih =>
    cases token with
    | word word => exact .word .nil trivial (hbehind rest)
    | maybeComma =>
      cases commas with
      | true => exact .comma .nil trivial (hbehind rest)
      | false => exact .noComma ih

end ClipSplice.RuleText
