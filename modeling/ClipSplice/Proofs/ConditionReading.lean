import ClipSplice.Proofs.WordReading

/-!
# Reading conditions

A condition that is laid out as `LaidOut` says is read as what it means, at any depth of nesting
that has room for it (`reads_condition`). The four kinds of conditions start with different
characters, so that no kind is taken for another one: lists and negations with a letter of their
keyword, regular expressions with the letter of their mark, dates with a digit or a sign, globs with
a quote.
-/

namespace ClipSplice.RuleText

open Reader

/-! ## Options -/

/-- An option is read as its key and its value. -/
def OptionPhrase.ReadAs (phrase : OptionPhrase) (tree : OptionTree) : Prop :=
  tree.key = phrase.key.text ∧ tree.value = phrase.value.map Literal.text

theorem notAhead_ofChar {c d : Char} {starts : startsWord [d] = true} {tokens : List Token}
    (h : d ≠ c) : NotAhead c (.ofChar d starts :: tokens) :=
  notAhead_word fun hd => h (Option.some.inj hd)

/-- Something that is closed by a mark. -/
theorem Reads.close {α : Type} {reader : Reader α} {lead : Lead} {tokens : List Token}
    {follow follow' : List Token → Prop} {good : α → Prop}
    (h : Reads lead reader tokens follow good) (c : Char) (starts : startsWord [c] = true)
    (hfollow : ∀ more, follow' more → follow (.ofChar c starts :: more)) :
    Reads lead (do let value ← reader; space; char c; return value)
      (tokens ++ [.ofChar c starts]) follow' good := by
  refine h.bind (fun value hvalue => .space_bind ?_) hfollow
  exact (reads_char c starts).ofTrue.bind_pure fun _ _ => hvalue

private theorem reads_optionValue (value : Option Literal) :
    Reads .some
      (optional do
        space
        char '='
        space
        labelled .optionValue (must string))
      ((value.map fun value => [Token.equals, value.token]).getD []) (NotAhead '=')
      (· = value.map Literal.text) := by
  cases value with
  | none =>
    refine Reads.optional_none fun more text hmore hlaid => ?_
    exact Misses.space_bind (char_misses (hmore _ hlaid.skipSpace)).bind
  | some value =>
    have hvalue : Reads .some (do space; labelled .optionValue (must string)) [value.token]
        (fun _ => True) (· = value.text) :=
      .space_bind (.labelled _ (.must (reads_string value)))
    have hread := (reads_char '=' (by decide)).bind (fun _ _ => hvalue) fun _ _ => trivial
    refine (Reads.space_bind hread).optional.mono (fun _ _ => trivial) ?_
    rintro _ ⟨_, rfl, rfl⟩
    rfl

/-- An option, with any space in front. -/
theorem reads_option (phrase : OptionPhrase) {lead : Lead} :
    Reads lead option phrase.tokens (NotAhead '=') phrase.ReadAs := by
  refine .space_bind (.bytesLeft_bind fun place => ?_)
  refine ((reads_bareWord phrase.key).labelled _).bind (fun key hkey => ?_) fun _ _ => trivial
  exact (reads_optionValue phrase.value).bind_pure fun value hvalue => ⟨hkey, hvalue⟩

/-- Options are read when they are there; nothing else starts with their bracket. -/
theorem reads_maybeOptions (phrases : List OptionPhrase) :
    Reads .some maybeOptions (optionTokens phrases) (NotAhead '[')
      fun trees => List.Forall₂ OptionPhrase.ReadAs phrases trees := by
  cases phrases with
  | nil =>
    have hnone : Reads .some (optional options) [] (NotAhead '[') fun found => found = none :=
      .optional_none fun more text hmore hlaid =>
        Misses.space_bind (char_misses (hmore _ hlaid.skipSpace)).bind
    refine hnone.bind_pure ?_
    rintro _ rfl
    exact .nil
  | cons first rest =>
    have hlist : Reads .none (separated comma option)
        (first.tokens ++ rest.flatMap fun phrase => .comma :: phrase.tokens)
        (fun more => NotAhead '=' more ∧ NotAhead ',' more)
        fun trees => List.Forall₂ OptionPhrase.ReadAs (first :: rest) trees :=
      reads_separated (fun phrase _ => reads_option phrase)
        (fun more => notAhead_ofChar (by decide)) (fun more hmore => hmore.1)
        fun more hmore => hmore.2
    have hoptions : Reads .some options (optionTokens (first :: rest)) (NotAhead '[')
        fun trees => List.Forall₂ OptionPhrase.ReadAs (first :: rest) trees := by
      refine .space_bind ((reads_char '[' (by decide)).bind (fun _ _ => ?_) fun _ _ => trivial)
      refine .labelled _ (.must (.space_bind (hlist.close ']' (by decide) fun more _ => ?_)))
      exact ⟨notAhead_ofChar (by decide), notAhead_ofChar (by decide)⟩
    refine hoptions.optional.bind_pure ?_
    rintro _ ⟨trees, rfl, htrees⟩
    exact htrees

/-! ## Regular expressions and globs -/

/-- What was found without a fault is passed on. -/
theorem ok_bind {ε α β : Type} (value : α) (next : α → Except ε β) :
    (Except.ok value >>= next) = next value := rfl

theorem orFault_of_eq_some {α : Type} {source : String} {place : Nat} {cause : Cause}
    {found : Option α} {value : α} (h : found = some value) :
    orFault source place cause found = .ok value := by
  rw [h, orFault]

theorem regexFlags_union_assoc (a b c : RegexFlags) :
    (a.union b).union c = a.union (b.union c) := by
  simp [RegexFlags.union, Bool.or_assoc]

/-- Every letter adds its flag to those before it. -/
theorem regexFlags_of_readAs {letters : List RegexLetter} {trees : List OptionTree}
    (source : String) (flags : RegexFlags)
    (htrees : List.Forall₂ OptionPhrase.ReadAs (letters.map RegexLetter.option) trees) :
    regexFlags source flags trees = .ok (flags.union (RegexLetter.flags letters)) := by
  -- the flags that were found so far are any flags
  induction letters generalizing flags trees with
  | nil =>
    cases htrees
    simp [regexFlags, RegexLetter.flags, RegexFlags.union]
  | cons letter letters ih =>
    cases htrees with
    | @cons _ tree _ trees htree htrees =>
      have hvalue : tree.value = none := by
        rw [htree.2]
        cases letter <;> rfl
      have hletter : RegexFlags.ofLetter? tree.key = some (RegexLetter.flags [letter]) := by
        rw [htree.1]
        cases letter <;> rfl
      have hflags : RegexLetter.flags (letter :: letters) =
          (RegexLetter.flags [letter]).union (RegexLetter.flags letters) := by
        simp [RegexLetter.flags, RegexFlags.union]
      rw [regexFlags, hvalue, hletter]
      simp only
      rw [ih _ htrees, hflags, regexFlags_union_assoc]

/-- A regular expression is what its pattern and its flags write. -/
theorem anchoredRegex_new?_self (regex : AnchoredRegex) :
    AnchoredRegex.new? regex.pattern regex.flags = some regex := by
  unfold AnchoredRegex.new?
  split
  case h_1 compiled hcompiled =>
    have hsame := Option.some.inj (hcompiled.symm.trans regex.regex_eq)
    subst hsame
    rfl
  case h_2 hnone => exact absurd (hnone.symm.trans regex.regex_eq) nofun

/-- A regular expression is read as itself. -/
theorem reads_regexCondition (phrase : RegexPhrase) (place : Nat) :
    Reads .none (regexCondition place) phrase.tokens (NotAhead '[')
      fun tree => ∀ source, conditionOf source tree = .ok (.regex phrase.regex) := by
  have hpattern : Reads .none
      (do
        exactly "regex:".toList
        labelled .regularExpression (must (quoted <|> bareRegex)))
      [.word ⟨"regex:".toList ++ phrase.pattern.chars, by rfl⟩] (fun _ => True)
      (· = phrase.pattern.text) := by
    intro more text _ hlaid
    obtain ⟨rest, rfl, hrest⟩ := hlaid.exists_rest
    refine ⟨phrase.pattern.text, rest, ?_, rfl, hrest⟩
    have hquoted : (quoted <|> bareRegex) (phrase.pattern.chars ++ rest) =
        .done phrase.pattern.text rest := orElse_of_done (phrase.pattern.quoted_chars rest)
    simp only [List.append_assoc]
    refine (bind_of_done (exactly_append _ _)).trans ?_
    rw [labelled, must, hquoted]
  -- the mark and the pattern are one word, so they are read together
  rw [regexCondition, ← bind_assoc]
  refine hpattern.bind (fun pattern hpattern => ?_) fun _ _ => trivial
  refine (reads_maybeOptions _).bind_pure fun trees htrees source => ?_
  have hflags : regexFlags source .none trees = .ok phrase.regex.flags := by
    rw [regexFlags_of_readAs source .none htrees, phrase.flags_eq]
    simp [RegexFlags.union, RegexFlags.none]
  rw [conditionOf, hflags, ok_bind, hpattern, ← phrase.pattern_eq,
    orFault_of_eq_some (anchoredRegex_new?_self phrase.regex)]
  rfl

theorem globCase_of_readAs (caseSensitive : Bool) {trees : List OptionTree} (source : String)
    (htrees : List.Forall₂ OptionPhrase.ReadAs
      (if caseSensitive then [] else [RegexLetter.ignoreCase.option]) trees) :
    globCase source true trees = .ok caseSensitive := by
  cases caseSensitive with
  | true =>
    cases htrees
    rfl
  | false =>
    cases htrees with
    | @cons _ tree _ trees htree htrees =>
      cases htrees
      rw [globCase, if_pos ⟨htree.1, htree.2⟩]
      rfl

/-- A glob is what its text writes. -/
theorem glob_new?_self (glob : Glob) : Glob.new? glob.text glob.caseSensitive = some glob := by
  unfold Glob.new?
  split
  case h_1 compiled hcompiled =>
    have hsame := Option.some.inj (hcompiled.symm.trans glob.regex_eq)
    subst hsame
    rfl
  case h_2 hnone => exact absurd (hnone.symm.trans glob.regex_eq) nofun

/-- A glob is read as itself. -/
theorem reads_globCondition (phrase : GlobPhrase) (place : Nat) :
    Reads .none (globCondition place) phrase.tokens (NotAhead '[')
      fun tree => ∀ source, conditionOf source tree = .ok (.glob phrase.glob) := by
  refine (reads_string phrase.pattern).bind (fun text htext => ?_) fun _ _ => trivial
  refine (reads_maybeOptions _).bind_pure fun trees htrees source => ?_
  rw [conditionOf, globCase_of_readAs _ source htrees, ok_bind, htext, ← phrase.text_eq,
    orFault_of_eq_some (glob_new?_self phrase.glob)]
  rfl

/-! ## Dates -/

/-- What the options of a date are read as: no pattern for the clock. -/
def SourcePhrase.ReadAs (phrase : SourcePhrase) : Option DatePattern → Prop
  | none => phrase.source = .now
  | some pattern => phrase.source = .embedded pattern

theorem dateOptions_source {source : String} {found : DateOptions} {tree : OptionTree}
    {rest : List OptionTree} (hkey : tree.key = "F" ∨ tree.key = "T") (hvalue : tree.value = none)
    (hfound : found.source = none) : dateOptions source found (tree :: rest) =
      dateOptions source { found with source := some tree.key } rest := by
  rw [dateOptions, if_pos ⟨hkey, hvalue⟩, hfound]

theorem dateOptions_template {source text : String} {found : DateOptions} {tree : OptionTree}
    {rest : List OptionTree} (hkey : tree.key = "fmt") (hvalue : tree.value = some text) :
    dateOptions source found (tree :: rest) =
      dateOptions source { found with template := some (tree.place, text) } rest := by
  have hother : ¬((tree.key = "F" ∨ tree.key = "T") ∧ tree.value = none) := by simp [hvalue]
  rw [dateOptions, if_neg hother, hkey, hvalue]
  rfl

theorem checkDuplicates_cons {source : String} {seen : List String} {tree : OptionTree}
    {rest : List OptionTree} (hkey : tree.key ∉ seen) : checkDuplicates source seen (tree :: rest) =
      checkDuplicates source (tree.key :: seen) rest := by
  rw [checkDuplicates, if_neg (by simpa using hkey)]

/-- A template is used when `F` stands beside it. -/
theorem datePattern_of_template {source text : String} {place templatePlace : Nat}
    {trees : List OptionTree} {pattern : DatePattern}
    (hduplicates : checkDuplicates source [] trees = .ok ())
    (hoptions : dateOptions source {} trees =
      .ok { source := some "F", template := some (templatePlace, text) })
    (hpattern : DatePattern.ofTemplate? text = some pattern) :
    datePattern source place trees = .ok (some pattern) := by
  rw [datePattern, hduplicates, ok_bind, hoptions, ok_bind]
  simp only
  rw [orFault_of_eq_some hpattern]
  rfl

/-- The options of a date are read as what they say is compared. -/
theorem datePattern_of_readAs {phrase : SourcePhrase} {trees : List OptionTree}
    (htrees : List.Forall₂ OptionPhrase.ReadAs phrase.options trees) (source : String)
    (place : Nat) : ∃ found, datePattern source place trees = .ok found ∧ phrase.ReadAs found := by
  cases phrase with
  | unsaid =>
    cases htrees
    exact ⟨none, rfl, rfl⟩
  | clock =>
    obtain ⟨tree, _, ⟨hkey, hvalue⟩, hnil, rfl⟩ := List.forall₂_cons_left_iff.1 htrees
    cases hnil
    refine ⟨none, ?_, rfl⟩
    rw [datePattern, checkDuplicates_cons List.not_mem_nil, checkDuplicates, ok_bind,
      dateOptions_source (.inr hkey) hvalue rfl, dateOptions, ok_bind, hkey]
    rfl
  | name =>
    obtain ⟨tree, _, ⟨hkey, hvalue⟩, hnil, rfl⟩ := List.forall₂_cons_left_iff.1 htrees
    cases hnil
    refine ⟨some _, ?_, rfl⟩
    rw [datePattern, checkDuplicates_cons List.not_mem_nil, checkDuplicates, ok_bind,
      dateOptions_source (.inl hkey) hvalue rfl, dateOptions, ok_bind, hkey]
    simp only
    -- the standard pattern is not computed here, it is known to exist
    rw [orFault_of_eq_some (Option.some_get _).symm]
    rfl
  | template templateFirst template pattern hpattern =>
    refine ⟨some pattern, ?_, rfl⟩
    have hdiffers : "F" ≠ "fmt" := by decide
    cases templateFirst with
    | true =>
      obtain ⟨format, _, ⟨hfmt, hvalue⟩, htail, rfl⟩ := List.forall₂_cons_left_iff.1 htrees
      obtain ⟨flag, _, ⟨hkey, hnone⟩, hnil, rfl⟩ := List.forall₂_cons_left_iff.1 htail
      cases hnil
      have hnew : flag.key ∉ [format.key] := by
        rw [hkey, hfmt, List.mem_singleton]
        exact hdiffers
      have hduplicates : checkDuplicates source [] [format, flag] = .ok () := by
        rw [checkDuplicates_cons List.not_mem_nil, checkDuplicates_cons hnew, checkDuplicates]
      have hoptions : dateOptions source {} [format, flag] =
          .ok { source := some "F", template := some (format.place, template.text) } := by
        rw [dateOptions_template hfmt hvalue, dateOptions_source (.inl hkey) hnone rfl,
          dateOptions, hkey]
      exact datePattern_of_template hduplicates hoptions hpattern
    | false =>
      obtain ⟨flag, _, ⟨hkey, hnone⟩, htail, rfl⟩ := List.forall₂_cons_left_iff.1 htrees
      obtain ⟨format, _, ⟨hfmt, hvalue⟩, hnil, rfl⟩ := List.forall₂_cons_left_iff.1 htail
      cases hnil
      have hnew : format.key ∉ [flag.key] := by
        rw [hkey, hfmt, List.mem_singleton]
        exact hdiffers.symm
      have hduplicates : checkDuplicates source [] [flag, format] = .ok () := by
        rw [checkDuplicates_cons List.not_mem_nil, checkDuplicates_cons hnew, checkDuplicates]
      have hoptions : dateOptions source {} [flag, format] =
          .ok { source := some "F", template := some (format.place, template.text) } := by
        rw [dateOptions_source (.inl hkey) hnone rfl, dateOptions_template hfmt hvalue,
          dateOptions, hkey]
      exact datePattern_of_template hduplicates hoptions hpattern

/-- A sign is taken as a whole: the shorter signs end where space follows. -/
theorem reads_comparison (sign : Comparison) (starts : startsWord sign.sign.toList = true) :
    Reads .none comparison [.word ⟨sign.sign.toList, starts⟩] (fun _ => True) (· = sign) := by
  intro more text _ hlaid
  obtain ⟨rest, rfl, hrest⟩ := hlaid.exists_rest
  refine ⟨sign, rest, ?_, rfl, hrest⟩
  have hequal : rest.head? ≠ some '=' := by
    intro hhead
    obtain ⟨behind, rfl⟩ := List.head?_eq_some_iff.1 hhead
    exact absurd hrest.head_of_some (by decide)
  -- a sign with a second character is turned down
  have hlong (c : Char) : Misses (exactly [c, '=']) (c :: rest) := by
    refine ⟨[], c :: rest, ?_⟩
    cases rest with
    | nil => simp [exactly, Text.after?]
    | cons d rest =>
      have hd : '=' ≠ d := fun h => hequal (by rw [← h]; rfl)
      simp [exactly, Text.after?, hd]
  have hother {c d : Char} (start : List Char) (hcd : c ≠ d) :
      Misses (exactly (d :: start)) (c :: rest) := exactly_misses fun h => hcd (Option.some.inj h)
  cases sign with
  | equal =>
    show comparison ('=' :: rest) = _
    rw [comparison, orElse_of_misses (hother _ (by decide)).bind,
      orElse_of_misses (hother _ (by decide)).bind, orElse_of_misses (hother _ (by decide)).bind,
      orElse_of_misses (hother _ (by decide)).bind]
    exact bind_of_done (exactly_append ['='] rest)
  | greater =>
    show comparison ('>' :: rest) = _
    rw [comparison, orElse_of_misses (hother _ (by decide)).bind, orElse_of_misses (hlong '>').bind,
      orElse_of_misses (hother _ (by decide)).bind]
    exact orElse_of_done (bind_of_done (exactly_append ['>'] rest))
  | greaterOrEqual =>
    show comparison ('>' :: '=' :: rest) = _
    rw [comparison, orElse_of_misses (exactly_misses (by simp)).bind]
    exact orElse_of_done (bind_of_done (exactly_append ['>', '='] rest))
  | less =>
    show comparison ('<' :: rest) = _
    rw [comparison, orElse_of_misses (hlong '<').bind, orElse_of_misses (hother _ (by decide)).bind]
    exact orElse_of_done (bind_of_done (exactly_append ['<'] rest))
  | lessOrEqual => exact orElse_of_done (bind_of_done (exactly_append ['<', '='] rest))

theorem comparison_misses {text : List Char}
    (h : ∀ c, text.head? = some c → c ≠ '<' ∧ c ≠ '>' ∧ c ≠ '=') : Misses comparison text := by
  have hless : text.head? ≠ some '<' := fun hc => (h _ hc).1 rfl
  have hgreater : text.head? ≠ some '>' := fun hc => (h _ hc).2.1 rfl
  have hequal : text.head? ≠ some '=' := fun hc => (h _ hc).2.2 rfl
  refine (exactly_misses hless).bind.orElse ((exactly_misses hgreater).bind.orElse ?_)
  refine (exactly_misses hless).bind.orElse ((exactly_misses hgreater).bind.orElse ?_)
  exact (exactly_misses hequal).bind

theorem isDigit_of_head?_chars {phrase : DatePhrase} {c : Char} (h : phrase.chars.head? = some c) :
    c.isDigit = true := by
  have hfirst : phrase.chars.head? = some (Nat.digitChar (phrase.date.month / 10 % 10)) := rfl
  rw [hfirst] at h
  rw [← Option.some.inj h, Nat.isDigit_digitChar]
  exact decide_eq_true (Nat.mod_lt _ (by decide))

theorem noDigitAhead_ofChar {d : Char} {starts : startsWord [d] = true} {tokens : List Token}
    (h : d.isDigit = false) : NoDigitAhead (.ofChar d starts :: tokens) :=
  fun _ hc => notAhead_ofChar fun hd => Bool.false_ne_true (h.symm.trans (hd ▸ hc))

theorem dateOf_of_instant? {source : String} {place : Nat} {date : DateLiteral} {t : Instant}
    (h : date.instant? = some t) : dateOf source place date = .ok t :=
  orFault_of_eq_some h

theorem compare?_eq (sign : Comparison) (date : DatePhrase) :
    TimeRange.compare? sign date.instant = some (SpanPhrase.compare sign date).range := by
  cases sign with
  | equal => rfl
  | greaterOrEqual => rfl
  | lessOrEqual => rfl
  | greater =>
    have hnext := (Option.some_get date.nextMicrosecond?_isSome).symm
    rw [TimeRange.compare?, Comparison.bounds?, hnext]
    rfl
  | less =>
    have hprevious := (Option.some_get date.previousMicrosecond?_isSome).symm
    rw [TimeRange.compare?, Comparison.bounds?, hprevious]
    rfl

/-- A span of time is read as its range. -/
theorem reads_span (span : SpanPhrase) :
    Reads .none (comparedDate <|> dateInterval) span.tokens NoDigitAhead
      fun tree => ∀ source place, rangeOf source place tree = .ok span.range := by
  cases span with
  | between first last =>
    have hlast : Reads .some (do space; labelled .endDate (must dateLiteral)) [last.token]
        NoDigitAhead (·.instant? = some last.instant) :=
      .space_bind ((reads_dateLiteral last).must.labelled _)
    refine .orElse_right (fun more text hlaid => ?_) ?_
    · refine (comparison_misses fun c hc => ?_).bind
      rw [hlaid.head?_eq] at hc
      have hdigit := isDigit_of_head?_chars hc
      refine ⟨?_, ?_, ?_⟩ <;>
        · rintro rfl
          exact absurd hdigit (by decide)
    · refine (reads_dateLiteral first).bind (fun date hdate => .space_bind ?_)
        fun more _ => noDigitAhead_ofChar (by decide)
      refine (reads_char '-' (by decide)).bind (fun _ _ => ?_) fun _ _ => trivial
      refine hlast.bind_pure fun date' hdate' source place => ?_
      rw [rangeOf, dateOf_of_instant? hdate, ok_bind, dateOf_of_instant? hdate', ok_bind]
      rfl
  | compare sign date =>
    have hdate : Reads .some (do space; labelled .date (must dateLiteral)) [date.token]
        NoDigitAhead (·.instant? = some date.instant) :=
      .space_bind ((reads_dateLiteral date).must.labelled _)
    refine .orElse_left ((reads_comparison sign _).bind (fun sign' hsign => ?_) fun _ _ => trivial)
    refine hdate.bind_pure fun date' hdate' source place => ?_
    rw [rangeOf, dateOf_of_instant? hdate', ok_bind, hsign]
    exact orFault_of_eq_some (compare?_eq sign date)

/-! ## Conditions -/

/-- What may stand behind a condition: no options and no time of day. -/
def EndsCondition (tokens : List Token) : Prop := NotAhead '[' tokens ∧ NoDigitAhead tokens

theorem endsCondition_ofChar {d : Char} {starts : startsWord [d] = true} {tokens : List Token}
    (hbracket : d ≠ '[') (hdigit : d.isDigit = false) :
    EndsCondition (.ofChar d starts :: tokens) :=
  ⟨notAhead_ofChar hbracket, noDigitAhead_ofChar hdigit⟩

/-- A condition is read as what it means. -/
def ConditionPhrase.ReadAs (phrase : ConditionPhrase) (tree : ConditionTree) : Prop :=
  ∀ source, conditionOf source tree = .ok phrase.meaning

theorem SpanPhrase.range_source (span : SpanPhrase) : span.range.source = .now := by
  cases span with
  | between first last => rfl
  | compare sign date => cases sign <;> rfl

theorem conditionOf_date {span : SpanPhrase} {phrase : SourcePhrase} {tree : DateSpan}
    {trees : List OptionTree} {source : String} (place : Nat)
    (hrange : rangeOf source place tree = .ok span.range)
    (htrees : List.Forall₂ OptionPhrase.ReadAs phrase.options trees) :
    conditionOf source (.date place tree trees) =
      .ok (.during { span.range with source := phrase.source }) := by
  obtain ⟨found, hfound, hread⟩ := datePattern_of_readAs htrees source place
  rw [conditionOf, hrange, ok_bind, hfound, ok_bind]
  cases found with
  | none =>
    -- without an option for it, the source stays that of the span
    have hnow : phrase.source = span.range.source := hread.trans span.range_source.symm
    rw [hnow]
    rfl
  | some pattern =>
    have hembedded : phrase.source = .embedded pattern := hread
    rw [hembedded]
    rfl

theorem reads_dateCondition (span : SpanPhrase) (phrase : SourcePhrase) (place : Nat) :
    Reads .none (dateCondition place) (ConditionPhrase.date span phrase).tokens EndsCondition
      (ConditionPhrase.date span phrase).ReadAs := by
  -- a date may be followed by a time, so no digit may stand behind it
  have hend : ∀ more, EndsCondition more → NoDigitAhead (optionTokens phrase.options ++ more) := by
    intro more hmore
    cases phrase.options with
    | nil => exact hmore.2
    | cons first rest => exact noDigitAhead_ofChar (by decide)
  rw [ConditionPhrase.tokens]
  refine (reads_span span).bind (fun tree htree => ?_) hend
  have hoptions := (reads_maybeOptions phrase.options).mono
    (fun more (hmore : EndsCondition more) => hmore.1) fun _ htrees => htrees
  refine hoptions.bind_pure fun trees htrees source => ?_
  rw [conditionOf_date place (htree source place) htrees, ConditionPhrase.meaning]

theorem ConditionPhrase.furtherTokens_eq_flatMap (phrases : List ConditionPhrase) :
    furtherTokens phrases = phrases.flatMap fun phrase => .comma :: phrase.tokens := by
  induction phrases with
  | nil => rfl
  | cons phrase phrases ih =>
    rw [furtherTokens, ih]
    rfl

theorem conditionsOf_of_readAs {phrases : List ConditionPhrase} {trees : List ConditionTree}
    (htrees : List.Forall₂ ConditionPhrase.ReadAs phrases trees) (source : String) :
    conditionsOf source trees = .ok (ConditionPhrase.meanings phrases) := by
  induction htrees with
  | nil => rfl
  | cons htree _ ih =>
    rw [conditionsOf, htree source, ok_bind, ih]
    rfl

section Compound

variable {reader : Reader ConditionTree}

/-- A list of conditions between parentheses. -/
theorem reads_conditionList {first : ConditionPhrase} {rest : List ConditionPhrase}
    (hmembers : ∀ phrase ∈ first :: rest,
      Reads .any reader phrase.tokens EndsCondition phrase.ReadAs) :
    Reads .some (conditionList reader)
      (.openParen :: (first.tokens ++ ConditionPhrase.furtherTokens rest ++ [.closeParen]))
      EndsCondition fun trees => List.Forall₂ ConditionPhrase.ReadAs (first :: rest) trees := by
  have hlist : Reads .some (separated comma reader)
      (first.tokens ++ ConditionPhrase.furtherTokens rest)
      (fun more => EndsCondition more ∧ NotAhead ',' more)
      fun trees => List.Forall₂ ConditionPhrase.ReadAs (first :: rest) trees := by
    rw [ConditionPhrase.furtherTokens_eq_flatMap]
    exact reads_separated hmembers (fun _ => endsCondition_ofChar (by decide) (by decide))
      (fun _ hmore => hmore.1) fun _ hmore => hmore.2
  refine .space_bind ((reads_char '(' (by decide)).bind (fun _ _ => ?_) fun _ _ => trivial)
  refine (hlist.must.labelled _).bind (fun trees htrees => ?_) fun more _ => ?_
  · exact (reads_closing ')' (by decide)).ofTrue.bind_pure fun _ _ => htrees
  · exact ⟨endsCondition_ofChar (by decide) (by decide), notAhead_ofChar (by decide)⟩

/-- A condition that is made from others starts with a letter of a keyword. -/
theorem compound_misses {text : List Char}
    (h : ∀ c, text.head? = some c → c ≠ 'a' ∧ c ≠ 'o' ∧ c ≠ 'n') :
    Misses (compound reader) text := by
  have hand : text.head? ≠ "and".toList.head? := fun hc => (h 'a' hc).1 rfl
  have hor : text.head? ≠ "or".toList.head? := fun hc => (h 'o' hc).2.1 rfl
  have hnot : text.head? ≠ "not".toList.head? := fun hc => (h 'n' hc).2.2 rfl
  exact ((keyword_misses hand).bind.orElse
    ((keyword_misses hor).bind.orElse (keyword_misses hnot).bind)).bind

theorem reads_all {first : ConditionPhrase} {rest : List ConditionPhrase}
    (hmembers : ∀ phrase ∈ first :: rest,
      Reads .any reader phrase.tokens EndsCondition phrase.ReadAs) :
    Reads .none (compound reader) (ConditionPhrase.all first rest).tokens EndsCondition
      (ConditionPhrase.all first rest).ReadAs := by
  have hkeyword : Reads .none
      (do keyword "and"; return (do return ConditionTree.all (← conditionList reader)))
      [BareWord.token ⟨"and", by decide⟩] (fun _ => True)
      (· = do return ConditionTree.all (← conditionList reader)) :=
    (reads_keyword ⟨"and", by decide⟩).bind_pure fun _ _ => rfl
  rw [ConditionPhrase.tokens]
  refine hkeyword.orElse_left.bind (fun make hmake => ?_) fun _ _ => trivial
  subst hmake
  refine (reads_conditionList hmembers).bind_pure fun trees htrees source => ?_
  rw [conditionOf, conditionsOf_of_readAs htrees source]
  rfl

theorem reads_any {first : ConditionPhrase} {rest : List ConditionPhrase}
    (hmembers : ∀ phrase ∈ first :: rest,
      Reads .any reader phrase.tokens EndsCondition phrase.ReadAs) :
    Reads .none (compound reader) (ConditionPhrase.any first rest).tokens EndsCondition
      (ConditionPhrase.any first rest).ReadAs := by
  have hkeyword : Reads .none
      (do keyword "or"; return (do return ConditionTree.any (← conditionList reader)))
      [BareWord.token ⟨"or", by decide⟩] (fun _ => True)
      (· = do return ConditionTree.any (← conditionList reader)) :=
    (reads_keyword ⟨"or", by decide⟩).bind_pure fun _ _ => rfl
  rw [ConditionPhrase.tokens]
  refine (Reads.orElse_right (fun more text hlaid => ?_) hkeyword.orElse_left).bind
    (fun make hmake => ?_) fun _ _ => trivial
  · exact (keyword_misses_of_ne hlaid (by decide)).bind
  · subst hmake
    refine (reads_conditionList hmembers).bind_pure fun trees htrees source => ?_
    rw [conditionOf, conditionsOf_of_readAs htrees source]
    rfl

theorem reads_negation {inner : ConditionPhrase}
    (hinner : Reads .any reader inner.tokens EndsCondition inner.ReadAs) :
    Reads .none (compound reader) (ConditionPhrase.negation inner).tokens EndsCondition
      (ConditionPhrase.negation inner).ReadAs := by
  have hbody : Reads .some
      (do
        space
        char '('
        let inner ← must reader
        closing ')'
        return ConditionTree.negation inner)
      (.openParen :: (inner.tokens ++ [.closeParen])) EndsCondition
      (ConditionPhrase.negation inner).ReadAs := by
    refine .space_bind ((reads_char '(' (by decide)).bind (fun _ _ => ?_) fun _ _ => trivial)
    refine hinner.ofAny.must.bind (fun tree htree => ?_) fun more _ => ?_
    · refine (reads_closing ')' (by decide)).ofTrue.bind_pure fun _ _ source => ?_
      rw [conditionOf, htree source]
      rfl
    · exact endsCondition_ofChar (by decide) (by decide)
  rw [ConditionPhrase.tokens]
  refine (Reads.orElse_right (fun more text hlaid => ?_)
    (.orElse_right (fun more text hlaid => ?_)
      ((reads_keyword ⟨"not", by decide⟩).bind_pure fun _ _ => rfl))).bind
    (fun make hmake => ?_) fun _ _ => trivial
  · exact (keyword_misses_of_ne hlaid (by decide)).bind
  · exact (keyword_misses_of_ne hlaid (by decide)).bind
  · subst hmake
    exact hbody

end Compound

/-! ## Any condition -/

theorem SpanPhrase.head_isDigit_or_sign {span : SpanPhrase} {tokens : List Token}
    {text : List Char} {c : Char} (hlaid : LaidOut .none (span.tokens ++ tokens) text)
    (hc : text.head? = some c) : c.isDigit = true ∨ c = '<' ∨ c = '>' ∨ c = '=' := by
  cases span with
  | between first last =>
    rw [hlaid.head?_eq] at hc
    exact .inl (isDigit_of_head?_chars hc)
  | compare sign date =>
    rw [hlaid.head?_eq] at hc
    have hsign : ∀ d, sign.sign.toList.head? = some d → d = '<' ∨ d = '>' ∨ d = '=' := by
      cases sign <;> rintro _ ⟨rfl⟩ <;> decide
    exact .inr (hsign c hc)

theorem GlobPhrase.head_quote {phrase : GlobPhrase} {tokens : List Token} {text : List Char}
    {c : Char} (hlaid : LaidOut .none (phrase.tokens ++ tokens) text)
    (hc : text.head? = some c) : c = '\'' ∨ c = '"' := by
  rw [hlaid.head?_eq] at hc
  exact Option.some.inj hc ▸ phrase.pattern.quote_eq

/-- No condition starts with a comma or as a rule without a condition does. -/
theorem ConditionPhrase.notAhead (phrase : ConditionPhrase) {d : Char}
    (hd : d = ',' ∨ d = 'd' ∨ d = 'p' ∨ d = '[') (tokens : List Token) :
    NotAhead d (phrase.tokens ++ tokens) := by
  cases phrase with
  | all _ _ | any _ _ | negation _ | regex _ =>
    rw [ConditionPhrase.tokens]
    refine notAhead_word fun hc => ?_
    rw [← Option.some.inj hc] at hd
    exact absurd hd (by decide)
  | glob phrase =>
    rw [ConditionPhrase.tokens]
    intro text hlaid hc
    rcases phrase.head_quote hlaid hc with rfl | rfl <;> exact absurd hd (by decide)
  | date span source =>
    rw [ConditionPhrase.tokens, List.append_assoc]
    intro text hlaid hc
    rcases SpanPhrase.head_isDigit_or_sign hlaid hc with hdigit | rfl | rfl | rfl
    · rcases hd with rfl | rfl | rfl | rfl <;> exact absurd hdigit (by decide)
    all_goals exact absurd hd (by decide)

theorem regexCondition_misses {text : List Char} (place : Nat) (h : text.head? ≠ some 'r') :
    Misses (regexCondition place) text :=
  have hmark : Misses (exactly ('r' :: "egex:".toList)) text := exactly_misses h
  hmark.bind

theorem dateCondition_misses {text : List Char} (place : Nat)
    (hdigit : ∀ c, text.head? = some c → c.isDigit = false)
    (hsign : ∀ c, text.head? = some c → c ≠ '<' ∧ c ≠ '>' ∧ c ≠ '=') :
    Misses (dateCondition place) text :=
  ((comparison_misses hsign).bind.orElse
    (dateLiteral_misses (dateParts_misses hdigit)).bind).bind

theorem SpanPhrase.wordCount_tokens_pos (span : SpanPhrase) : 0 < wordCount span.tokens := by
  cases span <;> exact Nat.succ_pos _

theorem ConditionPhrase.wordCount_tokens_pos (phrase : ConditionPhrase) :
    0 < wordCount phrase.tokens := by
  cases phrase with
  | date span source =>
    rw [ConditionPhrase.tokens, wordCount_append]
    exact Nat.add_pos_left span.wordCount_tokens_pos _
  | all _ _ | any _ _ | negation _ | regex _ | glob _ =>
    rw [ConditionPhrase.tokens]
    exact Nat.succ_pos _

private theorem wordCount_parens (keyword : BareWord) (inner : List Token) :
    wordCount (keyword.token :: .openParen :: (inner ++ [.closeParen])) = wordCount inner + 3 := by
  show wordCount (inner ++ [.closeParen]) + 1 + 1 = _
  rw [wordCount_append]
  rfl

theorem ConditionPhrase.wordCount_le_of_mem {phrase first : ConditionPhrase}
    {rest : List ConditionPhrase} (hmem : phrase ∈ first :: rest) :
    wordCount phrase.tokens ≤ wordCount first.tokens + wordCount (furtherTokens rest) := by
  induction rest generalizing first with
  | nil =>
    rw [List.mem_singleton.1 hmem]
    exact Nat.le_add_right _ _
  | cons second rest ih =>
    have hcount : wordCount (furtherTokens (second :: rest)) =
        wordCount second.tokens + wordCount (furtherTokens rest) + 1 := by
      rw [furtherTokens, Token.comma, Token.ofChar, wordCount, wordCount_append]
    rcases List.mem_cons.1 hmem with rfl | hmem
    · exact Nat.le_add_right _ _
    · have hle := ih hmem
      omega

/-- A condition is read as what it means when the depth has room for it. -/
theorem reads_condition {depth : Nat} (phrase : ConditionPhrase)
    (hdepth : wordCount phrase.tokens ≤ depth) :
    Reads .any (condition depth) phrase.tokens EndsCondition phrase.ReadAs := by
  -- members of a condition have fewer words than the condition itself
  induction depth generalizing phrase with
  | zero => exact absurd phrase.wordCount_tokens_pos (by omega)
  | succ depth ih =>
    refine .space_bind (.bytesLeft_bind fun place => .labelled _ ?_)
    cases phrase with
    | all first rest =>
      rw [ConditionPhrase.tokens, wordCount_parens, wordCount_append] at hdepth
      refine .orElse_left (reads_all fun phrase hphrase => ih phrase ?_)
      have hle := ConditionPhrase.wordCount_le_of_mem hphrase
      omega
    | any first rest =>
      rw [ConditionPhrase.tokens, wordCount_parens, wordCount_append] at hdepth
      refine .orElse_left (reads_any fun phrase hphrase => ih phrase ?_)
      have hle := ConditionPhrase.wordCount_le_of_mem hphrase
      omega
    | negation inner =>
      rw [ConditionPhrase.tokens, wordCount_parens] at hdepth
      exact .orElse_left (reads_negation (ih inner (by omega)))
    | regex phrase =>
      have hread : Reads .none (regexCondition place) phrase.tokens EndsCondition
          (ConditionPhrase.regex phrase).ReadAs :=
        (reads_regexCondition phrase place).mono (fun _ hmore => hmore.1)
          fun tree htree source => by rw [htree source, ConditionPhrase.meaning]
      rw [ConditionPhrase.tokens]
      -- only lists and negations are tried before
      refine .orElse_right (fun more text hlaid => compound_misses fun c hc => ?_)
        hread.orElse_left
      rw [hlaid.head?_eq] at hc
      exact Option.some.inj hc ▸ by decide
    | glob phrase =>
      have hread : Reads .none (globCondition place) phrase.tokens EndsCondition
          (ConditionPhrase.glob phrase).ReadAs :=
        (reads_globCondition phrase place).mono (fun _ hmore => hmore.1)
          fun tree htree source => by rw [htree source, ConditionPhrase.meaning]
      rw [ConditionPhrase.tokens]
      -- a glob is tried last: its quote has to be turned down by all others
      refine .orElse_right (fun more text hlaid => ?_) (.orElse_right (fun more text hlaid => ?_)
        (.orElse_right (fun more text hlaid => ?_) hread))
      · refine compound_misses fun c hc => ?_
        rcases phrase.head_quote hlaid hc with rfl | rfl <;> decide
      · refine regexCondition_misses place fun hc => ?_
        rcases phrase.head_quote hlaid hc with h | h <;> exact absurd h (by decide)
      · refine dateCondition_misses place (fun c hc => ?_) fun c hc => ?_
        · rcases phrase.head_quote hlaid hc with rfl | rfl <;> decide
        · rcases phrase.head_quote hlaid hc with rfl | rfl <;> decide
    | date span source =>
      have hread := reads_dateCondition span source place
      rw [ConditionPhrase.tokens] at hread ⊢
      refine .orElse_right (fun more text hlaid => ?_) (.orElse_right (fun more text hlaid => ?_)
        hread.orElse_left)
      · rw [List.append_assoc] at hlaid
        refine compound_misses fun c hc => ?_
        rcases SpanPhrase.head_isDigit_or_sign hlaid hc with hdigit | rfl | rfl | rfl
        · refine ⟨?_, ?_, ?_⟩ <;>
            · rintro rfl
              exact absurd hdigit (by decide)
        all_goals decide
      · rw [List.append_assoc] at hlaid
        refine regexCondition_misses place fun hc => ?_
        exact absurd (SpanPhrase.head_isDigit_or_sign hlaid hc) (by decide)

end ClipSplice.RuleText
