import ClipSplice.Proofs.TokenReading

/-!
# Reading single words

Each kind of word of a rule text is taken from its layouts: marks, bare words and keywords, texts
between quotes, and dates. A bare word ends where space follows; a date takes no digits that stand
behind a space, because no word behind a date starts with a digit.
-/

namespace ClipSplice.RuleText

open Reader

/-! ## Marks -/

theorem char_cons (c : Char) (rest : List Char) : char c (c :: rest) = .done () rest := by
  have hread : charWith (· = c) (c :: rest) = .done c rest := by simp [charWith]
  exact bind_of_done hread

theorem charWith_misses {test : Char → Bool} {text : List Char}
    (h : ∀ c, text.head? = some c → test c = false) : Misses (charWith test) text := by
  cases text with
  | nil => exact ⟨[], [], rfl⟩
  | cons c rest => exact ⟨[], c :: rest, by simp [charWith, h c rfl]⟩

theorem char_misses {c : Char} {text : List Char} (h : text.head? ≠ some c) :
    Misses (char c) text := by
  refine (charWith_misses ?_).bind
  intro d hd
  rw [hd] at h
  simpa using h

theorem exactly_append (start rest : List Char) :
    exactly start (start ++ rest) = .done () rest := by
  rw [exactly, Text.after?_eq_some_iff.2 rfl]

theorem exactly_misses {c : Char} {start text : List Char} (h : text.head? ≠ some c) :
    Misses (exactly (c :: start)) text := by
  refine ⟨[], text, ?_⟩
  cases hafter : Text.after? (c :: start) text with
  | none => rw [exactly, hafter]
  | some rest =>
    rw [Text.after?_eq_some_iff.1 hafter] at h
    exact absurd rfl h

section Marks

variable {lead : Lead}

/-- A mark where it stands. -/
theorem reads_char (c : Char) (starts : startsWord [c] = true) :
    Reads .none (char c) [.ofChar c starts] (fun _ => True) fun _ => True := by
  intro more text _ hlaid
  obtain ⟨rest, rfl, hrest⟩ := hlaid.exists_rest
  exact ⟨(), rest, char_cons c rest, trivial, hrest⟩

/-- A mark with space in front. -/
theorem reads_space_char (c : Char) (starts : startsWord [c] = true) :
    Reads lead (do space; char c) [.ofChar c starts] (fun _ => True) fun _ => True :=
  .space_bind (reads_char c starts)

theorem reads_comma : Reads lead comma [.comma] (fun _ => True) fun _ => True :=
  reads_space_char ',' _

theorem reads_closing (c : Char) (starts : startsWord [c] = true) :
    Reads lead (closing c) [.ofChar c starts] (fun _ => True) fun _ => True :=
  .labelled _ (.space_bind (.must (reads_char c starts)))

end Marks

/-- Items with commas between them. -/
theorem reads_separated {α ι : Type} {reader : Reader α} {lead : Lead} {first : ι} {rest : List ι}
    {tokensOf : ι → List Token} {itemFollow follow : List Token → Prop} {itemGood : ι → α → Prop}
    (hitems : ∀ item ∈ first :: rest,
      Reads .any reader (tokensOf item) itemFollow (itemGood item))
    (hnext : ∀ more, itemFollow (.comma :: more)) (hend : ∀ more, follow more → itemFollow more)
    (hcomma : ∀ more, follow more → NotAhead ',' more) :
    Reads lead (separated comma reader)
      (tokensOf first ++ rest.flatMap fun item => .comma :: tokensOf item) follow
      fun values => List.Forall₂ itemGood (first :: rest) values := by
  refine Reads.sequence (hitems first List.mem_cons_self).ofAny (fun item hitem => ?_)
    (fun item more => hnext _) hend (fun more text hmore hlaid => ?_)
    fun item => Nat.succ_pos _
  · exact reads_comma.bind (fun _ _ => (hitems item (List.mem_cons_of_mem _ hitem)).ofAny)
      fun _ _ => trivial
  · exact (Misses.space_bind (char_misses (hcomma more hmore _ hlaid.skipSpace))).bind

/-! ## Bare words -/

/-- Where space is due, a bare word ends. -/
theorem LaidOut.bare_ends {tokens : List Token} {text : List Char}
    (h : LaidOut .some tokens text) : text.takeWhile isBare = [] := by
  cases text with
  | nil => rfl
  | cons c rest =>
    have hbare : isBare c = false := by
      rcases h.head_of_some with hblank | rfl
      · simp [isBare, hblank]
      · decide
    simp [hbare]

theorem wordOf_append {test : Char → Bool} {word rest : List Char} (hne : word ≠ [])
    (hword : ∀ c ∈ word, test c = true) (hrest : rest.takeWhile test = []) :
    wordOf test (word ++ rest) = .done word rest := by
  have htake : (word ++ rest).takeWhile test = word := by
    rw [List.takeWhile_append_of_pos hword, hrest, List.append_nil]
  have hdrop : (word ++ rest).dropWhile test = rest := by
    have hall := List.takeWhile_append_dropWhile (p := test) (l := rest)
    rw [List.dropWhile_append_of_pos hword]
    rwa [hrest, List.nil_append] at hall
  obtain ⟨c, front, rfl⟩ := List.exists_cons_of_ne_nil hne
  simp only [wordOf, htake, hdrop]

theorem wordOf_misses {test : Char → Bool} {text : List Char}
    (h : ∀ c, text.head? = some c → test c = false) : Misses (wordOf test) text := by
  refine ⟨[], text, ?_⟩
  have htake : text.takeWhile test = [] := by
    cases text with
    | nil => rfl
    | cons c rest => simp [h c rfl]
  simp only [wordOf, htake]

theorem reads_bareWord (word : BareWord) :
    Reads .none bareWord [word.token] (fun _ => True) (· = word.text) := by
  intro more text _ hlaid
  obtain ⟨rest, rfl, hrest⟩ := hlaid.exists_rest
  refine ⟨word.text, rest, ?_, rfl, hrest⟩
  have hread := wordOf_append word.bare.1 (List.all_eq_true.1 word.bare.2) hrest.bare_ends
  refine (bind_of_done hread).trans ?_
  rw [String.ofList_toList]
  rfl

theorem reads_keyword (word : BareWord) :
    Reads .none (keyword word.text) [word.token] (fun _ => True) fun _ => True := by
  intro more text hmore hlaid
  obtain ⟨found, rest, hread, rfl, hrest⟩ := reads_bareWord word hmore hlaid
  exact ⟨(), rest, by simp only [keyword, hread, if_true], trivial, hrest⟩

/-- Where another bare word stands the word is not. -/
theorem keyword_misses_of_ne {word : String} {other : BareWord} {tokens : List Token}
    {text : List Char} (hlaid : LaidOut .none (other.token :: tokens) text)
    (h : other.text ≠ word) : Misses (keyword word) text := by
  obtain ⟨found, rest, hread, hfound, _⟩ := reads_bareWord other trivial hlaid
  refine ⟨[], text, ?_⟩
  simp only [keyword, hread, hfound, if_neg h]

/-- A text that starts with another letter is not the word. -/
theorem keyword_misses {word : String} {text : List Char} (h : text.head? ≠ word.toList.head?) :
    Misses (keyword word) text := by
  refine ⟨[], text, ?_⟩
  cases htake : text.takeWhile isBare with
  | nil =>
    have hmiss : bareWord text = .miss [] text := by
      show Reader.bind _ _ _ = _
      simp only [Reader.bind, wordOf, htake]
    simp only [keyword, hmiss]
  | cons c front =>
    have hread : wordOf isBare text = .done (c :: front) (text.dropWhile isBare) := by
      simp only [wordOf, htake]
    have hword : bareWord text =
        .done (String.ofList (c :: front)) (text.dropWhile isBare) := bind_of_done hread
    -- what is found instead has the first letter of the text
    have hne : String.ofList (c :: front) ≠ word := by
      rintro rfl
      have hhead : text.head? = some c := by
        have hall := List.takeWhile_append_dropWhile (p := isBare) (l := text)
        rw [← hall, htake]
        rfl
      rw [hhead, String.toList_ofList] at h
      exact absurd rfl h
    simp only [keyword, hword, if_neg hne]

/-! ## Texts between quotes -/

/-- What was escaped is read back, up to the closing quote. -/
theorem quotedRest_escaped {quote : Char} (hquote : quote ≠ '\\') {text : List Char}
    (hcloses : text.getLast? ≠ some '\\') (rest : List Char) :
    quotedRest quote (escaped quote text ++ quote :: rest) = .done text rest := by
  -- only the last character stands in front of the closing quote, which a `\` would escape
  induction text with
  | nil =>
    cases rest with
    | nil => simp [escaped, quotedRest]
    | cons d rest => simp [escaped, quotedRest]
  | cons c text ih =>
    have htext : text.getLast? ≠ some '\\' := by
      cases text with
      | nil => exact nofun
      | cons d text => rwa [List.getLast?_cons_cons] at hcloses
    have hread := ih htext
    by_cases hc : c = quote
    · rw [escaped, if_pos hc, hc, List.cons_append, List.cons_append, quotedRest,
        if_neg hquote.symm, if_pos ⟨rfl, rfl⟩, hread]
      rfl
    · rw [escaped, if_neg hc, List.cons_append]
      -- what stands behind `c` is no quote unless `c` is the last character
      have hopen : ∃ d behind, escaped quote text ++ quote :: rest = d :: behind ∧
          ¬(c = '\\' ∧ d = quote) := by
        cases text with
        | nil =>
          refine ⟨quote, rest, rfl, fun hslash => hcloses ?_⟩
          rw [hslash.1]
          rfl
        | cons d text =>
          by_cases hd : d = quote
          · refine ⟨'\\', d :: (escaped quote text ++ quote :: rest), ?_, fun hslash => ?_⟩
            · rw [escaped, if_pos hd]
              rfl
            · exact hquote hslash.2.symm
          · refine ⟨d, escaped quote text ++ quote :: rest, ?_, fun hslash => hd hslash.2⟩
            rw [escaped, if_neg hd]
            rfl
      obtain ⟨d, behind, hbehind, hslash⟩ := hopen
      rw [hbehind] at hread ⊢
      rw [quotedRest, if_neg hc, if_neg hslash, hread]
      rfl

theorem Literal.quoted_chars (literal : Literal) (rest : List Char) :
    quoted (literal.chars ++ rest) = .done literal.text rest := by
  have hquote : literal.quote ≠ '\\' := by
    rcases literal.quote_eq with h | h <;> rw [h] <;> decide
  have hfirst : charWith (fun c => c = '\'' || c = '"') (literal.chars ++ rest) =
      .done literal.quote (escaped literal.quote literal.text.toList ++ literal.quote :: rest) := by
    have hmark : (decide (literal.quote = '\'') || decide (literal.quote = '"')) = true := by
      simpa using literal.quote_eq
    have hchars : literal.chars ++ rest = literal.quote ::
        (escaped literal.quote literal.text.toList ++ literal.quote :: rest) := by
      simp [chars]
    rw [hchars, charWith, if_pos hmark]
  have hread := quotedRest_escaped hquote literal.closes rest
  refine (bind_of_done hfirst).trans ((bind_of_done hread).trans ?_)
  rw [String.ofList_toList]
  rfl

theorem quoted_misses {text : List Char} (h : text.head? ≠ some '\'' ∧ text.head? ≠ some '"') :
    Misses quoted text := by
  refine (charWith_misses ?_).bind
  intro c hc
  rw [hc] at h
  simpa using h

theorem reads_quoted (literal : Literal) :
    Reads .none quoted [literal.token] (fun _ => True) (· = literal.text) := by
  intro more text _ hlaid
  obtain ⟨rest, rfl, hrest⟩ := hlaid.exists_rest
  exact ⟨literal.text, rest, literal.quoted_chars rest, rfl, hrest⟩

theorem reads_string (literal : Literal) :
    Reads .none string [literal.token] (fun _ => True) (· = literal.text) :=
  .orElse_left (reads_quoted literal)

/-- Nothing is read as a string where neither a quote nor a bare word starts. -/
theorem string_misses {text : List Char} (hquote : text.head? ≠ some '\'' ∧ text.head? ≠ some '"')
    (hbare : ∀ c, text.head? = some c → isBare c = false) : Misses string text := by
  refine (quoted_misses hquote).orElse ⟨[], text, ?_⟩
  obtain ⟨labels, rest, hmiss⟩ : Misses bareWord text := (wordOf_misses hbare).bind
  simp only [plainWord, hmiss]

/-! ## Dates -/

@[simp] theorem length_digitsOf (count n : Nat) : (digitsOf count n).length = count := by
  induction count generalizing n with
  | zero => rfl
  | succ count ih => rw [digitsOf, List.length_append, ih, List.length_singleton]

theorem isDigit_of_mem_digitsOf {count n : Nat} {c : Char} (hc : c ∈ digitsOf count n) :
    c.isDigit = true := by
  induction count generalizing n with
  | zero => exact absurd hc List.not_mem_nil
  | succ count ih =>
    rw [digitsOf, List.mem_append, List.mem_singleton] at hc
    rcases hc with hc | rfl
    · exact ih hc
    · rw [Nat.isDigit_digitChar]
      exact decide_eq_true (Nat.mod_lt _ (by decide))

/-- The number that some digits write. -/
theorem ofDigitChars_digitsOf {count n : Nat} (hn : n < 10 ^ count) :
    Nat.ofDigitChars 10 (digitsOf count n) 0 = n := by
  induction count generalizing n with
  | zero =>
    rw [Nat.pow_zero, Nat.lt_one_iff] at hn
    rw [hn]
    rfl
  | succ count ih =>
    rw [Nat.pow_succ] at hn
    rw [digitsOf, Nat.ofDigitChars_append, ih (by omega),
      Nat.ofDigitChars_cons_digitChar_of_lt_ten (Nat.mod_lt _ (by decide)), Nat.ofDigitChars_nil]
    omega

theorem digits_append {count n : Nat} (hn : n < 10 ^ count) (rest : List Char) :
    digits count (digitsOf count n ++ rest) = .done n rest := by
  have htake : (digitsOf count n ++ rest).take count = digitsOf count n :=
    List.take_left' (length_digitsOf count n)
  have hdrop : (digitsOf count n ++ rest).drop count = rest :=
    List.drop_left' (length_digitsOf count n)
  have hall : (digitsOf count n).takeWhile Char.isDigit = digitsOf count n :=
    List.takeWhile_eq_self_iff.2 fun _ hc => isDigit_of_mem_digitsOf hc
  simp only [digits, htake, hdrop, hall, length_digitsOf, if_true, ofDigitChars_digitsOf hn]

theorem digits_misses {count : Nat} {text : List Char}
    (h : ∀ c, text.head? = some c → c.isDigit = false) : Misses (digits (count + 1)) text := by
  refine ⟨[], text, ?_⟩
  have htaken : (text.take (count + 1)).takeWhile Char.isDigit = [] := by
    cases text with
    | nil => rfl
    | cons c rest => simp [h c rfl]
  simp [digits, htaken]

theorem isBlank_of_isDigit {c : Char} (hc : c.isDigit = true) : isBlank c = false := by
  have hbounds : 48 ≤ c.toNat ∧ c.toNat ≤ 57 := Char.isDigit_iff_toNat.1 hc
  refine Bool.eq_false_iff.2 fun hblank => ?_
  obtain ⟨r, hr, hlow, hhigh⟩ := isBlank_iff.1 hblank
  simp only [blankTable, List.mem_cons, List.not_mem_nil, or_false] at hr
  rcases hr with rfl | rfl | rfl | rfl | rfl | rfl | rfl | rfl | rfl | rfl <;> omega

theorem startsWord_of_isDigit {c : Char} {rest : List Char} (hc : c.isDigit = true) :
    startsWord (c :: rest) = true := by
  have hhash : c ≠ '#' := by
    rintro rfl
    exact absurd hc (by decide)
  simp [startsWord, isBlank_of_isDigit hc, hhash]

/-- No layout of the tokens starts with a digit. -/
def NoDigitAhead (tokens : List Token) : Prop := ∀ c, c.isDigit = true → NotAhead c tokens

/-- Behind one space there is no digit either: it would be the start of the next token. -/
theorem LaidOut.not_isDigit_behind_blank {tokens : List Token} {c d : Char} {rest : List Char}
    (h : LaidOut .some tokens (c :: d :: rest)) (hc : isBlank c = true)
    (hahead : NoDigitAhead tokens) : d.isDigit = false := by
  refine Bool.eq_false_iff.2 fun hd => ?_
  have hstarts := @startsWord_of_isDigit d rest hd
  have hlaid := h.skipSpace
  -- a digit is no space, so skipping stops in front of it
  rw [RuleText.skipSpace, if_neg Bool.false_ne_true, if_pos hc,
    skipSpace_of_startsWord hstarts] at hlaid
  exact hahead d hd _ hlaid rfl

/-- The reader of a date before its text is kept. -/
def dateParts : Reader (Nat × Nat × Nat × Option (Nat × Nat)) := do
  let month ← digits 2
  let separator ← charWith fun c => c = '-' || c = '/' || c = '.'
  let day ← digits 2
  char separator
  let year ← digits 4
  return (month, day, year, ← optional (dayTime separator))

/-- The date that was read from the start of a text, with what was read of the text. -/
def withText (text : List Char) :
    Reply (Nat × Nat × Nat × Option (Nat × Nat)) → Reply DateLiteral
  | .done (month, day, year, time) rest =>
    .done ⟨month, day, year, time, .ofList (text.take (text.length - rest.length))⟩ rest
  | .miss labels rest => .miss labels rest
  | .stop labels rest => .stop labels rest

theorem dateLiteral_eq (text : List Char) : dateLiteral text = withText text (dateParts text) := rfl

theorem dateLiteral_of_dateParts {text rest : List Char} {month day year : Nat}
    {time : Option (Nat × Nat)} (h : dateParts text = .done (month, day, year, time) rest) :
    dateLiteral text = .done
      ⟨month, day, year, time, .ofList (text.take (text.length - rest.length))⟩ rest := by
  rw [dateLiteral_eq, h, withText]

theorem dateLiteral_misses {text : List Char} (h : Misses dateParts text) :
    Misses dateLiteral text := by
  obtain ⟨labels, rest, hmiss⟩ := h
  refine ⟨labels, rest, ?_⟩
  rw [dateLiteral_eq, hmiss, withText]

/-- A time of day behind a date. -/
theorem dayTime_timeChars {phrase : DatePhrase} {time : TimePhrase}
    (htime : phrase.time = some time) (rest : List Char) :
    dayTime phrase.mark.char (phrase.timeChars ++ rest) = .done (time.hour, time.minute) rest := by
  have hhour := time.hour_lt
  have hminute := time.minute_lt
  have hchars : phrase.timeChars ++ rest = (if time.spaced then ' ' else phrase.mark.char) ::
      (digitsOf 2 time.hour ++ (digitsOf 2 time.minute ++ rest)) := by
    simp [DatePhrase.timeChars, htime]
  have hmark : (char ' ' <|> char phrase.mark.char) (phrase.timeChars ++ rest) =
      .done () (digitsOf 2 time.hour ++ (digitsOf 2 time.minute ++ rest)) := by
    rw [hchars]
    cases time.spaced with
    | true => exact orElse_of_done (char_cons ' ' _)
    | false =>
      have hspace : phrase.mark.char ≠ ' ' := by cases phrase.mark <;> decide
      rw [if_neg Bool.false_ne_true, orElse_of_misses (char_misses ?_), char_cons]
      exact fun h => hspace (Option.some.inj h)
  have hread := @digits_append 2 time.hour (by omega) (digitsOf 2 time.minute ++ rest)
  have hread' := @digits_append 2 time.minute (by omega) rest
  exact (bind_of_done hmark).trans ((bind_of_done hread).trans (bind_of_done hread'))

/-- No time of day is taken from what stands behind a date. -/
theorem dayTime_misses {phrase : DatePhrase} {tokens : List Token} {text : List Char}
    (hlaid : LaidOut .some tokens text) (hahead : NoDigitAhead tokens) :
    Misses (dayTime phrase.mark.char) text := by
  cases text with
  | nil =>
    have hnone (c : Char) : ([] : List Char).head? ≠ some c := nofun
    exact ((char_misses (hnone _)).orElse (char_misses (hnone _))).bind
  | cons c rest =>
    have hmark : c ≠ phrase.mark.char := by
      rintro rfl
      rcases hlaid.head_of_some with hblank | hhash
      · cases hmark : phrase.mark <;> rw [hmark] at hblank <;> exact absurd hblank (by decide)
      · cases hmark : phrase.mark <;> rw [hmark] at hhash <;> exact absurd hhash (by decide)
    by_cases hspace : c = ' '
    · -- behind a space the time would have to follow at once
      subst hspace
      refine Misses.bind_of_done (orElse_of_done (char_cons ' ' rest)) (Misses.bind ?_)
      refine digits_misses fun d hd => ?_
      obtain ⟨behind, rfl⟩ := List.head?_eq_some_iff.1 hd
      exact hlaid.not_isDigit_behind_blank (by decide) hahead
    · refine ((char_misses fun h => hspace ?_).orElse (char_misses fun h => hmark ?_)).bind
      · exact Option.some.inj h
      · exact Option.some.inj h

/-- The time of day behind a date is read if there is one. -/
theorem optional_dayTime (phrase : DatePhrase) {tokens : List Token} {rest : List Char}
    (hlaid : LaidOut .some tokens rest) (hahead : NoDigitAhead tokens) :
    optional (dayTime phrase.mark.char) (phrase.timeChars ++ rest) =
      .done (phrase.time.map fun time => (time.hour, time.minute)) rest := by
  cases htime : phrase.time with
  | none =>
    rw [DatePhrase.timeChars, htime]
    exact optional_of_misses (dayTime_misses hlaid hahead)
  | some time => exact optional_of_done (dayTime_timeChars htime rest)

private theorem dateParts_chars {phrase : DatePhrase} {rest rest' : List Char}
    {time : Option (Nat × Nat)}
    (htime : optional (dayTime phrase.mark.char) (phrase.timeChars ++ rest) = .done time rest') :
    dateParts (phrase.chars ++ rest) =
      .done (phrase.date.month, phrase.date.day, phrase.date.year.toNat, time) rest' := by
  obtain ⟨_, hmonth⟩ := phrase.date.month_bounds
  obtain ⟨_, hday⟩ := phrase.date.day_bounds
  have hyear := phrase.year_lt
  have hmark (behind : List Char) :
      charWith (fun c => c = '-' || c = '/' || c = '.') (phrase.mark.char :: behind) =
        .done phrase.mark.char behind := by cases phrase.mark <;> rfl
  have hchars : phrase.chars ++ rest = digitsOf 2 phrase.date.month ++ phrase.mark.char ::
      (digitsOf 2 phrase.date.day ++ phrase.mark.char ::
        (digitsOf 4 phrase.date.year.toNat ++ (phrase.timeChars ++ rest))) := by
    simp [DatePhrase.chars]
  rw [hchars]
  refine (bind_of_done (digits_append (by omega) _)).trans ?_
  refine (bind_of_done (hmark _)).trans ?_
  refine (bind_of_done (digits_append (by omega) _)).trans ?_
  refine (bind_of_done (char_cons _ _)).trans ?_
  refine (bind_of_done (digits_append (by omega) _)).trans ?_
  exact bind_of_done htime

/-- The parts of a date name its instant. -/
theorem DatePhrase.instant?_eq (phrase : DatePhrase) (text : String) :
    DateLiteral.instant? ⟨phrase.date.month, phrase.date.day, phrase.date.year.toNat,
      phrase.time.map fun time => (time.hour, time.minute), text⟩ = some phrase.instant := by
  have hdate : Date.ofYmd? phrase.date.year.toNat phrase.date.month phrase.date.day =
      some phrase.date := by
    rw [Int.toNat_of_nonneg phrase.year_nonneg]
    exact phrase.date.ofYmd?_self
  have hnano : 0 < nanosPerSecond := by decide
  cases htime : phrase.time with
  | none =>
    simp only [DateLiteral.instant?, Option.map_none, Option.getD_none, hdate, Option.bind_some]
    simp [Instant.ofTime?, instant, second, htime, hnano]
  | some time =>
    simp only [DateLiteral.instant?, Option.map_some, Option.getD_some, hdate, Option.bind_some]
    simp [Instant.ofTime?, instant, second, htime, hnano, time.hour_lt, time.minute_lt]

/-- A date is read as its instant. -/
theorem reads_dateLiteral (phrase : DatePhrase) :
    Reads .none dateLiteral [phrase.token] NoDigitAhead (·.instant? = some phrase.instant) := by
  intro more text hmore hlaid
  obtain ⟨rest, rfl, hrest⟩ := hlaid.exists_rest
  have hread := dateParts_chars (optional_dayTime phrase hrest hmore)
  exact ⟨_, rest, dateLiteral_of_dateParts hread, phrase.instant?_eq _, hrest⟩

theorem dateParts_misses {text : List Char} (h : ∀ c, text.head? = some c → c.isDigit = false) :
    Misses dateParts text := (digits_misses h).bind

end ClipSplice.RuleText
