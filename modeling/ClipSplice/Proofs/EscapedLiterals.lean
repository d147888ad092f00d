import ClipSplice.Proofs.ReadSteps
import ClipSplice.Proofs.WordReading

/-!
# Escaped texts

A backslash is an ordinary character of a rule text except in front of certain others: the quote in
a text between quotes, and a space, comma or colon in a pattern without quotes. There it takes the
character behind it into the text. It is never escaped itself, so a text that ends in a backslash
cannot be written, and all other texts are read back from their escaped form however many
backslashes stand in them.

A text between quotes is read just when it is an escaped text with its quotes
(`quoted_eq_done_iff`), and reading stops just when no quote closes it (`quoted_eq_stop_iff`).
-/

namespace ClipSplice.RuleText

open Reader

/-- A text that does not end in a backslash still does not with a character in front. -/
private theorem getLast?_cons_ne {c : Char} {text : List Char} (htext : text.getLast? ≠ some '\\')
    (hc : text = [] → c ≠ '\\') : (c :: text).getLast? ≠ some '\\' := by
  cases text with
  | nil => simpa using hc rfl
  | cons d text => rwa [List.getLast?_cons_cons]

/-! ## Texts between quotes -/

/-- The two marks between which a text may stand. -/
def IsQuote (c : Char) : Prop := c = '\'' ∨ c = '"'

instance (c : Char) : Decidable (IsQuote c) := inferInstanceAs (Decidable (_ ∨ _))

theorem IsQuote.ne_backslash {quote : Char} (h : IsQuote quote) : quote ≠ '\\' := by
  rcases h with rfl | rfl <;> decide

/-- No quote closes a text: each one stands directly behind a backslash. -/
def NeverCloses (quote : Char) (text : List Char) : Prop :=
  ∀ front back, text = front ++ quote :: back → front.getLast? = some '\\'

namespace NeverCloses

variable {quote c : Char} {text : List Char}

theorem nil : NeverCloses quote [] := by
  intro front back h
  exact absurd h.symm (by simp)

/-- A character in front that is no quote closes nothing. -/
theorem cons (h : NeverCloses quote text) (hc : c ≠ quote) : NeverCloses quote (c :: text) := by
  intro front back htext
  cases front with
  | nil => exact absurd (List.cons.inj htext).1 hc
  | cons d front =>
    have hlast := h front back (List.cons.inj htext).2
    cases front with
    | nil => cases hlast
    | cons e front => rwa [List.getLast?_cons_cons]

/-- A quote in front closes nothing when it stands behind a backslash. -/
theorem escape (h : NeverCloses quote text) (hquote : quote ≠ '\\') :
    NeverCloses quote ('\\' :: quote :: text) := by
  intro front back htext
  match front with
  | [] => exact absurd (List.cons.inj htext).1.symm hquote
  | [d] => exact congrArg some (List.cons.inj htext).1.symm
  | d :: e :: front =>
    have hlast := h front back (List.cons.inj (List.cons.inj htext).2).2
    cases front with
    | nil => cases hlast
    | cons f front => rwa [List.getLast?_cons_cons, List.getLast?_cons_cons]

end NeverCloses

/-- Up to the closing quote an escaped text is read; without one, reading stops at the end. -/
theorem quotedRest_cases {quote : Char} (hquote : quote ≠ '\\') (text : List Char) :
    (∃ found rest, quotedRest quote text = .done found rest ∧ found.getLast? ≠ some '\\' ∧
      text = escaped quote found ++ quote :: rest) ∨
    quotedRest quote text = .stop [.closingQuote] [] ∧ NeverCloses quote text := by
  fun_induction quotedRest quote text with
  | case1 => exact .inr ⟨rfl, .nil⟩
  | case2 => exact .inl ⟨[], [], rfl, nofun, rfl⟩
  | case3 c hc => exact .inr ⟨rfl, NeverCloses.nil.cons hc⟩
  | case4 d rest => exact .inl ⟨[], d :: rest, rfl, nofun, rfl⟩
  | case5 c d rest hc hslash ih =>
    -- an escaped quote
    obtain ⟨rfl, rfl⟩ := hslash
    rcases ih with ⟨found, behind, hread, hlast, rfl⟩ | ⟨hread, hnever⟩
    · refine .inl ⟨d :: found, behind, by rw [hread]; rfl,
        getLast?_cons_ne hlast fun _ => hquote, ?_⟩
      rw [escaped, if_pos rfl]
      rfl
    · exact .inr ⟨by rw [hread]; rfl, hnever.escape hquote⟩
  | case6 c d rest hc hslash ih =>
    rcases ih with ⟨found, behind, hread, hlast, htext⟩ | ⟨hread, hnever⟩
    · refine .inl ⟨c :: found, behind, by rw [hread]; rfl, getLast?_cons_ne hlast ?_, ?_⟩
      · -- in front of the closing quote a backslash would have escaped it
        rintro rfl rfl
        exact hslash ⟨rfl, (List.cons.inj htext).1⟩
      · rw [escaped, if_neg hc, htext]
        rfl
    · exact .inr ⟨by rw [hread]; rfl, hnever.cons hc⟩

/-- Reading up to the closing quote takes escaped texts and nothing else. -/
theorem quotedRest_eq_done_iff {quote : Char} (hquote : quote ≠ '\\')
    {text found rest : List Char} :
    quotedRest quote text = .done found rest ↔
      found.getLast? ≠ some '\\' ∧ text = escaped quote found ++ quote :: rest := by
  constructor
  · intro h
    rcases quotedRest_cases hquote text with ⟨found', rest', hread, hlast, htext⟩ | ⟨hread, -⟩
    · cases hread.symm.trans h
      exact ⟨hlast, htext⟩
    · cases hread.symm.trans h
  · rintro ⟨hlast, rfl⟩
    exact quotedRest_escaped hquote hlast rest

/-- Escaping leaves the last character where it is. -/
theorem getLast?_escaped (quote : Char) (text : List Char) :
    (escaped quote text).getLast? = text.getLast? := by
  induction text with
  | nil => rfl
  | cons c text ih =>
    have hbehind : (c :: escaped quote text).getLast? = (c :: text).getLast? := by
      rw [List.getLast?_cons, List.getLast?_cons, ih]
    rw [escaped]
    split
    · rw [List.getLast?_cons_cons, hbehind]
    · exact hbehind

/-- Reading stops just when no quote closes the text. -/
theorem quotedRest_eq_stop_iff {quote : Char} (hquote : quote ≠ '\\') {text : List Char} :
    quotedRest quote text = .stop [.closingQuote] [] ↔ NeverCloses quote text := by
  rcases quotedRest_cases hquote text with ⟨found, rest, hread, hlast, htext⟩ | ⟨hread, hnever⟩
  · rw [hread]
    refine iff_of_false nofun fun hnever => hlast ?_
    rw [← getLast?_escaped quote]
    exact hnever _ rest htext
  · exact iff_of_true hread hnever

/-- A text between quotes is read from its escaped form with quotes around it and from nothing
else. -/
theorem quoted_eq_done_iff {text rest : List Char} {found : String} :
    quoted text = .done found rest ↔
      ∃ quote, IsQuote quote ∧ found.toList.getLast? ≠ some '\\' ∧
        text = quote :: (escaped quote found.toList ++ quote :: rest) := by
  constructor
  · intro h
    obtain ⟨quote, behind, hfirst, hbehind⟩ := bind_eq_done_iff.1 h
    obtain ⟨chars, hread, rfl⟩ := bind_pure_eq_done_iff.1 hbehind
    obtain ⟨rfl, hmark⟩ := charWith_eq_done_iff.1 hfirst
    have hquote : IsQuote quote := by simpa [IsQuote] using hmark
    obtain ⟨hlast, rfl⟩ := (quotedRest_eq_done_iff hquote.ne_backslash).1 hread
    rw [String.toList_ofList]
    exact ⟨quote, hquote, hlast, rfl⟩
  · rintro ⟨quote, hquote, hlast, rfl⟩
    have hread := (Literal.mk quote hquote found hlast).quoted_chars rest
    simpa [Literal.chars] using hread

/-- A text that starts with a quote is read or ends the reading of the whole text. -/
theorem quoted_eq_stop_iff {quote : Char} (hquote : IsQuote quote) {text : List Char} :
    quoted (quote :: text) = .stop [.closingQuote] [] ↔ NeverCloses quote text := by
  have hfirst : charWith (fun c => c = '\'' || c = '"') (quote :: text) = .done quote text :=
    charWith_eq_done_iff.2 ⟨rfl, by simpa [IsQuote] using hquote⟩
  rw [← quotedRest_eq_stop_iff hquote.ne_backslash, quoted, bind_of_done hfirst]
  show Reader.bind (quotedRest quote) _ text = _ ↔ _
  unfold Reader.bind
  cases quotedRest quote text <;> simp [Pure.pure, Reader.pure]

/-! ## Patterns without quotes -/

/-- The characters in front of which a backslash stands in a pattern without quotes. -/
def isSeparator (c : Char) : Bool := c = ' ' || c = ',' || c = ':'

/-- A pattern as it stands without quotes. -/
def escapedPattern : List Char → List Char
  | [] => []
  | c :: rest =>
    if isSeparator c then '\\' :: c :: escapedPattern rest else c :: escapedPattern rest

/-- A pattern that can stand without quotes: it has no blanks but spaces, does not start as a text
between quotes does, and does not end in a backslash, which would take in what stands behind it. -/
structure StandsBare (pattern : List Char) : Prop where
  ne_nil : pattern ≠ []
  blank : ∀ c ∈ pattern, isBlank c = true → c = ' '
  head : ∀ c ∈ pattern.head?, ¬ IsQuote c
  last : pattern.getLast? ≠ some '\\'

/-- What may stand behind a pattern without quotes: the end, a blank, a comma or a colon. -/
def EndsPattern (rest : List Char) : Prop := ∀ c ∈ rest.head?, barePattern.endsPattern c = true

theorem barePattern_of_endsPattern {rest : List Char} (h : EndsPattern rest) :
    barePattern rest = ([], rest) := by
  match rest with
  | [] => rfl
  | [c] => rw [barePattern, if_pos (h c rfl)]
  | c :: d :: rest =>
    have hc := h c rfl
    have hslash : ¬(c = '\\' ∧ (d = ' ' ∨ d = ',' ∨ d = ':')) := by
      rintro ⟨rfl, -⟩
      exact absurd hc (by decide)
    rw [barePattern, if_neg hslash, if_pos hc]

/-- An escaped pattern starts with a backslash or with a character that is no separator. -/
theorem head?_escapedPattern_append {c : Char} {pattern rest : List Char} (hne : pattern ≠ [])
    (hc : (escapedPattern pattern ++ rest).head? = some c) :
    c = '\\' ∨ isSeparator c = false ∧ pattern.head? = some c := by
  cases pattern with
  | nil => exact absurd rfl hne
  | cons d pattern =>
    rw [escapedPattern] at hc
    split at hc
    · cases hc
      exact .inl rfl
    · rename_i hd
      cases hc
      exact .inr ⟨Bool.eq_false_iff.2 hd, rfl⟩

theorem barePattern_cons {c : Char} {text pattern rest : List Char}
    (hends : barePattern.endsPattern c = false)
    (hslash : c = '\\' → ∀ d ∈ text.head?, isSeparator d = false)
    (hread : barePattern text = (pattern, rest)) :
    barePattern (c :: text) = (c :: pattern, rest) := by
  cases text with
  | nil =>
    cases hread
    rw [barePattern, if_neg (by simp [hends])]
  | cons d text =>
    have hplain : ¬(c = '\\' ∧ (d = ' ' ∨ d = ',' ∨ d = ':')) := by
      rintro ⟨hc, hd⟩
      have hseparator := hslash hc d rfl
      simp only [isSeparator, Bool.or_eq_false_iff, decide_eq_false_iff_not] at hseparator
      tauto
    rw [barePattern, if_neg hplain, if_neg (by simp [hends]), hread]

/-- An escaped pattern is read back, up to what ends it. -/
theorem barePattern_escapedPattern {pattern rest : List Char}
    (hblank : ∀ c ∈ pattern, isBlank c = true → c = ' ') (hlast : pattern.getLast? ≠ some '\\')
    (hrest : EndsPattern rest) :
    barePattern (escapedPattern pattern ++ rest) = (pattern, rest) := by
  induction pattern with
  | nil => exact barePattern_of_endsPattern hrest
  | cons c pattern ih =>
    have hlast' : pattern.getLast? ≠ some '\\' := by
      cases pattern with
      | nil => exact nofun
      | cons d pattern => rwa [List.getLast?_cons_cons] at hlast
    have hread := ih (fun d hd => hblank d (List.mem_cons_of_mem c hd)) hlast'
    rw [escapedPattern]
    split
    · rename_i hc
      have hslash : c = ' ' ∨ c = ',' ∨ c = ':' := by
        simpa [isSeparator, or_assoc] using hc
      rw [List.cons_append, List.cons_append, barePattern, if_pos ⟨rfl, hslash⟩, hread]
    · rename_i hc
      have hplain : c ≠ ' ' ∧ c ≠ ',' ∧ c ≠ ':' := by
        simpa [isSeparator, and_assoc] using hc
      have hends : barePattern.endsPattern c = false := by
        have hnot : isBlank c = false :=
          Bool.eq_false_iff.2 fun h => hplain.1 (hblank c List.mem_cons_self h)
        simp [barePattern.endsPattern, hnot, hplain]
      refine barePattern_cons hends (fun hc' d hd => ?_) hread
      -- a backslash is not the last character, so more of the pattern stands behind it
      have hne : pattern ≠ [] := by
        rintro rfl
        exact hlast (congrArg some hc')
      rcases head?_escapedPattern_append hne hd with rfl | ⟨hd, -⟩
      · decide
      · exact hd

/-- Read the pattern of a regular expression, with or without quotes. -/
def regexPattern : Reader String := labelled .regularExpression (must (quoted <|> bareRegex))

/-- A regular expression is its mark, the pattern and perhaps options. -/
theorem regexCondition_eq (place : Nat) : regexCondition place = (do
    exactly "regex:".toList
    let pattern ← regexPattern
    return .regex place pattern (← maybeOptions)) := rfl

theorem regexPattern_escapedPattern {pattern : String} (h : StandsBare pattern.toList)
    {rest : List Char} (hrest : EndsPattern rest) :
    regexPattern (escapedPattern pattern.toList ++ rest) = .done pattern rest := by
  have hmiss : Misses quoted (escapedPattern pattern.toList ++ rest) := by
    have hhead : ∀ quote, IsQuote quote →
        (escapedPattern pattern.toList ++ rest).head? ≠ some quote := by
      intro quote hquote hc
      rcases head?_escapedPattern_append h.ne_nil hc with rfl | ⟨-, hfirst⟩
      · exact hquote.ne_backslash rfl
      · exact h.head quote hfirst hquote
    exact quoted_misses ⟨hhead _ (.inl rfl), hhead _ (.inr rfl)⟩
  have hbare : bareRegex (escapedPattern pattern.toList ++ rest) = .done pattern rest := by
    obtain ⟨c, chars, hchars⟩ := List.exists_cons_of_ne_nil h.ne_nil
    have hread := barePattern_escapedPattern h.blank h.last hrest
    rw [bareRegex, hread, hchars]
    simp only [← hchars, String.ofList_toList]
  rw [regexPattern, labelled_eq_done_iff, must_eq_done_iff, orElse_of_misses hmiss, hbare]

/-! ## Both kinds of texts -/

/-- Texts are read as they were before they were escaped. Between quotes of either kind exactly the
texts that do not end in a backslash can be written, each in one way, and a text that no quote
closes ends the reading. Behind the mark of a regular expression a pattern without quotes is read
from its escaped form up to a blank, a comma, a colon or the end. -/
theorem quoted_and_regexPattern_escaped :
    (∀ (text rest : List Char) (found : String), quoted text = .done found rest ↔
      ∃ quote, IsQuote quote ∧ found.toList.getLast? ≠ some '\\' ∧
        text = quote :: (escaped quote found.toList ++ quote :: rest)) ∧
    (∀ (quote : Char) (text : List Char), IsQuote quote →
      (quoted (quote :: text) = .stop [.closingQuote] [] ↔ NeverCloses quote text)) ∧
    ∀ (pattern : String) (rest : List Char), StandsBare pattern.toList → EndsPattern rest →
      regexPattern (escapedPattern pattern.toList ++ rest) = .done pattern rest ∧
      ∀ place, regexCondition place
          ("regex:".toList ++ (escapedPattern pattern.toList ++ rest)) =
        (do return ConditionTree.regex place pattern (← maybeOptions) : Reader ConditionTree)
          rest := by
  refine ⟨fun _ _ _ => quoted_eq_done_iff, fun _ _ hquote => quoted_eq_stop_iff hquote,
    fun pattern rest hpattern hrest => ?_⟩
  have hread := regexPattern_escapedPattern hpattern hrest
  refine ⟨hread, fun place => ?_⟩
  rw [regexCondition_eq, bind_of_done (exactly_append _ _), bind_of_done hread]

/-- A quote that is escaped does not close a text; a pattern keeps its backslashes in front of a
quote, a space, a comma and a colon. -/
theorem quoted_and_regexPattern_escaped_backslashes :
    NeverCloses '"' ['\\', '"'] ∧
      StandsBare ['\\', '"', '\\', ' ', '\\', '\\', ',', '\\', ':'] ∧ EndsPattern [' '] ∧
      quoted ['"', '\\', '"'] = .stop [.closingQuote] [] ∧
      regexPattern ['\\', '"', '\\', '\\', ' ', '\\', '\\', '\\', ',', '\\', '\\', ':', ' '] =
        .done (.ofList ['\\', '"', '\\', ' ', '\\', '\\', ',', '\\', ':']) [' '] := by
  have hnever : NeverCloses '"' ['\\', '"'] := NeverCloses.nil.escape (by decide)
  have hbare : StandsBare ['\\', '"', '\\', ' ', '\\', '\\', ',', '\\', ':'] := by
    refine ⟨by decide, ?_, ?_, by decide⟩
    · simp only [List.forall_mem_cons, List.not_mem_nil, false_implies, implies_true]
      decide
    · rintro c ⟨⟩
      decide
  have hends : EndsPattern [' '] := by
    rintro c ⟨⟩
    decide
  have hread := (quoted_and_regexPattern_escaped.2.2
    (.ofList ['\\', '"', '\\', ' ', '\\', '\\', ',', '\\', ':']) [' ']
    (by rwa [String.toList_ofList]) hends).1
  rw [String.toList_ofList] at hread
  exact ⟨hnever, hbare, hends, (quoted_and_regexPattern_escaped.2.1 '"' _ (.inr rfl)).2 hnever,
    hread⟩

end ClipSplice.RuleText
