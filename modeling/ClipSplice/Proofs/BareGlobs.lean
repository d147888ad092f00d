import ClipSplice.Proofs.ConditionReading
import ClipSplice.Proofs.DateShapes
import ClipSplice.Proofs.GlobMatching

/-!
# Bare words as globs

What is made of a rule whose condition is a word without quotes. The other kinds of conditions turn
the word down when it is no keyword and no mark of a regular expression, with one exception: behind
a date with a hyphen the reader insists on a second date, whatever else the word goes on with. All
other words are globs (`Rule.ofText_bareWord`).
-/

namespace ClipSplice.RuleText

open Reader

/-! ## Words and intervals -/

/-- Whether a word opens an interval: a date, perhaps with a time of day, and a hyphen. -/
def opensInterval (word : String) : Bool :=
  (behindDate? word.toList).any fun rest => rest.head? = some '-'

/-- Whether a word as a whole is read as an interval. -/
def isInterval (word : String) : Bool :=
  match dateInterval word.toList with
  | .done _ [] => true
  | _ => false

/-! ## Stops -/

/-- A reader ends the reading of a text. -/
def Stops {α : Type} (reader : Reader α) (text : List Char) : Prop :=
  ∃ labels rest, reader text = .stop labels rest

namespace Stops

variable {α β : Type} {reader second : Reader α} {next : α → Reader β} {text rest : List Char}
  {value : α}

theorem bind (h : Stops reader text) : Stops (reader >>= next) text := by
  obtain ⟨labels, rest, hstop⟩ := h
  refine ⟨labels, rest, ?_⟩
  show Reader.bind reader next text = _
  rw [Reader.bind, hstop]

theorem bind_of_done (hdone : reader text = .done value rest) (h : Stops (next value) rest) :
    Stops (reader >>= next) text := by
  rw [Stops, RuleText.bind_of_done hdone]
  exact h

theorem orElse (h : Stops reader text) : Stops (reader <|> second) text := by
  obtain ⟨labels, rest, hstop⟩ := h
  refine ⟨labels, rest, ?_⟩
  show Reader.orElse reader (fun _ => second) text = _
  rw [Reader.orElse, hstop]

theorem labelled (label : Label) (h : Stops reader text) : Stops (labelled label reader) text := by
  obtain ⟨labels, rest, hstop⟩ := h
  exact ⟨labels ++ [label], rest, by rw [Reader.labelled, hstop]⟩

theorem must (h : Misses reader text) : Stops (must reader) text := by
  obtain ⟨labels, rest, hmiss⟩ := h
  exact ⟨labels, rest, by rw [Reader.must, hmiss]⟩

end Stops

/-! ## A word in front of a colon -/

section Colon

variable {word : BareWord} {tail : List Char}

theorem BareWord.isBare_of_mem (word : BareWord) : ∀ c ∈ word.text.toList, isBare c = true :=
  List.all_eq_true.1 word.bare.2

/-- Neither a bare character nor a colon is another character. -/
theorem head?_append_colon_ne {text : List Char} {c : Char} (h : ∀ c ∈ text, isBare c = true)
    (hc : isBare c = false) (hcolon : c ≠ ':') : (text ++ ':' :: tail).head? ≠ some c := by
  intro hhead
  cases text with
  | nil => exact hcolon (Option.some.inj hhead).symm
  | cons d text =>
    obtain rfl : d = c := Option.some.inj hhead
    exact absurd (h d List.mem_cons_self) (Bool.eq_false_iff.1 hc)

theorem space_of_startsWord {text : List Char} (h : startsWord text = true) :
    space text = .done () text := by
  rw [space, skipSpace_of_startsWord h]

theorem space_of_isBare {text : List Char} (h : ∀ c ∈ text, isBare c = true) :
    space text = .done () text := by
  cases text with
  | nil => rfl
  | cons c text => exact space_of_startsWord (startsWord_of_isBare (h c List.mem_cons_self))

theorem space_append_colon {text : List Char} (h : ∀ c ∈ text, isBare c = true)
    (tail : List Char) :
    space (text ++ ':' :: tail) = .done () (text ++ ':' :: tail) := by
  refine space_of_startsWord ?_
  cases text with
  | nil => rfl
  | cons c text => exact startsWord_of_isBare (h c List.mem_cons_self)

theorem maybeOptions_append_colon {text : List Char} (h : ∀ c ∈ text, isBare c = true)
    (tail : List Char) :
    maybeOptions (text ++ ':' :: tail) = .done [] (text ++ ':' :: tail) := by
  have hbracket : Misses (char '[') (text ++ ':' :: tail) :=
    char_misses (head?_append_colon_ne h (by decide) (by decide))
  have hnone : optional options (text ++ ':' :: tail) = .done none (text ++ ':' :: tail) :=
    optional_of_misses (.bind_of_done (space_append_colon h tail) hbracket.bind)
  exact bind_of_done hnone

theorem bareWord_append_colon (word : BareWord) (tail : List Char) :
    bareWord (word.text.toList ++ ':' :: tail) = .done word.text (':' :: tail) := by
  have hends : (':' :: tail).takeWhile isBare = [] := List.takeWhile_cons_of_neg (by decide)
  refine (bind_of_done (wordOf_append word.bare.1 word.isBare_of_mem hends)).trans ?_
  rw [String.ofList_toList]
  rfl

theorem keyword_misses_append_colon {other : String} (hother : other ∈ keywords)
    (hkeyword : word.text ∉ keywords) :
    Misses (keyword other) (word.text.toList ++ ':' :: tail) := by
  have hne : word.text ≠ other := (ne_of_mem_of_not_mem hother hkeyword).symm
  refine ⟨[], word.text.toList ++ ':' :: tail, ?_⟩
  simp only [keyword, bareWord_append_colon, if_neg hne]

/-! ## What is not read -/

/-- No rule without a condition is read. -/
theorem ruleBody_misses_append_colon (rule : Reader RuleTree) (hkeyword : word.text ∉ keywords)
    (tail : List Char) : Misses (ruleBody rule none) (word.text.toList ++ ':' :: tail) := by
  have hword {other : String} (hother : other ∈ keywords) :
      Misses (keyword other) (word.text.toList ++ ':' :: tail) :=
    keyword_misses_append_colon hother hkeyword
  have hspace := space_append_colon word.isBare_of_mem tail
  have hclause : Misses clause (word.text.toList ++ ':' :: tail) :=
    .bind_of_done hspace (.bind_of_done rfl
      ((hword (by decide)).bind.orElse (hword (by decide)).bind).bind)
  have hlist : Misses (ruleList rule) (word.text.toList ++ ':' :: tail) :=
    (char_misses (head?_append_colon_ne word.isBare_of_mem (by decide) (by decide))).bind
  exact .bind_of_done hspace
    ((hword (by decide)).bind.orElse (hclause.bind.bind.orElse hlist.bind))

theorem compound_misses_append_colon {condition : Reader ConditionTree}
    (hkeyword : word.text ∉ keywords) :
    Misses (compound condition) (word.text.toList ++ ':' :: tail) :=
  ((keyword_misses_append_colon (by decide) hkeyword).bind.orElse
    ((keyword_misses_append_colon (by decide) hkeyword).bind.orElse
      (keyword_misses_append_colon (by decide) hkeyword).bind)).bind

/-- Only the word `regex` makes a mark of regular expressions with the colon. -/
theorem regexCondition_misses_append_colon (place : Nat) (hregex : word.text ≠ "regex") :
    Misses (regexCondition place) (word.text.toList ++ ':' :: tail) := by
  refine Misses.bind ⟨[], word.text.toList ++ ':' :: tail, ?_⟩
  cases hafter : Text.after? "regex:".toList (word.text.toList ++ ':' :: tail) with
  | none => rw [exactly, hafter]
  | some rest =>
    have hsplit : word.text.toList ++ ':' :: tail = "regex".toList ++ ':' :: rest :=
      (Text.after?_eq_some_iff.1 hafter).trans rfl
    have hread := bareWord_append_colon word tail
    rw [hsplit, bareWord_append_colon ⟨"regex", by decide⟩] at hread
    exact absurd (Reply.done.inj hread).1.symm hregex

theorem comparedDate_misses_append_colon :
    Misses comparedDate (word.text.toList ++ ':' :: tail) := by
  refine (comparison_misses fun c hc => ⟨?_, ?_, ?_⟩).bind <;>
    · rintro rfl
      exact head?_append_colon_ne word.isBare_of_mem (by decide) (by decide) hc

/-- No interval is read where none is opened. -/
theorem dateInterval_misses_append_colon (hopens : opensInterval word.text = false) :
    Misses dateInterval (word.text.toList ++ ':' :: tail) := by
  have hbehind := behindDate?_append_colon word.text.toList tail
  rw [opensInterval] at hopens
  cases hdate : behindDate? word.text.toList with
  | none =>
    rw [hdate] at hbehind
    exact (dateLiteral_misses_of_behindDate? hbehind).bind
  | some rest =>
    rw [hdate] at hbehind hopens
    have hbare : ∀ c ∈ rest, isBare c = true :=
      fun c hc => word.isBare_of_mem c ((suffix_of_behindDate? hdate).mem hc)
    obtain ⟨date, hread⟩ := dateLiteral_of_behindDate? hbehind
    refine .bind_of_done hread (.bind_of_done (space_append_colon hbare tail) (char_misses ?_).bind)
    cases rest with
    | nil => exact nofun
    | cons c rest => simpa using hopens

/-! ## What is read -/

theorem globCondition_append_colon (place : Nat) (hkeyword : word.text ∉ keywords) :
    globCondition place (word.text.toList ++ ':' :: tail) =
      .done (.glob place word.text []) (':' :: tail) := by
  have hquote {c : Char} (hc : isBare c = false) (hcolon : c ≠ ':') :
      (word.text.toList ++ ':' :: tail).head? ≠ some c :=
    head?_append_colon_ne word.isBare_of_mem hc hcolon
  have hstring : string (word.text.toList ++ ':' :: tail) = .done word.text (':' :: tail) := by
    have hplain : keywords.contains word.text = false := by simpa using hkeyword
    refine (orElse_of_misses (quoted_misses ⟨hquote ?_ ?_, hquote ?_ ?_⟩)).trans ?_
    any_goals decide
    simp only [plainWord, bareWord_append_colon, hplain, Bool.false_eq_true, if_false]
  exact (bind_of_done hstring).trans
    (bind_of_done (maybeOptions_append_colon (List.forall_mem_nil _) tail))

/-- What is left to try when a word is no keyword and no mark of a regular expression. -/
theorem condition_append_colon (depth : Nat) (hkeyword : word.text ∉ keywords)
    (hregex : word.text ≠ "regex") (tail : List Char) :
    ∃ place, condition (depth + 1) (word.text.toList ++ ':' :: tail) =
      labelled .condition (dateCondition place <|> globCondition place)
        (word.text.toList ++ ':' :: tail) := by
  refine ⟨Text.byteSize (word.text.toList ++ ':' :: tail),
    (bind_of_done (space_append_colon word.isBare_of_mem tail)).trans ?_⟩
  show labelled _ _ _ = _
  rw [labelled, orElse_of_misses (compound_misses_append_colon hkeyword),
    orElse_of_misses (regexCondition_misses_append_colon _ hregex)]
  rfl

/-- A word that opens no interval guards the default rule as a glob. -/
theorem rule_default_append_colon (depth : Nat) (hkeyword : word.text ∉ keywords)
    (hregex : word.text ≠ "regex") (hopens : opensInterval word.text = false) :
    ∃ place, rule (depth + 1) (word.text.toList ++ ':' :: " default".toList) =
      .done (.default (some (.glob place word.text []))) [] := by
  obtain ⟨place, hcondition⟩ := condition_append_colon
    (word.text.toList ++ ':' :: " default".toList).length hkeyword hregex " default".toList
  have hdate : Misses (dateCondition place) (word.text.toList ++ ':' :: " default".toList) :=
    (comparedDate_misses_append_colon.orElse (dateInterval_misses_append_colon hopens)).bind
  rw [labelled, orElse_of_misses hdate, globCondition_append_colon place hkeyword] at hcondition
  have hbody := optional_of_misses
    (ruleBody_misses_append_colon (rule depth) hkeyword " default".toList)
  refine ⟨place, (bind_of_done (space_append_colon word.isBare_of_mem _)).trans
    ((bind_of_done hbody).trans ((bind_of_done hcondition).trans ?_))⟩
  rfl

/-! ## Where reading ends -/

/-- Behind a date with a hyphen only a second date is read. -/
theorem dateInterval_eq {text rest : List Char} (hdate : behindDate? text = some ('-' :: rest))
    (hspace : space rest = .done () rest) :
    ∃ first, dateInterval text =
      (do return DateSpan.between first (← labelled .endDate (must dateLiteral))) rest := by
  obtain ⟨first, hfirst⟩ := dateLiteral_of_behindDate? hdate
  have hhyphen : space ('-' :: rest) = .done () ('-' :: rest) := space_of_startsWord rfl
  exact ⟨first, (bind_of_done hfirst).trans ((bind_of_done hhyphen).trans
    ((bind_of_done (char_cons '-' rest)).trans (bind_of_done hspace)))⟩

theorem dateInterval_of_behindDate? {text rest rest' : List Char}
    (hdate : behindDate? text = some ('-' :: rest)) (hspace : space rest = .done () rest)
    (hlast : behindDate? rest = some rest') : ∃ span, dateInterval text = .done span rest' := by
  obtain ⟨first, hread⟩ := dateInterval_eq hdate hspace
  obtain ⟨last, hdone⟩ := dateLiteral_of_behindDate? hlast
  exact ⟨.between first last, hread.trans (bind_of_done (by rw [labelled, must, hdone]))⟩

/-- A word that opens an interval without being one goes on behind the hyphen, but not with a
date alone. -/
theorem exists_of_opensInterval (hopens : opensInterval word.text = true)
    (hinterval : isInterval word.text = false) :
    ∃ rest, behindDate? word.text.toList = some ('-' :: rest) ∧
      (∀ c ∈ rest, isBare c = true) ∧ behindDate? rest ≠ some [] := by
  rw [opensInterval] at hopens
  cases hdate : behindDate? word.text.toList with
  | none =>
    rw [hdate] at hopens
    cases hopens
  | some behind =>
    rw [hdate] at hopens
    obtain ⟨rest, rfl⟩ := List.head?_eq_some_iff.1 (of_decide_eq_true hopens)
    have hbare : ∀ c ∈ rest, isBare c = true := fun c hc =>
      word.isBare_of_mem c ((suffix_of_behindDate? hdate).mem (List.mem_cons_of_mem _ hc))
    refine ⟨rest, rfl, hbare, fun hlast => ?_⟩
    obtain ⟨span, hread⟩ := dateInterval_of_behindDate? hdate (space_of_isBare hbare) hlast
    rw [isInterval, hread] at hinterval
    cases hinterval

/-- Behind a date with a hyphen there is a second date, with characters of the word behind it, or
reading ends. -/
theorem dateInterval_append_colon (hopens : opensInterval word.text = true)
    (hinterval : isInterval word.text = false) (tail : List Char) :
    Stops dateInterval (word.text.toList ++ ':' :: tail) ∨
      ∃ span c rest, (∀ d ∈ c :: rest, isBare d = true) ∧
        dateInterval (word.text.toList ++ ':' :: tail) = .done span (c :: rest ++ ':' :: tail) := by
  obtain ⟨rest, hrest, hbare, hcomplete⟩ := exists_of_opensInterval hopens hinterval
  have hspace := space_append_colon hbare tail
  have hdate : behindDate? (word.text.toList ++ ':' :: tail) =
      some ('-' :: (rest ++ ':' :: tail)) := by
    rw [behindDate?_append_colon, hrest]
    rfl
  have hbehind := behindDate?_append_colon rest tail
  cases hlast : behindDate? rest with
  | none =>
    rw [hlast] at hbehind
    obtain ⟨first, hread⟩ := dateInterval_eq hdate hspace
    refine .inl ?_
    rw [Stops, hread]
    exact ((Stops.must (dateLiteral_misses_of_behindDate? hbehind)).labelled _).bind
  | some more =>
    rw [hlast] at hbehind hcomplete
    have hne : more ≠ [] := fun hnil => hcomplete (congrArg some hnil)
    obtain ⟨c, more, rfl⟩ := List.exists_cons_of_ne_nil hne
    obtain ⟨span, hread⟩ := dateInterval_of_behindDate? hdate hspace hbehind
    exact .inr ⟨span, c, more, fun d hd => hbare d ((suffix_of_behindDate? hlast).mem hd), hread⟩

/-- A word that opens an interval without being one ends the reading. -/
theorem rule_stops_append_colon (depth : Nat) (hkeyword : word.text ∉ keywords)
    (hregex : word.text ≠ "regex") (hopens : opensInterval word.text = true)
    (hinterval : isInterval word.text = false) :
    Stops (rule (depth + 1)) (word.text.toList ++ ':' :: tail) := by
  obtain ⟨place, hcondition⟩ := condition_append_colon
    (word.text.toList ++ ':' :: tail).length hkeyword hregex tail
  have hbody := optional_of_misses (ruleBody_misses_append_colon (rule depth) hkeyword tail)
  refine .bind_of_done (space_append_colon word.isBare_of_mem tail) (.bind_of_done hbody ?_)
  have hspan : (comparedDate <|> dateInterval) (word.text.toList ++ ':' :: tail) =
      dateInterval (word.text.toList ++ ':' :: tail) :=
    orElse_of_misses comparedDate_misses_append_colon
  rcases dateInterval_append_colon hopens hinterval tail with
    hstops | ⟨span, c, rest, hbare, hdone⟩
  · have hdate : Stops (dateCondition place) (word.text.toList ++ ':' :: tail) :=
      Stops.bind (by rwa [Stops, hspan])
    have horElse : Stops (dateCondition place <|> globCondition place) _ := hdate.orElse
    obtain ⟨labels, rest, hstop⟩ := horElse.labelled .condition
    exact Stops.bind ⟨labels, rest, hcondition.trans hstop⟩
  · have hdate : dateCondition place (word.text.toList ++ ':' :: tail) =
        .done (.date place span []) (c :: rest ++ ':' :: tail) :=
      (bind_of_done (hspan.trans hdone)).trans (bind_of_done (maybeOptions_append_colon hbare tail))
    rw [labelled, orElse_of_done hdate] at hcondition
    have hcolon : (c :: rest ++ ':' :: tail).head? ≠ some ':' := by
      intro hhead
      exact absurd (hbare c List.mem_cons_self) (Option.some.inj hhead ▸ by decide)
    exact .bind_of_done hcondition (Stops.labelled _ (.bind_of_done (space_append_colon hbare tail)
      (.must (char_misses hcolon)))).bind

end Colon

/-! ## A whole text -/

theorem readRules_of_rule {text : List Char} {tree : RuleTree}
    (h : rule (text.length + 1) text = .done tree []) : readRules text = .done [tree] [] := by
  have hsequence : ruleSequence (rule (text.length + 1)) text = .done [tree] [] := bind_of_done h
  have hlabelled : labelled .rule (ruleSequence (rule (text.length + 1))) text =
      .done [tree] [] := by rw [labelled, hsequence]
  have hwhole : (do
      let rules ← labelled .rule (ruleSequence (rule (text.length + 1)))
      space
      return rules : Reader (List RuleTree)) text = .done [tree] [] := bind_of_done hlabelled
  rw [readRules]
  rw [hwhole]

theorem readRules_stops_of_rule {text : List Char} (h : Stops (rule (text.length + 1)) text) :
    Stops readRules text := by
  have hwhole : Stops (do
      let rules ← labelled .rule (ruleSequence (rule (text.length + 1)))
      space
      return rules : Reader (List RuleTree)) text := (h.bind.labelled .rule).bind
  obtain ⟨labels, rest, hstop⟩ := hwhole
  refine ⟨labels, rest, ?_⟩
  rw [readRules]
  rw [hstop]

theorem toList_append_default (text : String) :
    (text ++ ": default").toList = text.toList ++ ':' :: " default".toList := String.toList_append

end RuleText

open RuleText

/-- The rule of a text that is read as a glob in front of the default rule. -/
theorem Rule.ofText_of_readRules {source text : String} {place : Nat}
    (h : readRules source.toList = .done [.default (some (.glob place text []))] []) :
    Rule.ofText source = (orFault source place .invalidGlob (Glob.new? text true)).map
      fun glob => .list none [.clips (some (.glob glob)) [] []] := by
  unfold Rule.ofText
  rw [h]
  simp only [rulesOf, ruleOf, guardOf, conditionOf, globCase, ok_bind]
  cases orFault source place .invalidGlob (Glob.new? text true) <;> rfl

/-- A rule whose condition is a bare word, neither a keyword nor `regex` nor an interval. The word
is a glob that tells letters apart by their case, and is refused only when there is no room for its
program, which takes more than 10000 characters. A word that opens an interval without being one is
no glob, and the text is refused. -/
theorem Rule.ofText_bareWord (word : BareWord) (hkeyword : word.text ∉ keywords)
    (hregex : word.text ≠ "regex") (hinterval : isInterval word.text = false) :
    (opensInterval word.text = false →
      (∃ glob : Glob, glob.text = word.text ∧ glob.caseSensitive = true ∧
        Rule.ofText (word.text ++ ": default") =
          .ok (.list none [.clips (some (.glob glob)) [] []])) ∨
      10000 < word.text.toList.length ∧
        ∃ fault, Rule.ofText (word.text ++ ": default") = .error fault ∧
          fault.cause = .invalidGlob) ∧
    (opensInterval word.text = true →
      ∃ fault, Rule.ofText (word.text ++ ": default") = .error fault) := by
  refine ⟨fun hopens => ?_, fun hopens => ?_⟩
  · obtain ⟨place, hrule⟩ := rule_default_append_colon
      (word.text ++ ": default").toList.length hkeyword hregex hopens
    rw [← toList_append_default] at hrule
    have hmeaning := Rule.ofText_of_readRules (readRules_of_rule hrule)
    cases hglob : Glob.new? word.text true with
    | some glob =>
      obtain ⟨htext, hcase⟩ := Glob.new?_eq_some hglob
      refine .inl ⟨glob, htext, hcase, ?_⟩
      rw [hmeaning, hglob]
      rfl
    | none =>
      refine .inr ⟨not_le.1 fun hshort => ?_, _, by rw [hmeaning, hglob]; rfl, rfl⟩
      have hplain : '[' ∉ word.text.toList := fun hmem =>
        absurd (word.isBare_of_mem '[' hmem) (by decide)
      have hsome := Glob.isSome_new?_of_length_le hplain hshort
      rw [hglob] at hsome
      cases hsome
  · have hrule : Stops (rule ((word.text ++ ": default").toList.length + 1))
        (word.text ++ ": default").toList := by
      rw [toList_append_default]
      exact rule_stops_append_colon _ hkeyword hregex hopens hinterval
    obtain ⟨labels, rest, hstop⟩ := readRules_stops_of_rule hrule
    unfold Rule.ofText
    rw [hstop]
    exact ⟨_, rfl⟩

/-- A date with a time of day, and a letter behind it. -/
theorem Rule.ofText_bareWord_dated :
    ∃ glob : Glob, glob.text = "12-01-2005-1230x" ∧ glob.caseSensitive = true ∧
      Rule.ofText "12-01-2005-1230x: default" =
        .ok (.list none [.clips (some (.glob glob)) [] []]) :=
  ((Rule.ofText_bareWord ⟨"12-01-2005-1230x", by decide⟩ (by decide) (by decide)
    (by decide)).1 (by decide)).resolve_right fun h => absurd h.1 (by decide)

/-- A date with a word behind a hyphen, and two dates with a letter behind them, are no intervals
and no globs either. -/
theorem Rule.ofText_bareWord_refused :
    let news : BareWord := ⟨"12-01-2005-news", by decide⟩
    let longer : BareWord := ⟨"12-01-2005-12-31-2005x", by decide⟩
    ∀ word ∈ [news, longer], word.text ∉ "regex" :: keywords ∧ isInterval word.text = false ∧
      (Rule.ofText (word.text ++ ": default")).isOk = false := by
  decide +kernel

end ClipSplice
