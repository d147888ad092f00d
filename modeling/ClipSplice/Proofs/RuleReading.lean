import ClipSplice.Proofs.ConditionReading

/-!
# Reading rules

A text that is a layout of some rules is read as these rules (`readRules_of_laidOut`). The
conditions in front of rules are told from the rules themselves by their first character, commas
between rules are taken where they stand, and a list of rules ends where no rule can start.
-/

namespace ClipSplice.RuleText

open Reader

/-! ## Where a list ends -/

/-- What may stand behind the last member of a list: nothing, or a closing bracket. -/
def EndsList (tokens : List Token) : Prop :=
  tokens = [] ∨ ∃ rest, tokens = .closeBracket :: rest

theorem EndsList.head_eq {tokens : List Token} {text : List Char} {c : Char}
    (h : EndsList tokens) (hlaid : LaidOut .none tokens text) (hc : text.head? = some c) :
    c = ']' := by
  rcases h with rfl | ⟨rest, rfl⟩
  · rw [hlaid.eq_nil] at hc
    exact absurd hc nofun
  · rw [hlaid.head?_eq] at hc
    exact (Option.some.inj hc).symm

section Misses

variable {tokens : List Token} {text : List Char}

/-- No string starts where a list ends. -/
theorem string_misses_of_endsList (hend : EndsList tokens) (hlaid : LaidOut .none tokens text) :
    Misses string text := by
  refine string_misses ⟨fun hc => ?_, fun hc => ?_⟩ fun c hc => ?_
  · exact absurd (hend.head_eq hlaid hc) (by decide)
  · exact absurd (hend.head_eq hlaid hc) (by decide)
  · rw [hend.head_eq hlaid hc]
    decide

/-- No condition starts where a list ends. -/
theorem condition_misses_of_endsList {lead : Lead} (depth : Nat) (hend : EndsList tokens)
    (hlaid : LaidOut lead tokens text) : Misses (condition depth) text := by
  cases depth with
  | zero => exact ⟨[], text, rfl⟩
  | succ depth =>
    have hlaid := hlaid.skipSpace
    refine Misses.space_bind (Misses.bind_of_done rfl (Misses.labelled _ ?_))
    refine (compound_misses fun c hc => ?_).orElse ((regexCondition_misses _ fun hc => ?_).orElse
      ((dateCondition_misses _ (fun c hc => ?_) fun c hc => ?_).orElse ?_))
    · rw [hend.head_eq hlaid hc]
      decide
    · exact absurd (hend.head_eq hlaid hc) (by decide)
    · rw [hend.head_eq hlaid hc]
      decide
    · rw [hend.head_eq hlaid hc]
      decide
    · exact (string_misses_of_endsList hend hlaid).bind

theorem clause_misses {lead : Lead} (h : NotAhead 'p' tokens) (hlaid : LaidOut lead tokens text) :
    Misses clause text := by
  have hhead := h _ hlaid.skipSpace
  refine Misses.space_bind (Misses.bind_of_done rfl (Misses.bind ?_))
  exact (keyword_misses hhead).bind.orElse (keyword_misses hhead).bind

/-- No rule body starts with a character other than a bracket or the letter of a keyword. -/
theorem ruleBody_misses {lead : Lead} {rule : Reader RuleTree} (condition : Option ConditionTree)
    (h : NotAhead 'd' tokens ∧ NotAhead 'p' tokens ∧ NotAhead '[' tokens)
    (hlaid : LaidOut lead tokens text) : Misses (ruleBody rule condition) text := by
  obtain ⟨hdefault, hclause, hbracket⟩ := h
  have hlaid := hlaid.skipSpace
  have hword : Misses (keyword "default") (skipSpace false text) :=
    keyword_misses (hdefault _ hlaid)
  have hside := clause_misses hclause hlaid
  have hlist : Misses (ruleList rule) (skipSpace false text) :=
    (char_misses (hbracket _ hlaid)).bind
  exact Misses.space_bind (hword.bind.orElse (hside.bind.bind.orElse hlist.bind))

/-- No rule starts where a list ends. -/
theorem rule_misses_of_endsList {lead : Lead} (depth : Nat) (hend : EndsList tokens)
    (hlaid : LaidOut lead tokens text) : Misses (rule depth) text := by
  cases depth with
  | zero => exact ⟨[], text, rfl⟩
  | succ depth =>
    have hlaid := hlaid.skipSpace
    have hahead {c : Char} (hc : c ≠ ']') : NotAhead c tokens :=
      fun _ hlaid hhead => hc (hend.head_eq hlaid hhead)
    have hbody : Misses (ruleBody (rule depth) none) (skipSpace false text) :=
      ruleBody_misses none ⟨hahead (by decide), hahead (by decide), hahead (by decide)⟩ hlaid
    refine Misses.space_bind (Misses.bind_of_done (optional_of_misses hbody) (Misses.bind ?_))
    exact condition_misses_of_endsList _ hend hlaid

end Misses

/-! ## Clips -/

private theorem eq_map_of_forall₂ {α β : Type} {f : α → β} {items : List α} {values : List β}
    (h : List.Forall₂ (fun item value => value = f item) items values) :
    values = items.map f := by
  induction h with
  | nil => rfl
  | cons hvalue _ ih => rw [hvalue, ih, List.map_cons]

/-- The clips between the brackets of a list, perhaps none. -/
private theorem reads_clips (clips : List Literal) :
    Reads .some
      (separatedOrNone comma do
        space
        string)
      (match clips with
        | [] => []
        | first :: rest => first.token :: rest.flatMap fun clip => [.comma, clip.token])
      EndsList (· = clips.map Literal.text) := by
  have hclip (clip : Literal) : Reads .any (do space; string) [clip.token] (fun _ => True)
      (· = clip.text) := .space_bind (reads_string clip)
  cases clips with
  | nil =>
    have hnone : Reads .some (optional (separated comma do space; string)) [] EndsList
        fun found => found = none :=
      .optional_none fun more text hmore hlaid =>
        (Misses.space_bind (string_misses_of_endsList hmore hlaid.skipSpace)).bind
    refine hnone.bind_pure ?_
    rintro _ rfl
    rfl
  | cons first rest =>
    have hlist : Reads .some (separated comma do space; string)
        ([first.token] ++ rest.flatMap fun clip => .comma :: [clip.token]) EndsList
        fun values => List.Forall₂ (fun clip value => value = Literal.text clip) (first :: rest)
          values := by
      refine reads_separated (fun clip _ => hclip clip) (fun _ => trivial) (fun _ _ => trivial)
        fun more hmore text hlaid hc => ?_
      exact absurd (hmore.head_eq hlaid hc) (by decide)
    refine hlist.optional.bind_pure ?_
    rintro _ ⟨values, rfl, hvalues⟩
    exact eq_map_of_forall₂ hvalues

/-- A list of clips. -/
theorem reads_clipList (clips : List Literal) :
    Reads .some clipList (clipTokens clips) (fun _ => True) (· = clips.map Literal.text) := by
  have htokens : clipTokens clips = [.openBracket] ++ ((match clips with
      | [] => []
      | first :: rest => first.token :: rest.flatMap fun clip => [.comma, clip.token]) ++
        [.closeBracket]) := by
    cases clips <;> rfl
  rw [htokens]
  refine .space_bind ((reads_char '[' (by decide)).bind (fun _ _ => ?_) fun _ _ => trivial)
  exact (reads_clips clips).close ']' (by decide) fun more _ => .inr ⟨more, rfl⟩

/-! ## Clip lists with their sides -/

/-- The text of the word of a side. -/
def ClipSide.text : ClipSide → String
  | pre => "pre"
  | post => "post"

theorem ClipSide.text_bare (side : ClipSide) :
    side.text.toList ≠ [] ∧ side.text.toList.all isBare = true := by
  cases side <;> decide

/-- The word of a side. -/
def ClipSide.word (side : ClipSide) : BareWord := ⟨side.text, side.text_bare⟩

/-- The tokens of a clip list with its side. -/
def clauseTokens (side : ClipSide) (clips : List Literal) : List Token :=
  side.word.token :: .colon :: clipTokens clips

private theorem reads_side (side : ClipSide) :
    Reads .none
      ((do keyword "pre"; return ClipSide.pre) <|> (do keyword "post"; return ClipSide.post))
      [side.word.token] (fun _ => True) (· = side) := by
  cases side with
  | pre => exact .orElse_left ((reads_keyword ClipSide.pre.word).bind_pure fun _ _ => rfl)
  | post =>
    refine .orElse_right (fun more text hlaid => ?_)
      ((reads_keyword ClipSide.post.word).bind_pure fun _ _ => rfl)
    exact (keyword_misses_of_ne hlaid (by decide)).bind

theorem reads_clause (side : ClipSide) (clips : List Literal) {lead : Lead} :
    Reads lead clause (clauseTokens side clips) (fun _ => True)
      fun tree => tree.side = side ∧ tree.clips = clips.map Literal.text := by
  refine .space_bind (.bytesLeft_bind fun place => ?_)
  refine (reads_side side).bind (fun side' hside => ?_) fun _ _ => trivial
  refine (reads_closing ':' (by decide)).bind (fun _ _ => ?_) fun _ _ => trivial
  exact ((reads_clipList clips).must.labelled _).bind_pure fun _ hclips => ⟨hside, hclips⟩

/-! ## Commas that may be missing -/

/-- A comma is taken if it stands there; the next token is not taken for one. -/
theorem maybeComma_of_laidOut {lead : Lead} {tokens : List Token} {text : List Char}
    (hlaid : LaidOut lead (.maybeComma :: tokens) text) (hcomma : NotAhead ',' tokens) :
    ∃ rest, maybeComma text = .done () rest ∧ LaidOut .any tokens rest := by
  have hlaid := hlaid.skipSpace
  generalize htext : skipSpace false text = skipped at hlaid
  cases hlaid with
  | @comma _ _ gap rest _ hlead hrest =>
    have hgap : gap = [] := hlead
    rw [hgap, List.nil_append] at htext
    have hread : optional (char ',') (',' :: rest) = .done (some ()) rest :=
      optional_of_done (char_cons ',' rest)
    exact ⟨rest, bind_of_done (htext ▸ hread), hrest.toAny⟩
  | noComma htokens =>
    -- the space that was skipped to look for a comma stays skipped
    subst htext
    have hread := optional_of_misses (char_misses (hcomma _ htokens))
    exact ⟨_, bind_of_done hread, htokens.toAny⟩

theorem reads_maybeComma_bind {α : Type} {reader : Reader α} {lead : Lead} {tokens : List Token}
    {follow : List Token → Prop} {good : α → Prop} (h : Reads .any reader tokens follow good)
    (hcomma : ∀ more, NotAhead ',' (tokens ++ more)) :
    Reads lead (do maybeComma; reader) (.maybeComma :: tokens) follow good := by
  intro more text hmore hlaid
  obtain ⟨rest, hread, hrest⟩ := maybeComma_of_laidOut hlaid (hcomma more)
  obtain ⟨value, rest', hread', hvalue, hrest'⟩ := h hmore hrest
  exact ⟨value, rest', (bind_of_done hread).trans hread', hvalue, hrest'⟩

/-- Clips before and after the file. -/
theorem reads_clauses (pre post : List Literal) {lead : Lead} :
    Reads lead clauses
      (clauseTokens .pre pre ++ .maybeComma :: clauseTokens .post post) (fun _ => True)
      fun trees => ∀ source, clipsOf source none none trees =
        .ok (pre.map Literal.text, post.map Literal.text) := by
  have hsecond : Reads .some (optional do maybeComma; clause)
      (.maybeComma :: clauseTokens .post post) (fun _ => True)
      fun found => ∃ tree, found = some tree ∧ tree.side = .post ∧
        tree.clips = post.map Literal.text :=
    (reads_maybeComma_bind (reads_clause .post post) fun more =>
      notAhead_word (by decide)).optional
  -- the second clause may be missing in other texts, but here it stands there
  refine (reads_clause .pre pre).bind (fun first hfirst => ?_) fun _ _ => trivial
  refine hsecond.bind_pure ?_
  rintro _ ⟨second, rfl, hsecond⟩ source
  simp [clipsOf, hfirst, hsecond]

/-! ## Rules -/

/-- A rule is read as what it means. -/
def RulePhrase.ReadAs (phrase : RulePhrase) (tree : RuleTree) : Prop :=
  ∀ source, ruleOf source tree = .ok phrase.meaning

namespace RulePhrase

/-- The condition in front of a rule. -/
def guard : RulePhrase → Option ConditionPhrase
  | default guard => guard
  | clips guard _ _ => guard
  | list guard _ => guard

theorem default_bare : "default".toList ≠ [] ∧ "default".toList.all isBare = true := by decide

/-- The tokens of a rule behind its condition. -/
def bodyTokens : RulePhrase → List Token
  | default _ => [BareWord.token ⟨"default", default_bare⟩]
  | clips _ pre post => clauseTokens .pre pre ++ .maybeComma :: clauseTokens .post post
  | list _ rules => .openBracket :: (sequenceTokens rules ++ [.closeBracket])

/-- The rules in a list of rules. -/
def members : RulePhrase → List RulePhrase
  | list _ rules => rules
  | _ => []

theorem tokens_eq (phrase : RulePhrase) :
    phrase.tokens = guardTokens phrase.guard ++ phrase.bodyTokens := by
  cases phrase with
  | default guard => rw [tokens, RulePhrase.guard, bodyTokens]
  | clips guard pre post =>
    rw [tokens]
    rfl
  | list guard rules => rw [tokens, RulePhrase.guard, bodyTokens]

theorem furtherTokens_eq_flatMap (phrases : List RulePhrase) :
    furtherTokens phrases = phrases.flatMap fun phrase => .maybeComma :: phrase.tokens := by
  induction phrases with
  | nil => rfl
  | cons phrase phrases ih =>
    rw [furtherTokens, ih]
    rfl

theorem wordCount_tokens_pos (phrase : RulePhrase) : 0 < wordCount phrase.tokens := by
  rw [tokens_eq, wordCount_append]
  refine Nat.add_pos_right _ ?_
  cases phrase <;> exact Nat.succ_pos _

theorem wordCount_sequenceTokens (phrases : List RulePhrase) :
    wordCount (sequenceTokens phrases) = wordCount (furtherTokens phrases) := by
  cases phrases with
  | nil => rw [sequenceTokens, furtherTokens]
  | cons first rest => rw [sequenceTokens, furtherTokens, wordCount]

theorem wordCount_le_of_mem {phrase : RulePhrase} {phrases : List RulePhrase}
    (hmem : phrase ∈ phrases) : wordCount phrase.tokens ≤ wordCount (furtherTokens phrases) := by
  induction phrases with
  | nil => exact absurd hmem List.not_mem_nil
  | cons first rest ih =>
    rw [furtherTokens, wordCount, wordCount_append]
    rcases List.mem_cons.1 hmem with rfl | hmem
    · exact Nat.le_add_right _ _
    · exact Nat.le_add_left_of_le (ih hmem)

theorem wordCount_lt_of_mem_members {phrase member : RulePhrase}
    (hmem : member ∈ phrase.members) : wordCount member.tokens < wordCount phrase.tokens := by
  cases phrase with
  | default guard => exact absurd hmem List.not_mem_nil
  | clips guard pre post => exact absurd hmem List.not_mem_nil
  | list guard rules =>
    have hle : wordCount member.tokens ≤ wordCount (furtherTokens rules) :=
      wordCount_le_of_mem hmem
    have hlist : wordCount (.openBracket :: (sequenceTokens rules ++ [.closeBracket])) =
        wordCount (sequenceTokens rules) + 1 + 1 := by
      show wordCount (sequenceTokens rules ++ [.closeBracket]) + 1 = _
      rw [wordCount_append]
      rfl
    rw [tokens, wordCount_append, hlist, wordCount_sequenceTokens]
    omega

end RulePhrase

theorem rulesOf_of_readAs {phrases : List RulePhrase} {trees : List RuleTree}
    (htrees : List.Forall₂ RulePhrase.ReadAs phrases trees) (source : String) :
    rulesOf source trees = .ok (RulePhrase.meanings phrases) := by
  induction htrees with
  | nil => rfl
  | cons htree _ ih =>
    rw [rulesOf, htree source, ok_bind, ih]
    rfl

/-- No rule starts with a comma. -/
theorem RulePhrase.notAhead_comma (phrase : RulePhrase) (tokens : List Token) :
    NotAhead ',' (phrase.tokens ++ tokens) := by
  rw [tokens_eq, List.append_assoc]
  cases hguard : phrase.guard with
  | none => cases phrase <;> exact notAhead_word (by decide)
  | some condition =>
    rw [guardTokens, List.append_assoc]
    exact condition.notAhead (.inl rfl) _

section Reader

variable {reader : Reader RuleTree} {lead : Lead}

/-- Rules one after the other, up to where a list ends. -/
theorem reads_ruleSequence {first : RulePhrase} {rest : List RulePhrase}
    (hrules : ∀ phrase ∈ first :: rest,
      Reads .any reader phrase.tokens (fun _ => True) phrase.ReadAs)
    (hmiss : ∀ more text, EndsList more → LaidOut .any more text → Misses reader text) :
    Reads lead (ruleSequence reader) (RulePhrase.sequenceTokens (first :: rest)) EndsList
      fun trees => List.Forall₂ RulePhrase.ReadAs (first :: rest) trees := by
  rw [RulePhrase.sequenceTokens, RulePhrase.furtherTokens_eq_flatMap]
  refine Reads.sequence (hrules first List.mem_cons_self).ofAny (fun phrase hphrase => ?_)
    (fun _ _ => trivial) (fun _ _ => trivial) (fun more text hmore hlaid => ?_)
    fun phrase => phrase.wordCount_tokens_pos
  · exact reads_maybeComma_bind (hrules phrase (List.mem_cons_of_mem _ hphrase))
      phrase.notAhead_comma
  · -- the missing comma is no obstacle, so it is the rule that has to turn the end down
    have hlaid := hlaid.skipSpace
    have hcomma : Misses (char ',') (skipSpace false text) :=
      char_misses fun hc => absurd (hmore.head_eq hlaid hc) (by decide)
    have hread : maybeComma text = .done () (skipSpace false text) :=
      bind_of_done (optional_of_misses hcomma)
    exact Misses.bind_of_done hread (hmiss more _ hmore hlaid.toAny)

/-- Rules between brackets, perhaps none. -/
theorem reads_ruleList {rules : List RulePhrase}
    (hrules : ∀ phrase ∈ rules, Reads .any reader phrase.tokens (fun _ => True) phrase.ReadAs)
    (hmiss : ∀ more text, EndsList more → LaidOut .any more text → Misses reader text) :
    Reads .none (ruleList reader)
      (.openBracket :: (RulePhrase.sequenceTokens rules ++ [.closeBracket])) (fun _ => True)
      fun trees => List.Forall₂ RulePhrase.ReadAs rules trees := by
  have hmembers : Reads .some (do return (← optional (ruleSequence reader)).getD [])
      (RulePhrase.sequenceTokens rules) EndsList
      fun trees => List.Forall₂ RulePhrase.ReadAs rules trees := by
    cases rules with
    | nil =>
      have hnone : Reads .some (optional (ruleSequence reader)) [] EndsList
          fun found => found = none :=
        .optional_none fun more text hmore hlaid => (hmiss more text hmore hlaid.toAny).bind
      rw [RulePhrase.sequenceTokens]
      refine hnone.bind_pure ?_
      rintro _ rfl
      exact .nil
    | cons first rest =>
      refine (reads_ruleSequence hrules hmiss).optional.bind_pure ?_
      rintro _ ⟨trees, rfl, htrees⟩
      exact htrees
  refine (reads_char '[' (by decide)).bind (fun _ _ => ?_) fun _ _ => trivial
  refine (hmembers.must.labelled _).bind (fun trees htrees => ?_) fun more _ => .inr ⟨more, rfl⟩
  exact (reads_closing ']' (by decide)).bind_pure fun _ _ => htrees

/-- What follows a condition is read together with what was read of the condition. -/
theorem reads_ruleBody {phrase : RulePhrase} {condition : Option ConditionTree}
    (hguard : ∀ source,
      guardOf source condition = .ok (phrase.guard.map ConditionPhrase.meaning))
    (hrules : ∀ member ∈ phrase.members,
      Reads .any reader member.tokens (fun _ => True) member.ReadAs)
    (hmiss : ∀ more text, EndsList more → LaidOut .any more text → Misses reader text) :
    Reads lead (ruleBody reader condition) phrase.bodyTokens (fun _ => True) phrase.ReadAs := by
  refine .space_bind ?_
  cases phrase with
  | default guard =>
    refine .orElse_left ((reads_keyword ⟨"default", by decide⟩).bind_pure fun _ _ source => ?_)
    rw [ruleOf, hguard source, ok_bind]
    cases guard <;> rfl
  | clips guard pre post =>
    refine .orElse_right (fun more text hlaid => ?_)
      (.orElse_left ((reads_clauses pre post).bind_pure fun trees htrees source => ?_))
    · have hpre : LaidOut .none (ClipSide.pre.word.token :: _) text := hlaid
      exact (keyword_misses_of_ne hpre (by decide)).bind
    · rw [ruleOf, hguard source, ok_bind, htrees source]
      rfl
  | list guard rules =>
    refine .orElse_right (fun more text hlaid => ?_)
      (.orElse_right (fun more text hlaid => ?_)
        ((reads_ruleList hrules hmiss).bind_pure fun trees htrees source => ?_))
    · refine (keyword_misses ?_).bind
      rw [hlaid.head?_eq]
      decide
    · exact (clause_misses (notAhead_ofChar (by decide)) hlaid).bind.bind
    · rw [ruleOf, hguard source, ok_bind, rulesOf_of_readAs htrees source]
      rfl

end Reader

/-- A condition is read where a text is long enough for it. -/
theorem reads_guard (phrase : ConditionPhrase) {lead : Lead} :
    Reads lead (fun text => condition (text.length + 1) text) phrase.tokens EndsCondition
      phrase.ReadAs := by
  intro more text hmore hlaid
  have hcount := hlaid.wordCount_le
  rw [wordCount_append] at hcount
  exact reads_condition phrase (by omega) hmore hlaid.toAny

/-- A rule is read as what it means when the depth has room for it. -/
theorem reads_rule {depth : Nat} (phrase : RulePhrase) (hdepth : wordCount phrase.tokens ≤ depth) :
    Reads .any (rule depth) phrase.tokens (fun _ => True) phrase.ReadAs := by
  -- the induction is on the depth, as the reader's recursion is, for every rule that fits
  induction depth generalizing phrase with
  | zero => exact absurd phrase.wordCount_tokens_pos (by omega)
  | succ depth ih =>
    have hrules : ∀ member ∈ phrase.members,
        Reads .any (rule depth) member.tokens (fun _ => True) member.ReadAs := by
      -- a member has fewer words than the list, so a smaller depth has room for it
      intro member hmember
      have hlt := RulePhrase.wordCount_lt_of_mem_members hmember
      exact ih member (by omega)
    have hmiss (more : List Token) (text : List Char) (hend : EndsList more)
        (hlaid : LaidOut .any more text) : Misses (rule depth) text :=
      rule_misses_of_endsList depth hend hlaid
    refine .space_bind ?_
    rw [phrase.tokens_eq]
    cases hguard : phrase.guard with
    | none =>
      have hbody : Reads .none (ruleBody (rule depth) none) phrase.bodyTokens (fun _ => True)
          phrase.ReadAs :=
        reads_ruleBody (fun source => by rw [hguard]; rfl) hrules hmiss
      intro more text hmore hlaid
      obtain ⟨tree, rest, hread, htree, hrest⟩ := hbody hmore hlaid
      exact ⟨tree, rest, bind_of_done (optional_of_done hread), htree, hrest⟩
    | some condition =>
      have hguarded : Reads .none
          (do
            let guard ← fun text => RuleText.condition (text.length + 1) text
            closing ':'
            labelled .rule (must (ruleBody (rule depth) (some guard))))
          (guardTokens (some condition) ++ phrase.bodyTokens) (fun _ => True) phrase.ReadAs := by
        rw [guardTokens, List.append_assoc]
        refine (reads_guard condition).bind (fun tree htree => ?_)
          fun more _ => endsCondition_ofChar (by decide) (by decide)
        have hread (source : String) : guardOf source (some tree) =
            .ok (phrase.guard.map ConditionPhrase.meaning) := by
          rw [hguard, guardOf, htree source]
          rfl
        exact (reads_closing ':' (by decide)).bind
          (fun _ _ => (reads_ruleBody hread hrules hmiss).must.labelled _) fun _ _ => trivial
      intro more text hmore hlaid
      -- a rule without a condition is tried first, and the condition is not taken for one
      have hbody : Misses (ruleBody (rule depth) none) text := by
        refine ruleBody_misses none ⟨?_, ?_, ?_⟩ hlaid
        all_goals rw [guardTokens, List.append_assoc, List.append_assoc]
        · exact condition.notAhead (.inr (.inl rfl)) _
        · exact condition.notAhead (.inr (.inr (.inl rfl))) _
        · exact condition.notAhead (.inr (.inr (.inr rfl))) _
      obtain ⟨tree, rest, hread, htree, hrest⟩ := hguarded hmore hlaid
      exact ⟨tree, rest, (bind_of_done (optional_of_misses hbody)).trans hread, htree, hrest⟩

/-! ## Whole texts -/

/-- A layout of some rules is read as these rules, with nothing left. -/
theorem readRules_of_laidOut {first : RulePhrase} {rest : List RulePhrase} {text : List Char}
    (hlaid : LaidOut .any (RulePhrase.sequenceTokens (first :: rest)) text) :
    ∃ trees, readRules text = .done trees [] ∧
      List.Forall₂ RulePhrase.ReadAs (first :: rest) trees := by
  have hcount := hlaid.wordCount_le
  have hread : Reads .any (ruleSequence (rule (text.length + 1)))
      (RulePhrase.sequenceTokens (first :: rest)) EndsList
      fun trees => List.Forall₂ RulePhrase.ReadAs (first :: rest) trees := by
    refine reads_ruleSequence (fun phrase hphrase => reads_rule phrase ?_)
      fun more text hend hlaid => rule_misses_of_endsList _ hend hlaid
    have hle := RulePhrase.wordCount_le_of_mem hphrase
    rw [RulePhrase.wordCount_sequenceTokens] at hcount
    omega
  rw [← List.append_nil (RulePhrase.sequenceTokens (first :: rest))] at hlaid
  obtain ⟨trees, gap, hdone, htrees, hgap⟩ := hread.labelled .rule (.inl rfl) hlaid
  refine ⟨trees, ?_, htrees⟩
  have hspace : skipSpace false gap = [] := hgap.skipSpace.eq_nil
  have hwhole : (do
      let rules ← labelled .rule (ruleSequence (rule (text.length + 1)))
      space
      return rules : Reader (List RuleTree)) text = .done trees [] := by
    refine (bind_of_done hdone).trans ?_
    rw [← hspace]
    rfl
  rw [readRules]
  rw [hwhole]

end ClipSplice.RuleText

namespace ClipSplice

open RuleText

/-- Whatever a sentence of the grammar says is what is read from it, however it is laid out: the
rules that it means in the order in which they stand, in a list without a condition. -/
theorem Rule.ofText_of_laidOut (first : RulePhrase) (rest : List RulePhrase) {source : String}
    (hlaid : LaidOut .any (RulePhrase.sequenceTokens (first :: rest)) source.toList) :
    Rule.ofText source = .ok (.list none (RulePhrase.meanings (first :: rest))) := by
  obtain ⟨trees, hread, htrees⟩ := readRules_of_laidOut hlaid
  unfold Rule.ofText
  rw [hread]
  show (do return Rule.list none (← rulesOf source trees)) = _
  rw [rulesOf_of_readAs htrees source]
  rfl

/-- Two rules without a comma between them; in the first, a list of rules stands behind a condition
that is made from others. -/
theorem Rule.ofText_of_laidOut_nested :
    let glob : Glob := ⟨"a", true,
      (Regex.ofPattern? (Glob.patternOf "a")).get (by decide +kernel), (Option.some_get _).symm⟩
    let regex : AnchoredRegex := ⟨"b", { unicode := true },
      (Regex.ofPattern? (anchoredPattern "b")).get (by decide +kernel), (Option.some_get _).symm⟩
    let date : Date := ⟨2005, 1, 2, by decide⟩
    let source : String :=
      "or ( 'a' , not ( regex:'b' [ U ] ) ) : [ pre : [ ] post : [ 'x' ] ] >= 01/02/2005 : default "
    Rule.ofText source = .ok (.list none
      [.list (some (.any [.glob glob, .negation (.regex regex)])) [.clips none [] ["x"]],
        .clips (some (.during { start := .midnight date, finish := .last })) [] []]) := by
  intro glob regex date source
  let first : RulePhrase := .list
    (some (.any (.glob ⟨⟨'\'', .inl rfl, "a", by decide⟩, glob, rfl⟩)
      [.negation (.regex ⟨⟨'\'', .inl rfl, "b", by decide⟩, [.unicode], regex, rfl, rfl⟩)]))
    [.clips none [] [⟨'\'', .inl rfl, "x", by decide⟩]]
  let second : RulePhrase := .default
    (some (.date (.compare .greaterOrEqual ⟨date, by decide, by decide, .slash, none⟩) .unsaid))
  have htext : layOut [' '] false (RulePhrase.sequenceTokens [first, second]) = source.toList := by
    decide +kernel
  refine Rule.ofText_of_laidOut first [second] ?_
  rw [← htext]
  exact laidOut_layOut (.blank (by decide) .nil) nofun false _

end ClipSplice
