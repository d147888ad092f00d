import ClipSplice.Proofs.LocatedTrees

/-!
# Where trees that are read stand

Every tree that is read from a rule text stands there as the grammar says, and its marks tell where
its constructs start (`textAt_of_readRules`).
-/

namespace ClipSplice.RuleText

open Reader

/-! ## Trees that are read -/

/-- The marks of some constructs tell where they start. -/
def Marked (located : List Located) : Prop :=
  ∀ l ∈ located, l.construct.place? = some (Text.byteSize l.after)

theorem skipSpace_skipSpace (inComment : Bool) (text : List Char) :
    skipSpace false (skipSpace inComment text) = skipSpace inComment text := by
  induction text generalizing inComment with
  | nil => rfl
  | cons c rest ih =>
    by_cases hcomment : inComment = true
    · rw [skipSpace, if_pos hcomment, ih]
    by_cases hblank : isBlank c = true
    · rw [skipSpace, if_neg hcomment, if_pos hblank, ih]
    by_cases hhash : (c = '#' && endsAsComment rest) = true
    · rw [skipSpace, if_neg hcomment, if_neg hblank, if_pos hhash, ih]
    · have hself : skipSpace false (c :: rest) = c :: rest := by
        rw [skipSpace, if_neg Bool.false_ne_true, if_neg hblank, if_neg hhash]
      rw [skipSpace, if_neg hcomment, if_neg hblank, if_neg hhash, hself]

section

variable {α : Type} {reader : Reader α} {text rest : List Char} {value : α}

theorem space_bind_eq_done_iff : (do space; reader) text = .done value rest ↔
    reader (behindSpace text) = .done value rest := Iff.rfl

theorem bytesLeft_bind_eq_done_iff {next : Nat → Reader α} :
    (bytesLeft >>= next) text = .done value rest ↔
      next (Text.byteSize text) text = .done value rest := Iff.rfl

theorem comma_eq_done_iff : comma text = .done () rest ↔ behindSpace text = ',' :: rest :=
  space_bind_eq_done_iff.trans char_eq_done_iff

theorem closing_eq_done_iff {c : Char} :
    closing c text = .done () rest ↔ behindSpace text = c :: rest := by
  rw [closing, labelled_eq_done_iff, space_bind_eq_done_iff, must_eq_done_iff, char_eq_done_iff]

end

theorem optionAt_of_option {text rest : List Char} {o : OptionTree}
    (h : option text = .done o rest) :
    OptionAt o (behindSpace text) rest ∧ o.place = Text.byteSize (behindSpace text) := by
  obtain ⟨key, behind, hkey, h⟩ := bind_eq_done_iff.1
    (bytesLeft_bind_eq_done_iff.1 (space_bind_eq_done_iff.1 h))
  obtain ⟨value, hvalue, rfl⟩ := bind_pure_eq_done_iff.1 h
  rw [labelled_eq_done_iff] at hkey
  refine ⟨?_, rfl⟩
  obtain ⟨found, rfl, hfound⟩ | ⟨rfl, rfl, -⟩ := optional_eq_done_iff.1 hvalue
  · obtain ⟨⟨⟩, inner, hequals, hfound⟩ := bind_eq_done_iff.1 (space_bind_eq_done_iff.1 hfound)
    rw [space_bind_eq_done_iff, labelled_eq_done_iff, must_eq_done_iff] at hfound
    exact .valued hkey (char_eq_done_iff.1 hequals) hfound rfl
  · exact .word hkey rfl

theorem optionsAt_of_readsAll {owner : ConditionTree} {more : List OptionTree}
    {behind rest : List Char} (hmore : ReadsAll (do comma; option) more behind rest) :
    ∀ {earlier : List OptionTree} {first : OptionTree} {text : List Char},
      option text = .done first behind →
      ∃ located, OptionsAt owner earlier (first :: more) text rest located ∧ Marked located := by
  induction hmore with
  | nil =>
    intro earlier first text hfirst
    obtain ⟨hat, hplace⟩ := optionAt_of_option hfirst
    exact ⟨_, .last hat, List.forall_mem_singleton.2 (congrArg some hplace)⟩
  | cons hread _ ih =>
    intro earlier first text hfirst
    obtain ⟨hat, hplace⟩ := optionAt_of_option hfirst
    obtain ⟨⟨⟩, next, hcomma, hread⟩ := bind_eq_done_iff.1 hread
    obtain ⟨located, hoptions, hmarked⟩ := ih hread
    exact ⟨_, .cons hat (comma_eq_done_iff.1 hcomma) hoptions,
      List.forall_mem_cons.2 ⟨congrArg some hplace, hmarked⟩⟩

theorem maybeOptionsAt_of_maybeOptions {owner : ConditionTree} {options : List OptionTree}
    {text rest : List Char} (h : maybeOptions text = .done options rest) :
    ∃ located, MaybeOptionsAt owner options text rest located ∧ Marked located := by
  obtain ⟨found, hfound, rfl⟩ := bind_pure_eq_done_iff.1 h
  obtain ⟨options, rfl, hread⟩ | ⟨rfl, rfl, -⟩ := optional_eq_done_iff.1 hfound
  · obtain ⟨⟨⟩, inner, hopen, hread⟩ := bind_eq_done_iff.1 (space_bind_eq_done_iff.1 hread)
    rw [labelled_eq_done_iff, must_eq_done_iff, space_bind_eq_done_iff] at hread
    obtain ⟨found, behind, hoptions, hread⟩ := bind_eq_done_iff.1 hread
    obtain ⟨⟨⟩, behind', hclose, hread⟩ := bind_eq_done_iff.1 (space_bind_eq_done_iff.1 hread)
    cases hread
    obtain ⟨first, more, between, rfl, hfirst, hmore⟩ := separated_eq_done hoptions
    -- the space in front of the first option was skipped twice
    have hfirst : option inner = .done first between := by
      rwa [option, space_bind_eq_done_iff, behindSpace, skipSpace_skipSpace] at hfirst
    obtain ⟨located, hat, hmarked⟩ := optionsAt_of_readsAll hmore hfirst
    exact ⟨located, .some (char_eq_done_iff.1 hopen) hat (char_eq_done_iff.1 hclose), hmarked⟩
  · exact ⟨[], .none, fun _ hl => nomatch hl⟩

/-- A reader of conditions reads what the grammar says, and marks its constructs. -/
def ReadsConditions (condition : Reader ConditionTree) : Prop :=
  ∀ ⦃text rest : List Char⦄ ⦃tree : ConditionTree⦄, condition text = .done tree rest →
    ∃ located, ConditionAt tree (behindSpace text) rest located ∧ Marked located

theorem Marked.append {located more : List Located} (h : Marked located) (hmore : Marked more) :
    Marked (located ++ more) := List.forall_mem_append.2 ⟨h, hmore⟩

theorem conditionsAt_of_readsAll {condition : Reader ConditionTree}
    (hcondition : ReadsConditions condition) {more : List ConditionTree} {behind rest : List Char}
    (hmore : ReadsAll (do comma; condition) more behind rest) :
    ∀ {first : ConditionTree} {text : List Char}, condition text = .done first behind →
      ∃ located, ConditionsAt (first :: more) text rest located ∧ Marked located := by
  induction hmore with
  | nil =>
    intro first text hfirst
    obtain ⟨located, hat, hmarked⟩ := hcondition hfirst
    exact ⟨located, .last hat, hmarked⟩
  | cons hread _ ih =>
    intro first text hfirst
    obtain ⟨located, hat, hmarked⟩ := hcondition hfirst
    obtain ⟨⟨⟩, next, hcomma, hread⟩ := bind_eq_done_iff.1 hread
    obtain ⟨more, htrees, hmore⟩ := ih hread
    exact ⟨_, .cons hat (comma_eq_done_iff.1 hcomma) htrees, hmarked.append hmore⟩

theorem conditionsAt_of_conditionList {condition : Reader ConditionTree}
    (hcondition : ReadsConditions condition) {members : List ConditionTree}
    {text rest : List Char} (h : conditionList condition text = .done members rest) :
    ∃ inner last located, behindSpace text = '(' :: inner ∧
      ConditionsAt members inner last located ∧ behindSpace last = ')' :: rest ∧
      Marked located := by
  obtain ⟨⟨⟩, inner, hopen, h⟩ := bind_eq_done_iff.1 (space_bind_eq_done_iff.1 h)
  obtain ⟨found, last, hmembers, h⟩ := bind_eq_done_iff.1 h
  obtain ⟨⟨⟩, behind, hclose, h⟩ := bind_eq_done_iff.1 h
  cases h
  rw [labelled_eq_done_iff, must_eq_done_iff] at hmembers
  obtain ⟨first, more, between, rfl, hfirst, hmore⟩ := separated_eq_done hmembers
  obtain ⟨located, hat, hmarked⟩ := conditionsAt_of_readsAll hcondition hmore hfirst
  exact ⟨inner, last, located, char_eq_done_iff.1 hopen, hat, closing_eq_done_iff.1 hclose,
    hmarked⟩

theorem conditionAt_of_compound {condition : Reader ConditionTree}
    (hcondition : ReadsConditions condition) {tree : ConditionTree} {text rest : List Char}
    (h : compound condition text = .done tree rest) :
    ∃ located, ConditionAt tree text rest located ∧ Marked located := by
  obtain ⟨make, behind, hmake, h⟩ := bind_eq_done_iff.1 h
  obtain hand | ⟨-, hmake⟩ := orElse_eq_done_iff.1 hmake
  · obtain ⟨⟨⟩, behind', hword, hmake⟩ := bind_eq_done_iff.1 hand
    cases hmake
    obtain ⟨members, hmembers, rfl⟩ := bind_pure_eq_done_iff.1 h
    obtain ⟨inner, last, located, hopen, hat, hclose, hmarked⟩ :=
      conditionsAt_of_conditionList hcondition hmembers
    exact ⟨located, .all hword hopen hat hclose, hmarked⟩
  obtain hor | ⟨-, hmake⟩ := orElse_eq_done_iff.1 hmake
  · obtain ⟨⟨⟩, behind', hword, hmake⟩ := bind_eq_done_iff.1 hor
    cases hmake
    obtain ⟨members, hmembers, rfl⟩ := bind_pure_eq_done_iff.1 h
    obtain ⟨inner, last, located, hopen, hat, hclose, hmarked⟩ :=
      conditionsAt_of_conditionList hcondition hmembers
    exact ⟨located, .any hword hopen hat hclose, hmarked⟩
  · obtain ⟨⟨⟩, behind', hword, hmake⟩ := bind_eq_done_iff.1 hmake
    cases hmake
    obtain ⟨⟨⟩, inner, hopen, h⟩ := bind_eq_done_iff.1 (space_bind_eq_done_iff.1 h)
    obtain ⟨tree, last, htree, h⟩ := bind_eq_done_iff.1 h
    obtain ⟨⟨⟩, behind'', hclose, h⟩ := bind_eq_done_iff.1 h
    cases h
    obtain ⟨located, hat, hmarked⟩ := hcondition (must_eq_done_iff.1 htree)
    exact ⟨located, .negation hword (char_eq_done_iff.1 hopen) hat (closing_eq_done_iff.1 hclose),
      hmarked⟩

theorem readsConditions_condition (depth : Nat) : ReadsConditions (condition depth) := by
  induction depth with
  | zero => exact fun _ _ _ h => nomatch h
  | succ depth ih =>
    intro text rest tree h
    rw [condition, space_bind_eq_done_iff, bytesLeft_bind_eq_done_iff, labelled_eq_done_iff] at h
    -- the mark is taken behind the space, before it is known which kind of condition follows
    have hfirst : ∀ {owner : ConditionTree} {located : List Located},
        owner.place? = some (Text.byteSize (behindSpace text)) → Marked located →
        Marked (⟨.condition owner, behindSpace text⟩ :: located) :=
      fun hplace hmarked => List.forall_mem_cons.2 ⟨hplace, hmarked⟩
    obtain hcompound | ⟨-, h⟩ := orElse_eq_done_iff.1 h
    · exact conditionAt_of_compound ih hcompound
    obtain hregex | ⟨-, h⟩ := orElse_eq_done_iff.1 h
    · obtain ⟨⟨⟩, inner, hword, h⟩ := bind_eq_done_iff.1 hregex
      obtain ⟨pattern, behind, hpattern, h⟩ := bind_eq_done_iff.1 h
      obtain ⟨options, hoptions, rfl⟩ := bind_pure_eq_done_iff.1 h
      rw [labelled_eq_done_iff, must_eq_done_iff] at hpattern
      obtain ⟨located, hat, hmarked⟩ := maybeOptionsAt_of_maybeOptions hoptions
      exact ⟨_, .regex (exactly_eq_done_iff.1 hword) hpattern hat, hfirst rfl hmarked⟩
    obtain hdate | ⟨-, hglob⟩ := orElse_eq_done_iff.1 h
    · obtain ⟨span, behind, hspan, h⟩ := bind_eq_done_iff.1 hdate
      obtain ⟨options, hoptions, rfl⟩ := bind_pure_eq_done_iff.1 h
      obtain ⟨located, hat, hmarked⟩ := maybeOptionsAt_of_maybeOptions hoptions
      exact ⟨_, .date hspan hat, hfirst rfl hmarked⟩
    · obtain ⟨name, behind, hname, h⟩ := bind_eq_done_iff.1 hglob
      obtain ⟨options, hoptions, rfl⟩ := bind_pure_eq_done_iff.1 h
      obtain ⟨located, hat, hmarked⟩ := maybeOptionsAt_of_maybeOptions hoptions
      exact ⟨_, .glob hname hat, hfirst rfl hmarked⟩

/-! ### Rules -/

theorem clauseAt_of_clause {text rest : List Char} {tree : ClauseTree}
    (h : clause text = .done tree rest) :
    ClauseAt tree (behindSpace text) rest ∧ tree.place = Text.byteSize (behindSpace text) := by
  obtain ⟨side, behind, hside, h⟩ := bind_eq_done_iff.1
    (bytesLeft_bind_eq_done_iff.1 (space_bind_eq_done_iff.1 h))
  obtain ⟨⟨⟩, inner, hcolon, h⟩ := bind_eq_done_iff.1 h
  obtain ⟨clips, hclips, rfl⟩ := bind_pure_eq_done_iff.1 h
  rw [labelled_eq_done_iff, must_eq_done_iff] at hclips
  refine ⟨⟨behind, inner, ?_, closing_eq_done_iff.1 hcolon, hclips⟩, rfl⟩
  obtain hside | ⟨-, hside⟩ := orElse_eq_done_iff.1 hside
  · obtain ⟨⟨⟩, hword, rfl⟩ := bind_pure_eq_done_iff.1 hside
    exact hword
  · obtain ⟨⟨⟩, hword, rfl⟩ := bind_pure_eq_done_iff.1 hside
    exact hword

theorem behindComma_of_maybeComma {text rest : List Char} (h : maybeComma text = .done () rest) :
    BehindComma text rest := by
  obtain ⟨found, behind, hfound, h⟩ := bind_eq_done_iff.1 (space_bind_eq_done_iff.1 h)
  cases h
  obtain ⟨⟨⟩, -, hcomma⟩ | ⟨-, rfl, labels, behind, hmiss⟩ := optional_eq_done_iff.1 hfound
  · exact .comma (char_eq_done_iff.1 hcomma)
  · exact .none fun next hcomma => nomatch hmiss.symm.trans (char_eq_done_iff.2 hcomma)

theorem clausesAt_of_clauses {text rest : List Char} {trees : List ClauseTree}
    (h : clauses text = .done trees rest) :
    ∃ located, ClausesAt trees text rest located ∧ Marked located := by
  obtain ⟨first, behind, hfirst, h⟩ := bind_eq_done_iff.1 h
  obtain ⟨found, hfound, rfl⟩ := bind_pure_eq_done_iff.1 h
  obtain ⟨hat, hplace⟩ := clauseAt_of_clause hfirst
  obtain ⟨second, rfl, hsecond⟩ | ⟨rfl, rfl, -⟩ := optional_eq_done_iff.1 hfound
  · obtain ⟨⟨⟩, next, hcomma, hsecond⟩ := bind_eq_done_iff.1 hsecond
    obtain ⟨hat', hplace'⟩ := clauseAt_of_clause hsecond
    exact ⟨_, .two hat (behindComma_of_maybeComma hcomma) hat', List.forall_mem_cons.2
      ⟨congrArg some hplace, List.forall_mem_singleton.2 (congrArg some hplace')⟩⟩
  · exact ⟨_, .one hat, List.forall_mem_singleton.2 (congrArg some hplace)⟩

/-- A reader of rules reads what the grammar says, and marks its constructs. -/
def ReadsRules (rule : Reader RuleTree) : Prop :=
  ∀ ⦃text rest : List Char⦄ ⦃tree : RuleTree⦄, rule text = .done tree rest →
    ∃ located, RuleAt tree text rest located ∧ Marked located

theorem rulesAt_of_readsAll {rule : Reader RuleTree} (hrule : ReadsRules rule)
    {more : List RuleTree} {behind rest : List Char}
    (hmore : ReadsAll (do maybeComma; rule) more behind rest) :
    ∀ {first : RuleTree} {text : List Char}, rule text = .done first behind →
      ∃ located, RulesAt (first :: more) text rest located ∧ Marked located := by
  induction hmore with
  | nil =>
    intro first text hfirst
    obtain ⟨located, hat, hmarked⟩ := hrule hfirst
    exact ⟨located, .last hat, hmarked⟩
  | cons hread _ ih =>
    intro first text hfirst
    obtain ⟨located, hat, hmarked⟩ := hrule hfirst
    obtain ⟨⟨⟩, next, hcomma, hread⟩ := bind_eq_done_iff.1 hread
    obtain ⟨more, htrees, hmore⟩ := ih hread
    exact ⟨_, .cons hat (behindComma_of_maybeComma hcomma) htrees, hmarked.append hmore⟩

theorem rulesAt_of_ruleSequence {rule : Reader RuleTree} (hrule : ReadsRules rule)
    {trees : List RuleTree} {text rest : List Char}
    (h : ruleSequence rule text = .done trees rest) :
    ∃ located, RulesAt trees text rest located ∧ Marked located := by
  obtain ⟨first, behind, hfirst, h⟩ := bind_eq_done_iff.1 h
  obtain ⟨more, hmore, rfl⟩ := bind_pure_eq_done_iff.1 h
  exact rulesAt_of_readsAll hrule (readsAll_of_many hmore) hfirst

theorem bodyAt_of_ruleBody {rule : Reader RuleTree} (hrule : ReadsRules rule)
    {guard : Option ConditionTree} {tree : RuleTree} {text rest : List Char}
    (h : ruleBody rule guard text = .done tree rest) :
    ∃ located, BodyAt guard tree (behindSpace text) rest located ∧ Marked located := by
  rw [ruleBody, space_bind_eq_done_iff] at h
  obtain hdefault | ⟨-, h⟩ := orElse_eq_done_iff.1 h
  · obtain ⟨⟨⟩, hword, rfl⟩ := bind_pure_eq_done_iff.1 hdefault
    exact ⟨[], .default hword, fun _ hl => nomatch hl⟩
  obtain hclips | ⟨-, hlist⟩ := orElse_eq_done_iff.1 h
  · obtain ⟨clauses, hclauses, rfl⟩ := bind_pure_eq_done_iff.1 hclips
    obtain ⟨located, hat, hmarked⟩ := clausesAt_of_clauses hclauses
    exact ⟨located, .clips hat, hmarked⟩
  · obtain ⟨rules, hrules, rfl⟩ := bind_pure_eq_done_iff.1 hlist
    obtain ⟨⟨⟩, inner, hopen, hrules⟩ := bind_eq_done_iff.1 hrules
    obtain ⟨members, behind, hmembers, hrules⟩ := bind_eq_done_iff.1 hrules
    obtain ⟨⟨⟩, behind', hclose, hrules⟩ := bind_eq_done_iff.1 hrules
    cases hrules
    rw [labelled_eq_done_iff, must_eq_done_iff] at hmembers
    obtain ⟨found, hfound, rfl⟩ := bind_pure_eq_done_iff.1 hmembers
    obtain ⟨trees, rfl, htrees⟩ | ⟨rfl, rfl, -⟩ := optional_eq_done_iff.1 hfound
    · obtain ⟨located, hat, hmarked⟩ := rulesAt_of_ruleSequence hrule htrees
      exact ⟨located, .list (char_eq_done_iff.1 hopen) hat (closing_eq_done_iff.1 hclose), hmarked⟩
    · exact ⟨[], .empty (char_eq_done_iff.1 hopen) (closing_eq_done_iff.1 hclose),
        fun _ hl => nomatch hl⟩

theorem readsRules_rule (depth : Nat) : ReadsRules (rule depth) := by
  induction depth with
  | zero => exact fun _ _ _ h => nomatch h
  | succ depth ih =>
    intro text rest tree h
    rw [rule, space_bind_eq_done_iff] at h
    obtain ⟨found, behind, hfound, h⟩ := bind_eq_done_iff.1 h
    obtain ⟨body, rfl, hbody⟩ | ⟨rfl, rfl, -⟩ := optional_eq_done_iff.1 hfound
    · cases h
      obtain ⟨located, hat, hmarked⟩ := bodyAt_of_ruleBody ih hbody
      -- the body skips space that the rule has skipped before
      rw [behindSpace, skipSpace_skipSpace] at hat
      exact ⟨located, .plain hat, hmarked⟩
    · obtain ⟨guard, behind, hguard, h⟩ := bind_eq_done_iff.1 h
      obtain ⟨⟨⟩, inner, hcolon, hbody⟩ := bind_eq_done_iff.1 h
      rw [labelled_eq_done_iff, must_eq_done_iff] at hbody
      obtain ⟨located, hat, hmarked⟩ := readsConditions_condition _ hguard
      obtain ⟨more, hat', hmore⟩ := bodyAt_of_ruleBody ih hbody
      rw [behindSpace, skipSpace_skipSpace] at hat
      exact ⟨_, .guarded hat (closing_eq_done_iff.1 hcolon) hat', hmarked.append hmore⟩

/-- What is read stands in the text as the grammar says, and its marks tell where. -/
theorem textAt_of_readRules {text rest : List Char} {trees : List RuleTree}
    (h : readRules text = .done trees rest) :
    ∃ located, TextAt trees text located ∧ Marked located := by
  unfold readRules at h
  dsimp only at h
  split at h
  · rename_i found hread
    cases h
    obtain ⟨found, behind, hfound, hread⟩ := bind_eq_done_iff.1 hread
    rw [labelled_eq_done_iff] at hfound
    obtain ⟨⟨⟩, behind', hspace, hread⟩ := bind_eq_done_iff.1 hread
    cases hread
    obtain ⟨located, hat, hmarked⟩ := rulesAt_of_ruleSequence (readsRules_rule _) hfound
    exact ⟨located, ⟨behind, hat, (Reply.done.inj hspace).2⟩, hmarked⟩
  · cases h
  · rename_i _ hnever
    exact (hnever _ _ h).elim

end ClipSplice.RuleText
