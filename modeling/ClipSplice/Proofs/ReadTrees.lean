import ClipSplice.RuleText.Meaning
import Mathlib

/-!
# The trees that are read

Every tree that is read from a rule text is put together by the productions of the grammar: lists of
conditions between parentheses have members, and dates have years of four digits. What these
productions keep holds of all trees that are read (`yields_readRules`). `Reader.Yields` says that
whatever a reader gives has a property, with a rule for every way in which readers are put together;
`Reader.Leaves` says that a reader leaves an end of the text, so that what it took is a slice.
-/

namespace ClipSplice.RuleText

/-! ## What readers give -/

/-- Whatever a reader gives has a property. -/
def Reader.Yields {α : Type} (reader : Reader α) (P : α → Prop) : Prop :=
  ∀ text value rest, reader text = .done value rest → P value

namespace Reader.Yields

variable {α β : Type} {reader other : Reader α} {P : α → Prop} {Q : β → Prop}

theorem pure {value : α} (h : P value) : (Pure.pure value : Reader α).Yields P := by
  intro text found rest hread
  cases hread
  exact h

theorem trivial : reader.Yields fun _ => True := fun _ _ _ _ => True.intro

theorem bind {next : α → Reader β} (h : reader.Yields P) (hnext : ∀ a, P a → (next a).Yields Q) :
    (reader >>= next).Yields Q := by
  intro text value rest hread
  change Reader.bind reader next text = _ at hread
  unfold Reader.bind at hread
  split at hread
  · rename_i a behind hfirst
    exact hnext a (h text a behind hfirst) behind value rest hread
  · cases hread
  · cases hread

/-- What a reader gave does not matter for what is read behind it. -/
theorem after {next : α → Reader β} (hnext : ∀ a, (next a).Yields Q) :
    (reader >>= next).Yields Q := trivial.bind fun a _ => hnext a

theorem orElse (h : reader.Yields P) (hother : other.Yields P) : (reader <|> other).Yields P := by
  intro text value rest hread
  change Reader.orElse reader (fun _ => other) text = _ at hread
  unfold Reader.orElse at hread
  split at hread
  · exact hother text value rest hread
  · exact h text value rest hread

theorem optional (h : reader.Yields P) :
    (Reader.optional reader).Yields fun found => ∀ value ∈ found, P value := by
  intro text found rest hread value hvalue
  unfold Reader.optional at hread
  split at hread
  · rename_i hfirst
    cases hread
    cases hvalue
    exact h text _ _ hfirst
  · cases hread
    cases hvalue
  · cases hread

theorem must (h : reader.Yields P) : (Reader.must reader).Yields P := by
  intro text value rest hread
  unfold Reader.must at hread
  split at hread
  · cases hread
  · exact h text value rest hread

theorem labelled (label : Label) (h : reader.Yields P) :
    (Reader.labelled label reader).Yields P := by
  intro text value rest hread
  unfold Reader.labelled at hread
  split at hread
  · rename_i hfirst
    cases hread
    exact h text _ _ hfirst
  · cases hread
  · cases hread

theorem manyWithin (h : reader.Yields P) (fuel : Nat) :
    (Reader.manyWithin reader fuel).Yields fun values => ∀ value ∈ values, P value := by
  induction fuel with
  | zero => exact pure (by simp)
  | succ fuel ih =>
    intro text values rest hread
    unfold Reader.manyWithin at hread
    split at hread
    · rename_i a behind hfirst
      split at hread
      · rename_i more behind' hmore
        cases hread
        exact List.forall_mem_cons.2 ⟨h text a behind hfirst, ih behind more _ hmore⟩
      · rename_i hnever
        exact absurd hread (hnever _ _)
    · cases hread
      simp
    · cases hread

theorem many (h : reader.Yields P) :
    (Reader.many reader).Yields fun values => ∀ value ∈ values, P value :=
  fun text => h.manyWithin text.length text

theorem separated (separator : Reader Unit) (h : reader.Yields P) :
    (Reader.separated separator reader).Yields fun values =>
      values ≠ [] ∧ ∀ value ∈ values, P value :=
  h.bind fun _ hfirst => (many (after fun _ => h)).bind fun _ hrest =>
    pure ⟨List.cons_ne_nil _ _, List.forall_mem_cons.2 ⟨hfirst, hrest⟩⟩

end Reader.Yields

/-! ## What readers leave -/

/-- A reader leaves an end of the text. -/
def Reader.Leaves {α : Type} (reader : Reader α) : Prop :=
  ∀ text value rest, reader text = .done value rest → rest <:+ text

namespace Reader.Leaves

variable {α β : Type} {reader other : Reader α}

theorem pure (value : α) : (Pure.pure value : Reader α).Leaves := by
  intro text found rest hread
  cases hread
  exact List.suffix_rfl

theorem bind {next : α → Reader β} (h : reader.Leaves) (hnext : ∀ a, (next a).Leaves) :
    (reader >>= next).Leaves := by
  intro text value rest hread
  change Reader.bind reader next text = _ at hread
  unfold Reader.bind at hread
  split at hread
  · rename_i a behind hfirst
    exact (hnext a behind value rest hread).trans (h text a behind hfirst)
  · cases hread
  · cases hread

theorem orElse (h : reader.Leaves) (hother : other.Leaves) : (reader <|> other).Leaves := by
  intro text value rest hread
  change Reader.orElse reader (fun _ => other) text = _ at hread
  unfold Reader.orElse at hread
  split at hread
  · exact hother text value rest hread
  · exact h text value rest hread

theorem optional (h : reader.Leaves) : (Reader.optional reader).Leaves := by
  intro text found rest hread
  unfold Reader.optional at hread
  split at hread
  · rename_i hfirst
    cases hread
    exact h text _ _ hfirst
  · cases hread
    exact List.suffix_rfl
  · cases hread

theorem charWith (test : Char → Bool) : (Reader.charWith test).Leaves := by
  intro text c rest hread
  unfold Reader.charWith at hread
  split at hread
  · cases hread
  · split at hread
    · cases hread
      exact List.suffix_cons _ _
    · cases hread

theorem char (c : Char) : (Reader.char c).Leaves := (charWith _).bind fun _ => pure ()

theorem digits (count : Nat) : (Reader.digits count).Leaves := by
  intro text value rest hread
  unfold Reader.digits at hread
  dsimp only at hread
  split at hread
  · cases hread
    exact List.drop_suffix count text
  · cases hread

end Reader.Leaves

/-! ## Digits and dates -/

theorem ofDigitChars_lt {digits : List Char} (h : ∀ c ∈ digits, c.isDigit = true) :
    Nat.ofDigitChars 10 digits 0 < 10 ^ digits.length := by
  induction digits with
  | nil => decide
  | cons c digits ih =>
    have hrest := ih fun d hd => h d (List.mem_cons_of_mem c hd)
    have hc : c.toNat - '0'.toNat ≤ 9 := by
      have hdigit := h c List.mem_cons_self
      simp only [Char.isDigit, Bool.and_eq_true, decide_eq_true_eq,
        UInt32.le_iff_toNat_le] at hdigit
      exact Nat.sub_le_iff_le_add.2 hdigit.2
    have hfirst := Nat.mul_le_mul_left (10 ^ digits.length) hc
    rw [Nat.ofDigitChars_cons, Nat.mul_zero, Nat.zero_add, Nat.ofDigitChars_eq_ofDigitChars_zero,
      List.length_cons, Nat.pow_succ]
    omega

theorem yields_digits (count : Nat) : (Reader.digits count).Yields (· < 10 ^ count) := by
  intro text value rest hread
  unfold Reader.digits at hread
  dsimp only at hread
  split at hread
  · rename_i hlength
    cases hread
    have hlt := ofDigitChars_lt (List.all_eq_true.1
      (List.all_takeWhile (p := Char.isDigit) (l := text.take count)))
    rwa [hlength] at hlt
  · cases hread

/-- The years of all dates have four digits. -/
def DateSpan.FourDigits : DateSpan → Prop
  | .compare _ date => date.year < 10000
  | .between first last => first.year < 10000 ∧ last.year < 10000

theorem yields_dateLiteral : dateLiteral.Yields (·.year < 10000) := by
  intro text value rest hread
  unfold dateLiteral at hread
  dsimp only at hread
  split at hread
  · rename_i month day year time behind hparts
    cases hread
    -- only the year matters among the parts
    have hyear : ∀ {month day : Nat} {separator : Char}, Reader.Yields (do
        let year ← Reader.digits 4
        return (month, day, year, ← Reader.optional (dayTime separator)))
        fun parts => parts.2.2.1 < 10000 := by
      intro month day separator
      exact (yields_digits 4).bind fun year hyear => .after fun time => .pure hyear
    exact Reader.Yields.after (fun _ => .after fun _ => .after fun _ => .after fun _ => hyear) _ _ _
      hparts
  · cases hread
  · cases hread

/-- The text of a date literal is what its reader took. -/
theorem text_of_dateLiteral {text rest : List Char} {date : DateLiteral}
    (h : dateLiteral text = .done date rest) : text = date.text.toList ++ rest := by
  unfold dateLiteral at h
  dsimp only at h
  split at h
  · rename_i month day year time behind hparts
    cases h
    have hleaves : Reader.Leaves (do
        let month ← Reader.digits 2
        let separator ← Reader.charWith fun c => c = '-' || c = '/' || c = '.'
        let day ← Reader.digits 2
        Reader.char separator
        let year ← Reader.digits 4
        return (month, day, year, ← Reader.optional (dayTime separator))) :=
      .bind (.digits 2) fun _ => .bind (.charWith _) fun c => .bind (.digits 2) fun _ =>
        .bind (.char c) fun _ => .bind (.digits 4) fun _ =>
          .bind (.optional (.bind (.orElse (.char ' ') (.char c)) fun _ =>
            .bind (.digits 2) fun _ => .bind (.digits 2) fun _ => .pure _)) fun _ => .pure _
    obtain ⟨taken, rfl⟩ := hleaves _ _ _ hparts
    simp
  · cases h
  · cases h

theorem yields_span : (comparedDate <|> dateInterval).Yields DateSpan.FourDigits :=
  .orElse
    (.after fun _ => .after fun _ =>
      (yields_dateLiteral.must.labelled .date).bind fun _ hdate => .pure hdate)
    (yields_dateLiteral.bind fun _ hfirst => .after fun _ => .after fun _ => .after fun _ =>
      (yields_dateLiteral.must.labelled .endDate).bind fun _ hlast => .pure ⟨hfirst, hlast⟩)

/-! ## Conditions -/

/-- The productions of the grammar for conditions keep a property. -/
structure ConditionTree.Closed (P : ConditionTree → Prop) : Prop where
  all : ∀ members, members ≠ [] → (∀ member ∈ members, P member) → P (.all members)
  any : ∀ members, members ≠ [] → (∀ member ∈ members, P member) → P (.any members)
  negation : ∀ inner, P inner → P (.negation inner)
  regex : ∀ place pattern options, P (.regex place pattern options)
  glob : ∀ place text options, P (.glob place text options)
  date : ∀ place (span : DateSpan) options, span.FourDigits → P (.date place span options)

section

variable {P : ConditionTree → Prop} {condition : Reader ConditionTree}

theorem yields_conditionList (h : condition.Yields P) :
    (conditionList condition).Yields fun members =>
      members ≠ [] ∧ ∀ member ∈ members, P member :=
  .after fun _ => .after fun _ => ((h.separated comma).must.labelled .conditionList).bind
    fun _ hmembers => .after fun _ => .pure hmembers

theorem yields_compound (hP : ConditionTree.Closed P) (h : condition.Yields P) :
    (compound condition).Yields P := by
  -- the keyword gives the reader of what stands behind it
  refine Reader.Yields.bind (P := fun make => make.Yields P)
    (.orElse (.after fun _ => .pure ?_) (.orElse (.after fun _ => .pure ?_)
      (.after fun _ => .pure ?_))) fun _ hmake => hmake
  · exact (yields_conditionList h).bind fun members hmembers =>
      .pure (hP.all members hmembers.1 hmembers.2)
  · exact (yields_conditionList h).bind fun members hmembers =>
      .pure (hP.any members hmembers.1 hmembers.2)
  · exact .after fun _ => .after fun _ => h.must.bind fun inner hinner => .after fun _ =>
      .pure (hP.negation inner hinner)

theorem yields_condition (hP : ConditionTree.Closed P) (depth : Nat) :
    (RuleText.condition depth).Yields P := by
  induction depth with
  | zero => exact fun _ _ _ hread => nomatch hread
  | succ depth ih =>
    refine .after fun _ => .after fun place => .labelled .condition ?_
    refine .orElse (yields_compound hP ih) (.orElse ?_ (.orElse ?_ ?_))
    · exact .after fun _ => .after fun _ => .after fun _ => .pure (hP.regex _ _ _)
    · exact yields_span.bind fun span hspan => .after fun _ => .pure (hP.date _ _ _ hspan)
    · exact .after fun _ => .after fun _ => .pure (hP.glob _ _ _)

end

/-! ## Rules -/

/-- The productions of the grammar for rules keep a property, with another one for conditions. -/
structure RuleTree.Closed (P : ConditionTree → Prop) (Q : RuleTree → Prop) : Prop
    extends ConditionTree.Closed P where
  default : ∀ condition, (∀ tree ∈ condition, P tree) → Q (.default condition)
  clips : ∀ condition clauses, (∀ tree ∈ condition, P tree) → Q (.clips condition clauses)
  list : ∀ condition rules, (∀ tree ∈ condition, P tree) → (∀ rule ∈ rules, Q rule) →
    Q (.list condition rules)

section

variable {P : ConditionTree → Prop} {Q : RuleTree → Prop} {rule : Reader RuleTree}

theorem yields_ruleSequence (h : rule.Yields Q) :
    (ruleSequence rule).Yields fun rules => rules ≠ [] ∧ ∀ tree ∈ rules, Q tree :=
  h.bind fun _ hfirst => (Reader.Yields.many (.after fun _ => h)).bind fun _ hrest =>
    .pure ⟨List.cons_ne_nil _ _, List.forall_mem_cons.2 ⟨hfirst, hrest⟩⟩

theorem yields_ruleList (h : rule.Yields Q) :
    (ruleList rule).Yields fun rules => ∀ tree ∈ rules, Q tree := by
  have hsequence : Reader.Yields (do
      return (← Reader.optional (ruleSequence rule)).getD [])
      fun rules => ∀ tree ∈ rules, Q tree := by
    refine (yields_ruleSequence h).optional.bind fun found hfound => .pure ?_
    cases found with
    | none => exact fun _ hmem => nomatch hmem
    | some rules => exact (hfound rules rfl).2
  exact .after fun _ => (hsequence.must.labelled .ruleList).bind fun _ hrules =>
    .after fun _ => .pure hrules

theorem yields_ruleBody (hQ : RuleTree.Closed P Q) (h : rule.Yields Q)
    {condition : Option ConditionTree} (hcondition : ∀ tree ∈ condition, P tree) :
    (ruleBody rule condition).Yields Q :=
  .after fun _ => .orElse (.after fun _ => .pure (hQ.default condition hcondition))
    (.orElse (.after fun clauses => .pure (hQ.clips condition clauses hcondition))
      ((yields_ruleList h).bind fun rules hrules =>
        .pure (hQ.list condition rules hcondition hrules)))

theorem yields_rule (hQ : RuleTree.Closed P Q) (depth : Nat) :
    (RuleText.rule depth).Yields Q := by
  induction depth with
  | zero => exact fun _ _ _ hread => nomatch hread
  | succ depth ih =>
    have hnone : ∀ tree ∈ (none : Option ConditionTree), P tree := nofun
    refine .after fun _ => (yields_ruleBody hQ ih hnone).optional.bind fun found hfound => ?_
    cases found with
    | some body => exact .pure (hfound body rfl)
    | none =>
      have hguard : Reader.Yields (fun text => condition (text.length + 1) text) P :=
        fun text => yields_condition hQ.toClosed (text.length + 1) text
      refine hguard.bind fun guard htree => .after fun _ => .labelled .rule (.must ?_)
      refine yields_ruleBody hQ ih ?_
      rintro _ ⟨⟩
      exact htree

/-- A text that is read has at least one rule, and what the productions of the grammar keep holds of
all its rules. -/
theorem yields_readRules (hQ : RuleTree.Closed P Q) :
    readRules.Yields fun trees => trees ≠ [] ∧ ∀ tree ∈ trees, Q tree := by
  intro text trees rest hread
  have hrules : Reader.Yields (do
      let rules ← Reader.labelled .rule (ruleSequence (RuleText.rule (text.length + 1)))
      space
      return rules) fun trees => trees ≠ [] ∧ ∀ tree ∈ trees, Q tree :=
    ((yields_ruleSequence (yields_rule hQ _)).labelled .rule).bind fun _ htrees =>
      .after fun _ => .pure htrees
  unfold readRules at hread
  dsimp only at hread
  split at hread
  · rename_i htrees
    cases hread
    exact hrules _ _ _ htrees
  · cases hread
  · exact hrules _ _ _ hread

end

end ClipSplice.RuleText
