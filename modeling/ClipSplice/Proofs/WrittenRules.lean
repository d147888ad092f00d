import ClipSplice.Proofs.CalendarSteps
import ClipSplice.Proofs.FaultPlace
import ClipSplice.Proofs.ReadTrees
import ClipSplice.Proofs.RuleRanges

/-!
# Rules that are written in texts

A rule that was read from a text is a list of at least one rule, every list of conditions in it has
a member, and every time range has the bounds that its dates write (`Rule.wellShaped_of_ofText`).
Dates have four-digit years, so the microsecond before one and the one after it are in the calendar,
and no bound runs into the end of the calendar (`Rule.ofText_wellShaped`).
-/

namespace ClipSplice

/-! ## Shapes -/

/-- Every list of conditions in a condition has a member, and the time ranges have a property. -/
inductive Condition.WellShaped (P : TimeRange → Prop) : Condition → Prop
  | regex (r : AnchoredRegex) : WellShaped P (.regex r)
  | glob (g : Glob) : WellShaped P (.glob g)
  | all {members : List Condition} (hne : members ≠ [])
      (hmembers : ∀ member ∈ members, WellShaped P member) : WellShaped P (.all members)
  | any {members : List Condition} (hne : members ≠ [])
      (hmembers : ∀ member ∈ members, WellShaped P member) : WellShaped P (.any members)
  | negation {inner : Condition} (hinner : WellShaped P inner) : WellShaped P (.negation inner)
  | during {range : TimeRange} (hrange : P range) : WellShaped P (.during range)

/-- The conditions in a rule are well shaped. -/
inductive Rule.WellShaped (P : TimeRange → Prop) : Rule → Prop
  | default : WellShaped P .default
  | clips {condition : Option Condition} (pre post : List String)
      (hcondition : ∀ c ∈ condition, c.WellShaped P) : WellShaped P (.clips condition pre post)
  | list {condition : Option Condition} {rules : List Rule}
      (hcondition : ∀ c ∈ condition, c.WellShaped P)
      (hrules : ∀ rule ∈ rules, WellShaped P rule) : WellShaped P (.list condition rules)

section

variable {P Q : TimeRange → Prop}

theorem Condition.WellShaped.mono (himp : ∀ range, P range → Q range) {condition : Condition}
    (h : condition.WellShaped P) : condition.WellShaped Q := by
  induction h with
  | regex r => exact .regex r
  | glob g => exact .glob g
  | all hne _ ih => exact .all hne ih
  | any hne _ ih => exact .any hne ih
  | negation _ ih => exact .negation ih
  | during hrange => exact .during (himp _ hrange)

theorem Rule.WellShaped.mono (himp : ∀ range, P range → Q range) {rule : Rule}
    (h : rule.WellShaped P) : rule.WellShaped Q := by
  induction h with
  | default => exact .default
  | clips pre post hcondition => exact .clips pre post fun c hc => (hcondition c hc).mono himp
  | list hcondition _ ih => exact .list (fun c hc => (hcondition c hc).mono himp) ih

theorem Condition.rangesOf_eq_flatMap (conditions : List Condition) :
    Condition.rangesOf conditions = conditions.flatMap Condition.ranges := by
  induction conditions with
  | nil => rw [rangesOf, List.flatMap_nil]
  | cons condition rest ih => rw [rangesOf, List.flatMap_cons, ih]

theorem Rule.rangesOf_eq_flatMap (rules : List Rule) :
    Rule.rangesOf rules = rules.flatMap Rule.ranges := by
  induction rules with
  | nil => rw [rangesOf, List.flatMap_nil]
  | cons rule rest ih => rw [rangesOf, List.flatMap_cons, ih]

theorem Condition.WellShaped.ranges {condition : Condition} (h : condition.WellShaped P) :
    ∀ range ∈ condition.ranges, P range := by
  induction h with
  | regex r => simp [Condition.ranges]
  | glob g => simp [Condition.ranges]
  | all _ _ ih =>
    rw [Condition.ranges, Condition.rangesOf_eq_flatMap, List.forall_mem_flatMap]
    exact ih
  | any _ _ ih =>
    rw [Condition.ranges, Condition.rangesOf_eq_flatMap, List.forall_mem_flatMap]
    exact ih
  | negation _ ih =>
    rw [Condition.ranges]
    exact ih
  | during hrange => simpa [Condition.ranges] using hrange

theorem Rule.ranges_of_guard {condition : Option Condition}
    (h : ∀ c ∈ condition, c.WellShaped P) : ∀ range ∈ Rule.guardRanges condition, P range := by
  cases condition with
  | none => exact fun _ hrange => nomatch hrange
  | some condition => exact (h condition rfl).ranges

/-- All time ranges in a well-shaped rule have the property. -/
theorem Rule.WellShaped.ranges {rule : Rule} (h : rule.WellShaped P) :
    ∀ range ∈ rule.ranges, P range := by
  induction h with
  | default => simp [Rule.ranges]
  | clips pre post hcondition =>
    rw [Rule.ranges]
    exact Rule.ranges_of_guard hcondition
  | list hcondition _ ih =>
    rw [Rule.ranges, List.forall_mem_append, Rule.rangesOf_eq_flatMap, List.forall_mem_flatMap]
    exact ⟨Rule.ranges_of_guard hcondition, ih⟩

end

/-! ## Bounds -/

/-- An instant on a whole minute of a four-digit year, as a date literal names it. -/
structure Instant.IsLiteral (t : Instant) : Prop where
  year_nonneg : 0 ≤ t.date.year
  year_lt : t.date.year < 10000
  second_mod : t.second % 60 = 0
  nano_eq : t.nano = 0

/-- The bounds are those of a comparison with a written date, or two written dates. -/
def TimeRange.IsWritten (range : TimeRange) : Prop :=
  (∃ comparison t, t.IsLiteral ∧
    Comparison.bounds? comparison t = some (range.start, range.finish)) ∨
  range.start.IsLiteral ∧ range.finish.IsLiteral

/-- An end of the calendar, or a whole microsecond between the ends. -/
def Instant.IsBound (t : Instant) : Prop :=
  t = .first ∨ t = .last ∨ nanosPerMicrosecond ∣ t.nano ∧ Before .first t ∧ Before t .last

theorem Instant.isBound_of_year {t : Instant} (hdvd : nanosPerMicrosecond ∣ t.nano)
    (hfirst : firstYear < t.date.year) (hlast : t.date.year < lastYear) : t.IsBound :=
  .inr (.inr ⟨hdvd, .inl (.inl hfirst), .inl (.inl hlast)⟩)

theorem Instant.IsLiteral.isBound_of_nano {t s : Instant} (ht : t.IsLiteral)
    (hdvd : nanosPerMicrosecond ∣ s.nano)
    (hyear : t.date.year - 1 ≤ s.date.year ∧ s.date.year ≤ t.date.year + 1) : s.IsBound := by
  have hnonneg := ht.year_nonneg
  have hlt := ht.year_lt
  exact isBound_of_year hdvd (by simp only [firstYear]; omega) (by simp only [lastYear]; omega)

/-- Every comparison with a written date has bounds: the calendar goes on beside it. -/
theorem Instant.IsLiteral.isSome_bounds? {t : Instant} (ht : t.IsLiteral)
    (comparison : Comparison) : (comparison.bounds? t).isSome = true := by
  have hfirst : firstYear < t.date.year := Int.lt_of_lt_of_le (by decide) ht.year_nonneg
  have hlast : t.date.year < lastYear := Int.lt_trans ht.year_lt (by decide)
  cases comparison with
  | equal => rfl
  | lessOrEqual => rfl
  | greaterOrEqual => rfl
  | less =>
    rw [Comparison.bounds?, Option.isSome_map]
    exact previousMicrosecond?_isSome hfirst
  | greater =>
    rw [Comparison.bounds?, Option.isSome_map]
    exact nextMicrosecond?_isSome hlast

/-- What the bounds of a comparison can be. -/
theorem Comparison.bounds?_cases {comparison : Comparison} {t start finish : Instant}
    (h : comparison.bounds? t = some (start, finish)) :
    (start = .first ∨ start = t ∨ start = .midnight t.date ∨ t.nextMicrosecond? = some start) ∧
      (finish = .last ∨ finish = t ∨ finish = .lastSecond t.date ∨
        t.previousMicrosecond? = some finish) := by
  cases comparison with
  | equal =>
    cases h
    exact ⟨.inr (.inr (.inl rfl)), .inr (.inr (.inl rfl))⟩
  | lessOrEqual =>
    cases h
    exact ⟨.inl rfl, .inr (.inl rfl)⟩
  | greaterOrEqual =>
    cases h
    exact ⟨.inr (.inl rfl), .inl rfl⟩
  | less =>
    obtain ⟨s, hs, h⟩ := Option.map_eq_some_iff.1 h
    cases h
    exact ⟨.inl rfl, .inr (.inr (.inr hs))⟩
  | greater =>
    obtain ⟨s, hs, h⟩ := Option.map_eq_some_iff.1 h
    cases h
    exact ⟨.inr (.inr (.inr hs)), .inl rfl⟩

theorem Instant.IsLiteral.isBound_bounds? {t start finish : Instant} (ht : t.IsLiteral)
    {comparison : Comparison} (h : comparison.bounds? t = some (start, finish)) :
    start.IsBound ∧ finish.IsBound := by
  have hdvd : nanosPerMicrosecond ∣ t.nano := ht.nano_eq ▸ Nat.dvd_zero _
  have hself : t.IsBound := ht.isBound_of_nano hdvd (by omega)
  obtain ⟨hstart, hfinish⟩ := Comparison.bounds?_cases h
  constructor
  · rcases hstart with hfirst | heq | hday | hnext
    · exact .inl hfirst
    · exact heq ▸ hself
    · exact hday ▸ ht.isBound_of_nano (Nat.dvd_zero _) (by simp only [midnight]; omega)
    · obtain ⟨hwhole, hyear⟩ := of_nextMicrosecond? hdvd hnext
      exact ht.isBound_of_nano hwhole (by omega)
  · rcases hfinish with hlast | heq | hday | hprevious
    · exact .inr (.inl hlast)
    · exact heq ▸ hself
    · exact hday ▸ ht.isBound_of_nano (Nat.dvd_zero _) (by simp only [lastSecond]; omega)
    · obtain ⟨hwhole, hyear⟩ := of_previousMicrosecond? hdvd hprevious
      exact ht.isBound_of_nano hwhole (by omega)

theorem TimeRange.IsWritten.isBound {range : TimeRange} (h : range.IsWritten) :
    range.start.IsBound ∧ range.finish.IsBound := by
  rcases h with ⟨comparison, t, ht, hbounds⟩ | ⟨hstart, hfinish⟩
  · exact ht.isBound_bounds? hbounds
  · exact ⟨hstart.isBound_of_nano (hstart.nano_eq ▸ Nat.dvd_zero _) (by omega),
      hfinish.isBound_of_nano (hfinish.nano_eq ▸ Nat.dvd_zero _) (by omega)⟩

/-! ## What trees stand for -/

namespace RuleText

variable {source : String}

theorem isLiteral_of_instant? {date : DateLiteral} {t : Instant} (hyear : date.year < 10000)
    (h : date.instant? = some t) : t.IsLiteral := by
  unfold DateLiteral.instant? at h
  dsimp only at h
  obtain ⟨day, hday, htime⟩ := Option.bind_eq_some_iff.1 h
  obtain ⟨hyear', -⟩ := Date.ofYmd?_eq_some_iff.1 hday
  obtain ⟨hdate, hnano, hsecond, -⟩ := Instant.eq_of_ofTime? htime
  rw [← hdate] at hyear'
  exact ⟨by omega, by omega, by omega, hnano⟩

theorem isWritten_of_rangeOf {place : Nat} {span : DateSpan} {range : TimeRange}
    (hspan : span.FourDigits) (h : rangeOf source place span = .ok range) : range.IsWritten := by
  cases span with
  | compare comparison date =>
    obtain ⟨t, ht, h⟩ := exists_of_bind_eq_ok h
    obtain ⟨⟨start, finish⟩, hbounds, hrange⟩ := Option.map_eq_some_iff.1 (eq_of_orFault h)
    cases hrange
    exact .inl ⟨comparison, t, isLiteral_of_instant? hspan (eq_of_orFault ht), hbounds⟩
  | between first last =>
    obtain ⟨start, hstart, h⟩ := exists_of_bind_eq_ok h
    obtain ⟨finish, hfinish, h⟩ := exists_of_bind_eq_ok h
    cases h
    exact .inr ⟨isLiteral_of_instant? hspan.1 (eq_of_orFault hstart),
      isLiteral_of_instant? hspan.2 (eq_of_orFault hfinish)⟩

theorem conditionsOf_eq_mapM (trees : List ConditionTree) :
    conditionsOf source trees = trees.mapM (conditionOf source) := by
  induction trees with
  | nil => rfl
  | cons tree rest ih => rw [conditionsOf, ih, List.mapM_cons]

theorem rulesOf_eq_mapM (trees : List RuleTree) :
    rulesOf source trees = trees.mapM (ruleOf source) := by
  induction trees with
  | nil => rfl
  | cons tree rest ih => rw [rulesOf, ih, List.mapM_cons]

/-- As many results as there were elements, and each of them comes from one. -/
theorem exists_of_mapM_eq_ok {ε α β : Type} {f : α → Except ε β} {elements : List α}
    {results : List β} (h : elements.mapM f = .ok results) :
    results.length = elements.length ∧
      ∀ result ∈ results, ∃ element ∈ elements, f element = .ok result := by
  induction elements generalizing results with
  | nil =>
    cases h
    exact ⟨rfl, fun _ hresult => nomatch hresult⟩
  | cons element rest ih =>
    rw [List.mapM_cons] at h
    obtain ⟨result, hresult, h⟩ := exists_of_bind_eq_ok h
    obtain ⟨more, hmore, h⟩ := exists_of_bind_eq_ok h
    cases h
    obtain ⟨hlength, hcome⟩ := ih hmore
    refine ⟨congrArg (· + 1) hlength, List.forall_mem_cons.2 ⟨?_, fun found hfound => ?_⟩⟩
    · exact ⟨element, List.mem_cons_self, hresult⟩
    · obtain ⟨origin, horigin, heq⟩ := hcome found hfound
      exact ⟨origin, List.mem_cons_of_mem _ horigin, heq⟩

/-- What a tree of conditions stands for is well shaped. -/
def ConditionTree.StandsWell (source : String) (tree : ConditionTree) : Prop :=
  ∀ condition, conditionOf source tree = .ok condition → condition.WellShaped TimeRange.IsWritten

/-- What a tree of rules stands for is well shaped. -/
def RuleTree.StandsWell (source : String) (tree : RuleTree) : Prop :=
  ∀ rule, ruleOf source tree = .ok rule → rule.WellShaped TimeRange.IsWritten

theorem wellShaped_of_conditionsOf {trees : List ConditionTree} {conditions : List Condition}
    (hne : trees ≠ []) (htrees : ∀ tree ∈ trees, tree.StandsWell source)
    (h : conditionsOf source trees = .ok conditions) :
    conditions ≠ [] ∧ ∀ condition ∈ conditions, condition.WellShaped TimeRange.IsWritten := by
  rw [conditionsOf_eq_mapM] at h
  obtain ⟨hlength, hcome⟩ := exists_of_mapM_eq_ok h
  refine ⟨?_, fun condition hcondition => ?_⟩
  · rwa [← List.length_pos_iff, hlength, List.length_pos_iff]
  · obtain ⟨tree, htree, heq⟩ := hcome condition hcondition
    exact htrees tree htree condition heq

theorem wellShaped_of_rulesOf {trees : List RuleTree} {rules : List Rule}
    (htrees : ∀ tree ∈ trees, tree.StandsWell source) (h : rulesOf source trees = .ok rules) :
    ∀ rule ∈ rules, rule.WellShaped TimeRange.IsWritten := by
  rw [rulesOf_eq_mapM] at h
  intro rule hrule
  obtain ⟨tree, htree, heq⟩ := (exists_of_mapM_eq_ok h).2 rule hrule
  exact htrees tree htree rule heq

theorem wellShaped_of_guardOf {tree : Option ConditionTree} {condition : Option Condition}
    (htree : ∀ t ∈ tree, t.StandsWell source) (h : guardOf source tree = .ok condition) :
    ∀ c ∈ condition, c.WellShaped TimeRange.IsWritten := by
  cases tree with
  | none =>
    cases h
    exact fun _ hc => nomatch hc
  | some tree =>
    obtain ⟨condition, hcondition, h⟩ := exists_of_bind_eq_ok h
    cases h
    rintro _ ⟨⟩
    exact htree tree rfl condition hcondition

/-- The productions of the grammar for conditions keep what they stand for well shaped. -/
theorem closed_conditionTree (source : String) :
    ConditionTree.Closed (ConditionTree.StandsWell source) where
  all members hne hmembers condition h := by
    rw [conditionOf] at h
    obtain ⟨conditions, hconditions, h⟩ := exists_of_bind_eq_ok h
    cases h
    obtain ⟨hne', hall⟩ := wellShaped_of_conditionsOf hne hmembers hconditions
    exact .all hne' hall
  any members hne hmembers condition h := by
    rw [conditionOf] at h
    obtain ⟨conditions, hconditions, h⟩ := exists_of_bind_eq_ok h
    cases h
    obtain ⟨hne', hall⟩ := wellShaped_of_conditionsOf hne hmembers hconditions
    exact .any hne' hall
  negation inner hinner condition h := by
    rw [conditionOf] at h
    obtain ⟨found, hfound, h⟩ := exists_of_bind_eq_ok h
    cases h
    exact .negation (hinner found hfound)
  regex place pattern options condition h := by
    rw [conditionOf] at h
    obtain ⟨flags, -, h⟩ := exists_of_bind_eq_ok h
    obtain ⟨regex, -, h⟩ := exists_of_bind_eq_ok h
    cases h
    exact .regex regex
  glob place text options condition h := by
    rw [conditionOf] at h
    obtain ⟨caseSensitive, -, h⟩ := exists_of_bind_eq_ok h
    obtain ⟨glob, -, h⟩ := exists_of_bind_eq_ok h
    cases h
    exact .glob glob
  date place span options hspan condition h := by
    rw [conditionOf] at h
    obtain ⟨range, hrange, h⟩ := exists_of_bind_eq_ok h
    obtain ⟨pattern, -, h⟩ := exists_of_bind_eq_ok h
    have hwritten := isWritten_of_rangeOf hspan hrange
    -- where the tested instant comes from does not matter for the bounds
    cases pattern with
    | none =>
      cases h
      exact .during hwritten
    | some pattern =>
      cases h
      exact Condition.WellShaped.during hwritten

/-- The productions of the grammar for rules keep what they stand for well shaped. -/
theorem closed_ruleTree (source : String) :
    RuleTree.Closed (ConditionTree.StandsWell source) (RuleTree.StandsWell source) where
  toClosed := closed_conditionTree source
  default condition hcondition rule h := by
    rw [ruleOf] at h
    obtain ⟨guard, hguard, h⟩ := exists_of_bind_eq_ok h
    have hshaped := wellShaped_of_guardOf hcondition hguard
    cases guard with
    | none =>
      cases h
      exact .default
    | some guard =>
      cases h
      exact .clips [] [] hshaped
  clips condition clauses hcondition rule h := by
    rw [ruleOf] at h
    obtain ⟨guard, hguard, h⟩ := exists_of_bind_eq_ok h
    obtain ⟨⟨pre, post⟩, -, h⟩ := exists_of_bind_eq_ok h
    cases h
    exact .clips pre post (wellShaped_of_guardOf hcondition hguard)
  list condition rules hcondition hrules rule h := by
    rw [ruleOf] at h
    obtain ⟨guard, hguard, h⟩ := exists_of_bind_eq_ok h
    obtain ⟨found, hfound, h⟩ := exists_of_bind_eq_ok h
    cases h
    exact .list (wellShaped_of_guardOf hcondition hguard) (wellShaped_of_rulesOf hrules hfound)

end RuleText

/-! ## Texts -/

open RuleText in
/-- A rule that was read from a text is a list of well-shaped rules, with the bounds that are
written. -/
theorem Rule.wellShaped_of_ofText {text : String} {r : Rule} (h : Rule.ofText text = .ok r) :
    ∃ rules, r = .list none rules ∧ rules ≠ [] ∧
      ∀ rule ∈ rules, rule.WellShaped TimeRange.IsWritten := by
  unfold Rule.ofText at h
  split at h
  · rename_i trees rest hread
    obtain ⟨rules, hrules, h⟩ := exists_of_bind_eq_ok h
    cases h
    obtain ⟨hne, htrees⟩ := yields_readRules (closed_ruleTree text) _ _ _ hread
    refine ⟨rules, rfl, ?_, wellShaped_of_rulesOf htrees hrules⟩
    rw [rulesOf_eq_mapM] at hrules
    rwa [← List.length_pos_iff, (exists_of_mapM_eq_ok hrules).1, List.length_pos_iff]
  · cases h
  · cases h

open RuleText in
/-- Reading a rule text ends with a fault or with a rule. Nothing on the way is undefined: date
literals are slices of the text, comparisons with them stay in the calendar, and faults are put
together from slices of the source. The rule is an unconditional list of at least one rule; every
list of conditions in it has a member, and every bound is an end of the calendar or a whole
microsecond between the ends. -/
theorem Rule.ofText_wellShaped (source : String) :
    (∀ text date rest, dateLiteral text = .done date rest →
      Text.slice? 0 (Text.byteSize text - Text.byteSize rest) text = some date.text.toList ∧
        ∀ t, date.instant? = some t →
          ∀ comparison, (Comparison.bounds? comparison t).isSome = true) ∧
    (∀ offset cause,
      Fault.fromSlices? source offset cause = some (.atOffset source offset cause)) ∧
    ((∃ fault, Rule.ofText source = .error fault) ∨
      ∃ rules, Rule.ofText source = .ok (.list none rules) ∧ rules ≠ [] ∧
        ∀ rule ∈ rules, rule.WellShaped fun range =>
          range.start.IsBound ∧ range.finish.IsBound) := by
  refine ⟨fun text date rest hread => ⟨?_, fun t ht => ?_⟩, Fault.fromSlices?_eq source, ?_⟩
  · have htext := text_of_dateLiteral hread
    have hsize : Text.byteSize text = Text.byteSize date.text.toList + Text.byteSize rest := by
      rw [← Text.byteSize_append, ← htext]
    refine Text.slice?_eq_some_iff.2 ⟨[], rest, htext, rfl, ?_⟩
    rw [List.nil_append]
    omega
  · exact (isLiteral_of_instant? (yields_dateLiteral _ _ _ hread) ht).isSome_bounds?
  · cases hrule : Rule.ofText source with
    | error fault => exact .inl ⟨fault, rfl⟩
    | ok r =>
      obtain ⟨rules, rfl, hne, hrules⟩ := Rule.wellShaped_of_ofText hrule
      exact .inr ⟨rules, rfl, hne, fun rule hrule =>
        (hrules rule hrule).mono fun _ => TimeRange.IsWritten.isBound⟩

open RuleText in
/-- The first and the last date that can be written, compared with the instants before and after
them. -/
theorem Rule.ofText_wellShaped_yearZero :
    let text := "or(< 01-01-0000, not(> 12/31/9999 2359 [F])): [é: default]"
    (∃ date t, dateLiteral "01-01-0000, é".toList = .done date ", é".toList ∧
      date.instant? = some t ∧ (Comparison.bounds? .less t).isSome = true) ∧
    Fault.fromSlices? "é\né" 4 .invalidGlob = some (.atOffset "é\né" 4 .invalidGlob) ∧
    ∃ rules, Rule.ofText text = .ok (.list none rules) ∧ rules ≠ [] ∧
      ∀ rule ∈ rules, rule.WellShaped fun range =>
        range.start.IsBound ∧ range.finish.IsBound := by
  intro text
  have hread : dateLiteral "01-01-0000, é".toList =
      .done ⟨1, 1, 0, none, "01-01-0000"⟩ ", é".toList := by rfl
  have hok : (Rule.ofText text).isOk = true := by decide +kernel
  refine ⟨⟨_, .midnight ⟨0, 1, 1, by decide⟩, hread, by decide, ?_⟩,
    (ofText_wellShaped "é\né").2.1 4 .invalidGlob, ?_⟩
  · exact ((ofText_wellShaped text).1 _ _ _ hread).2 _ (by decide) .less
  · rcases (ofText_wellShaped text).2.2 with ⟨fault, hfault⟩ | hrules
    · rw [hfault] at hok
      cases hok
    · exact hrules

end ClipSplice
