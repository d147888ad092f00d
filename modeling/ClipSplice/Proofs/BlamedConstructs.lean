import ClipSplice.Proofs.FaultExcerpts
import ClipSplice.Proofs.MarkedTrees
import ClipSplice.Proofs.RuleRanges
import ClipSplice.Proofs.WrittenRules

/-!
# What a fault points at

A rule text that follows the grammar may still be refused, for an option, a condition or a clip list
in it. `Blames` says what is wrong with such a construct. The fault is reported at the first
character of a construct that it blames (`Rule.ofText_pointsAt`).
-/

namespace ClipSplice

theorem of_bind_eq_error {ε α β : Type} {found : Except ε α} {next : α → Except ε β} {e : ε}
    (h : (found >>= next) = .error e) :
    found = .error e ∨ ∃ a, found = .ok a ∧ next a = .error e := by
  cases found with
  | error e' =>
    cases h
    exact .inl rfl
  | ok a => exact .inr ⟨a, rfl, h⟩

theorem of_bind_pure_eq_error {ε α β : Type} {found : Except ε α} {make : α → β} {e : ε}
    (h : (do return make (← found)) = Except.error e) : found = .error e := by
  obtain herror | ⟨a, -, h⟩ := of_bind_eq_error h
  · exact herror
  · cases h

namespace RuleText

variable {source : String} {fault : Fault}

/-! ## What is wrong with a construct -/

/-- An option that says where a date is taken from. -/
def OptionTree.IsSource (option : OptionTree) : Prop :=
  (option.key = "F" ∨ option.key = "T") ∧ option.value = none

/-- The dates of a span. -/
def DateSpan.dates : DateSpan → List DateLiteral
  | .compare _ date => [date]
  | .between first last => [first, last]

/-- There is a reason to refuse a construct for a cause. -/
inductive Blames (source : String) : Construct → Cause → Prop where
  | illegalRegexOption {place : Nat} {pattern : String} {options earlier : List OptionTree}
    {option : OptionTree}
    (hflag : option.value = none → RegexFlags.ofLetter? option.key = none) :
    Blames source (.option (.regex place pattern options) earlier option)
      (.illegalRegexOption option.key)
  | illegalGlobOption {place : Nat} {name : String} {options earlier : List OptionTree}
    {option : OptionTree} (hcase : ¬(option.key = "I" ∧ option.value = none)) :
    Blames source (.option (.glob place name options) earlier option)
      (.illegalGlobOption option.key)
  | duplicateOption {place : Nat} {span : DateSpan} {options earlier : List OptionTree}
    {option other : OptionTree} (hother : other ∈ earlier) (hkey : other.key = option.key) :
    Blames source (.option (.date place span options) earlier option) (.duplicateOption option.key)
  | incompatibleOptions {place : Nat} {span : DateSpan} {options earlier : List OptionTree}
    {option other : OptionTree} (hother : other ∈ earlier) (hfirst : other.IsSource)
    (hsecond : option.IsSource) :
    Blames source (.option (.date place span options) earlier option)
      (.incompatibleOptions other.key option.key)
  | unsupportedDateOption {place : Nat} {span : DateSpan} {options earlier : List OptionTree}
    {option : OptionTree} (hsource : ¬option.IsSource)
    (htemplate : ¬(option.key = "fmt" ∧ option.value.isSome)) :
    Blames source (.option (.date place span options) earlier option)
      (.unsupportedDateOption option.key)
  | strayTemplate {place : Nat} {span : DateSpan} {options earlier : List OptionTree}
    {option : OptionTree} (htemplate : option.key = "fmt" ∧ option.value.isSome)
    (hname : ∀ other ∈ options, other.IsSource → other.key ≠ "F") :
    Blames source (.option (.date place span options) earlier option) .strayTemplate
  | invalidDate {place : Nat} {span : DateSpan} {options : List OptionTree} {date : DateLiteral}
    (hdate : date ∈ span.dates) (hinvalid : date.instant? = none) :
    Blames source (.condition (.date place span options)) (.invalidDate date.text)
  | invalidDateFormat {place : Nat} {span : DateSpan} {options : List OptionTree}
    {option : OptionTree} {template : String} (hoption : option ∈ options)
    (htemplate : option.key = "fmt" ∧ option.value = some template)
    (hinvalid : DatePattern.ofTemplate? template = none) :
    Blames source (.condition (.date place span options)) .invalidDateFormat
  | invalidRegex {place : Nat} {pattern : String} {options : List OptionTree} {flags : RegexFlags}
    (hflags : regexFlags source .none options = .ok flags)
    (hinvalid : AnchoredRegex.new? pattern flags = none) :
    Blames source (.condition (.regex place pattern options)) .invalidRegex
  | invalidGlob {place : Nat} {name : String} {options : List OptionTree} {caseSensitive : Bool}
    (hcase : globCase source true options = .ok caseSensitive)
    (hinvalid : Glob.new? name caseSensitive = none) :
    Blames source (.condition (.glob place name options)) .invalidGlob
  | duplicateClause {earlier : List ClauseTree} {clause other : ClauseTree}
    (hother : other ∈ earlier) (hside : other.side = clause.side) :
    Blames source (.clause earlier clause) (.duplicateClause clause.side.name)

/-- A fault is at a mark and blames a construct. -/
def BlamedAt (source : String) (place : Nat) (construct : Construct) (fault : Fault) : Prop :=
  ∃ cause, Blames source construct cause ∧ fault = faultAt source place cause

/-- A fault is at the mark of one of some constructs, which it blames. -/
def Blamed (source : String) (located : List Located) (fault : Fault) : Prop :=
  ∃ l ∈ located, ∃ place, l.construct.place? = some place ∧
    BlamedAt source place l.construct fault

namespace Blamed

variable {located more : List Located}

theorem head {construct : Construct} {place : Nat} {after : List Char}
    (hplace : construct.place? = some place) (hblamed : BlamedAt source place construct fault) :
    Blamed source (⟨construct, after⟩ :: located) fault :=
  ⟨_, List.mem_cons_self, place, hplace, hblamed⟩

theorem mono (h : Blamed source located fault) (hsubset : located ⊆ more) :
    Blamed source more fault := by
  obtain ⟨l, hl, hblamed⟩ := h
  exact ⟨l, hsubset hl, hblamed⟩

theorem tail {first : Located} (h : Blamed source located fault) :
    Blamed source (first :: located) fault := h.mono (List.subset_cons_self _ _)

theorem left (h : Blamed source located fault) : Blamed source (located ++ more) fault :=
  h.mono (List.subset_append_left _ _)

theorem right (h : Blamed source more fault) : Blamed source (located ++ more) fault :=
  h.mono (List.subset_append_right _ _)

end Blamed

theorem of_orFault_eq_error {α : Type} {place : Nat} {cause : Cause} {found : Option α}
    (h : orFault source place cause found = .error fault) :
    found = none ∧ fault = faultAt source place cause := by
  cases found with
  | some value => cases h
  | none =>
    cases h
    exact ⟨rfl, rfl⟩

/-! ## Options -/

/-- A fault is at the mark of one of some options, which it blames; some options stand before. -/
inductive OptionBlamed (source : String) (owner : ConditionTree) :
    (earlier options : List OptionTree) → Fault → Prop where
  | here {earlier rest : List OptionTree} {option : OptionTree} {fault : Fault}
    (hblamed : BlamedAt source option.place (.option owner earlier option) fault) :
    OptionBlamed source owner earlier (option :: rest) fault
  | later {earlier rest : List OptionTree} {option : OptionTree} {fault : Fault}
    (hrest : OptionBlamed source owner (earlier ++ [option]) rest fault) :
    OptionBlamed source owner earlier (option :: rest) fault

/-- An option may be to blame whatever stands before it. -/
theorem OptionBlamed.of_mem {owner : ConditionTree} {option : OptionTree}
    (hblamed : ∀ earlier, BlamedAt source option.place (.option owner earlier option) fault)
    {earlier options : List OptionTree} (hoption : option ∈ options) :
    OptionBlamed source owner earlier options fault := by
  induction options generalizing earlier with
  | nil => cases hoption
  | cons first rest ih =>
    obtain rfl | hrest := List.mem_cons.1 hoption
    · exact .here (hblamed earlier)
    · exact .later (ih hrest)

theorem OptionsAt.blamed {owner : ConditionTree} {earlier options : List OptionTree}
    {text rest : List Char} {located : List Located}
    (h : OptionsAt owner earlier options text rest located)
    (hblamed : OptionBlamed source owner earlier options fault) : Blamed source located fault := by
  induction h with
  | last _ =>
    cases hblamed with
    | here hoption => exact .head rfl hoption
    | later hrest => cases hrest
  | cons _ _ _ ih =>
    cases hblamed with
    | here hoption => exact .head rfl hoption
    | later hrest => exact (ih hrest).tail

theorem MaybeOptionsAt.blamed {owner : ConditionTree} {options : List OptionTree}
    {text rest : List Char} {located : List Located}
    (h : MaybeOptionsAt owner options text rest located)
    (hblamed : OptionBlamed source owner [] options fault) : Blamed source located fault := by
  cases h with
  | none => cases hblamed
  | some _ hoptions _ => exact hoptions.blamed hblamed

section

variable {place : Nat} {all earlier options : List OptionTree}

theorem optionBlamed_of_regexFlags {pattern : String} {flags : RegexFlags}
    (h : regexFlags source flags options = .error fault) :
    OptionBlamed source (.regex place pattern all) earlier options fault := by
  induction options generalizing flags earlier with
  | nil => cases h
  | cons option rest ih =>
    rw [regexFlags] at h
    split at h
    · exact .later (ih h)
    · rename_i hillegal
      cases h
      refine .here ⟨_, .illegalRegexOption fun hvalue => ?_, rfl⟩
      exact Option.eq_none_iff_forall_ne_some.2 fun flag => hillegal flag hvalue

theorem optionBlamed_of_globCase {name : String} {caseSensitive : Bool}
    (h : globCase source caseSensitive options = .error fault) :
    OptionBlamed source (.glob place name all) earlier options fault := by
  induction options generalizing caseSensitive earlier with
  | nil => cases h
  | cons option rest ih =>
    rw [globCase] at h
    split at h
    · exact .later (ih h)
    · rename_i hillegal
      cases h
      exact .here ⟨_, .illegalGlobOption hillegal, rfl⟩

variable {span : DateSpan}

theorem optionBlamed_of_checkDuplicates {seen : List String}
    (hseen : ∀ key ∈ seen, ∃ other ∈ earlier, other.key = key)
    (h : checkDuplicates source seen options = .error fault) :
    OptionBlamed source (.date place span all) earlier options fault := by
  induction options generalizing seen earlier with
  | nil => cases h
  | cons option rest ih =>
    rw [checkDuplicates] at h
    split at h
    · rename_i hmem
      cases h
      obtain ⟨other, hother, hkey⟩ := hseen _ (List.contains_iff_mem.1 hmem)
      exact .here ⟨_, .duplicateOption hother hkey, rfl⟩
    · refine .later (ih (List.forall_mem_cons.2 ⟨⟨option, by simp, rfl⟩, ?_⟩) h)
      intro key hkey
      obtain ⟨other, hother, hsame⟩ := hseen key hkey
      exact ⟨other, List.mem_append_left _ hother, hsame⟩

/-- What was found in the options of a date so far. -/
structure DateOptions.Collects (found : DateOptions) (earlier : List OptionTree) : Prop where
  source : ∀ other ∈ earlier, other.IsSource → found.source = some other.key
  ofSource : ∀ key, found.source = some key → ∃ other ∈ earlier, other.IsSource ∧ other.key = key
  ofTemplate : ∀ place template, found.template = some (place, template) →
    ∃ other ∈ earlier, other.key = "fmt" ∧ other.value = some template ∧ other.place = place

namespace DateOptions.Collects

variable {found : DateOptions} {option : OptionTree}

theorem empty : Collects {} [] where
  source := fun _ hother => nomatch hother
  ofSource := fun _ hkey => nomatch hkey
  ofTemplate := fun _ _ htemplate => nomatch htemplate

theorem addSource (h : found.Collects earlier) (hnone : found.source = none)
    (hsource : option.IsSource) :
    Collects { found with source := some option.key } (earlier ++ [option]) where
  source other hother hother' := by
    obtain hearlier | hlast := List.mem_append.1 hother
    · cases hnone.symm.trans (h.source other hearlier hother')
    · rw [List.mem_singleton.1 hlast]
  ofSource key hkey := by
    cases hkey
    exact ⟨option, List.mem_append_right _ (List.mem_singleton_self _), hsource, rfl⟩
  ofTemplate place template htemplate := by
    obtain ⟨other, hother, hsame⟩ := h.ofTemplate place template htemplate
    exact ⟨other, List.mem_append_left _ hother, hsame⟩

theorem addTemplate {template : String} (h : found.Collects earlier) (hsource : ¬option.IsSource)
    (hkey : option.key = "fmt") (hvalue : option.value = some template) :
    Collects { found with template := some (option.place, template) } (earlier ++ [option]) where
  source other hother hother' := by
    obtain hearlier | hlast := List.mem_append.1 hother
    · exact h.source other hearlier hother'
    · rw [List.mem_singleton.1 hlast] at hother'
      exact absurd hother' hsource
  ofSource key hkey := by
    obtain ⟨other, hother, hsame⟩ := h.ofSource key hkey
    exact ⟨other, List.mem_append_left _ hother, hsame⟩
  ofTemplate place template' htemplate := by
    cases htemplate
    exact ⟨option, List.mem_append_right _ (List.mem_singleton_self _), hkey, hvalue, rfl⟩

end DateOptions.Collects

theorem collects_of_dateOptions {found result : DateOptions} (hfound : found.Collects earlier)
    (h : dateOptions source found options = .ok result) : result.Collects (earlier ++ options) := by
  induction options generalizing found earlier with
  | nil =>
    cases h
    rwa [List.append_nil]
  | cons option rest ih =>
    rw [dateOptions] at h
    rw [List.append_cons]
    split at h
    · split at h
      · cases h
      · exact ih (hfound.addSource ‹_› ‹_›) h
    · split at h
      · exact ih (hfound.addTemplate ‹_› ‹_› ‹_›) h
      · cases h

theorem optionBlamed_of_dateOptions {found : DateOptions} (hfound : found.Collects earlier)
    (h : dateOptions source found options = .error fault) :
    OptionBlamed source (.date place span all) earlier options fault := by
  induction options generalizing found earlier with
  | nil => cases h
  | cons option rest ih =>
    rw [dateOptions] at h
    split at h
    · rename_i hsource
      split at h
      · rename_i first hfirst
        cases h
        obtain ⟨other, hother, hsource', rfl⟩ := hfound.ofSource first hfirst
        exact .here ⟨_, .incompatibleOptions hother hsource' hsource, rfl⟩
      · exact .later (ih (hfound.addSource ‹_› hsource) h)
    · rename_i hsource
      split at h
      · exact .later (ih (hfound.addTemplate hsource ‹_› ‹_›) h)
      · rename_i hother
        cases h
        refine .here ⟨_, .unsupportedDateOption hsource fun htemplate => ?_, rfl⟩
        obtain ⟨template, hvalue⟩ := Option.isSome_iff_exists.1 htemplate.2
        exact hother template htemplate.1 hvalue

/-- The options of a date are refused for one of them, or for the format that they give. -/
theorem blamed_of_datePattern (h : datePattern source place options = .error fault) :
    OptionBlamed source (.date place span options) [] options fault ∨
      BlamedAt source place (.condition (.date place span options)) fault := by
  obtain hduplicate | ⟨⟨⟩, -, h⟩ := of_bind_eq_error h
  · exact .inl (optionBlamed_of_checkDuplicates (List.forall_mem_nil _) hduplicate)
  obtain hoptions | ⟨found, hfound, h⟩ := of_bind_eq_error h
  · exact .inl (optionBlamed_of_dateOptions .empty hoptions)
  have hcollects := collects_of_dateOptions .empty hfound
  -- the template of a name, the standard one, a template without a name, none at all
  split at h
  · rename_i templatePlace template _ htemplate
    obtain ⟨hinvalid, hfault⟩ := of_orFault_eq_error (of_bind_pure_eq_error h)
    obtain ⟨option, hoption, hkey, hvalue, -⟩ := hcollects.ofTemplate _ _ htemplate
    exact .inr ⟨_, .invalidDateFormat hoption ⟨hkey, hvalue⟩ hinvalid, hfault⟩
  · -- the standard pattern is one
    obtain ⟨hinvalid, -⟩ := of_orFault_eq_error (of_bind_pure_eq_error h)
    have hstandard := DatePattern.isSome_standard?
    rw [hinvalid] at hstandard
    cases hstandard
  · rename_i templatePlace template htemplate hname
    cases h
    obtain ⟨option, hoption, hkey, hvalue, rfl⟩ := hcollects.ofTemplate _ _ htemplate
    have hunread : ∀ other ∈ options, other.IsSource → other.key ≠ "F" :=
      fun other hother hsource hF => hname (hF ▸ hcollects.source other hother hsource)
    have hsome : option.value.isSome = true := Option.isSome_of_eq_some hvalue
    exact .inl (.of_mem (fun _ => ⟨_, .strayTemplate ⟨hkey, hsome⟩ hunread, rfl⟩) hoption)
  · cases h

end

/-! ## Conditions -/

theorem blamedAt_of_dateOf {place : Nat} {span : DateSpan} {options : List OptionTree}
    {date : DateLiteral} (hdate : date ∈ span.dates) (h : dateOf source place date = .error fault) :
    BlamedAt source place (.condition (.date place span options)) fault := by
  obtain ⟨hinvalid, hfault⟩ := of_orFault_eq_error h
  exact ⟨_, .invalidDate hdate hinvalid, hfault⟩

/-- A span of time is refused for a date that the calendar does not have: every comparison with one
that it has gives a range. -/
theorem blamedAt_of_rangeOf {place : Nat} {span : DateSpan} {options : List OptionTree}
    (hspan : span.FourDigits) (h : rangeOf source place span = .error fault) :
    BlamedAt source place (.condition (.date place span options)) fault := by
  cases span with
  | between first last =>
    obtain hfirst | ⟨start, -, h⟩ := of_bind_eq_error h
    · exact blamedAt_of_dateOf List.mem_cons_self hfirst
    · exact blamedAt_of_dateOf (List.mem_cons_of_mem _ (List.mem_singleton_self _))
        (of_bind_pure_eq_error h)
  | compare comparison date =>
    obtain hdate | ⟨t, ht, h⟩ := of_bind_eq_error h
    · exact blamedAt_of_dateOf (List.mem_singleton_self _) hdate
    · -- the calendar has the date, so that the comparison cannot fail
      have hbounds := (isLiteral_of_instant? hspan (eq_of_orFault ht)).isSome_bounds? comparison
      have hnone := Option.map_eq_none_iff.1 (of_orFault_eq_error h).1
      rw [hnone] at hbounds
      cases hbounds

-- Trees and their places are taken apart together. A fault of a part stays one of the whole, since
-- the constructs of a part are some of those of the whole.
mutual

theorem ConditionAt.blamed {tree : ConditionTree} {text rest : List Char} {located : List Located} :
    ConditionAt tree text rest located → conditionOf source tree = .error fault →
      Blamed source located fault
  | .all _ _ hmembers _, h | .any _ _ hmembers _, h => by
    rw [conditionOf] at h
    exact hmembers.blamed (of_bind_pure_eq_error h)
  | .negation _ _ htree _, h => by
    rw [conditionOf] at h
    exact htree.blamed (of_bind_pure_eq_error h)
  | .regex _ _ hoptions, h => by
    rw [conditionOf] at h
    obtain hflags | ⟨flags, hflags, h⟩ := of_bind_eq_error h
    · exact (hoptions.blamed (optionBlamed_of_regexFlags hflags)).tail
    · obtain ⟨hinvalid, hfault⟩ := of_orFault_eq_error (of_bind_pure_eq_error h)
      exact .head rfl ⟨_, .invalidRegex hflags hinvalid, hfault⟩
  | .glob _ hoptions, h => by
    rw [conditionOf] at h
    obtain hcase | ⟨caseSensitive, hcase, h⟩ := of_bind_eq_error h
    · exact (hoptions.blamed (optionBlamed_of_globCase hcase)).tail
    · obtain ⟨hinvalid, hfault⟩ := of_orFault_eq_error (of_bind_pure_eq_error h)
      exact .head rfl ⟨_, .invalidGlob hcase hinvalid, hfault⟩
  | .date hspan hoptions, h => by
    rw [conditionOf] at h
    obtain hrange | ⟨range, -, h⟩ := of_bind_eq_error h
    · exact .head rfl (blamedAt_of_rangeOf (yields_span _ _ _ hspan) hrange)
    obtain hpattern | ⟨pattern, -, h⟩ := of_bind_eq_error h
    · obtain hoption | hcondition := blamed_of_datePattern hpattern
      · exact (hoptions.blamed hoption).tail
      · exact .head rfl hcondition
    · cases pattern <;> cases h

theorem ConditionsAt.blamed {trees : List ConditionTree} {text rest : List Char}
    {located : List Located} :
    ConditionsAt trees text rest located → conditionsOf source trees = .error fault →
      Blamed source located fault
  | .last htree, h => by
    rw [conditionsOf] at h
    obtain hfirst | ⟨condition, -, h⟩ := of_bind_eq_error h
    · exact htree.blamed hfirst
    · cases h
  | .cons htree _ htrees, h => by
    rw [conditionsOf] at h
    obtain hfirst | ⟨condition, -, h⟩ := of_bind_eq_error h
    · exact (htree.blamed hfirst).left
    · exact (htrees.blamed (of_bind_pure_eq_error h)).right

end

/-! ## Rules -/

theorem clipsOf_singleton_ne_error {clause : ClauseTree} :
    clipsOf source none none [clause] ≠ .error fault := by
  obtain ⟨_ | _, clips, place⟩ := clause <;> exact nofun

/-- Two clip lists are refused when they are on the same side, at the second one. -/
theorem of_clipsOf_pair {first second : ClauseTree}
    (h : clipsOf source none none [first, second] = .error fault) :
    first.side = second.side ∧
      fault = faultAt source second.place (.duplicateClause second.side.name) := by
  obtain ⟨_ | _, clips, place⟩ := first <;> obtain ⟨_ | _, clips', place'⟩ := second <;>
    cases h <;> exact ⟨rfl, rfl⟩

theorem ClausesAt.blamed {clauses : List ClauseTree} {text rest : List Char}
    {located : List Located} (h : ClausesAt clauses text rest located)
    (hclips : clipsOf source none none clauses = .error fault) : Blamed source located fault := by
  cases h with
  | one _ => exact absurd hclips clipsOf_singleton_ne_error
  | two _ _ _ =>
    obtain ⟨hside, hfault⟩ := of_clipsOf_pair hclips
    exact .tail (.head rfl ⟨_, .duplicateClause (List.mem_singleton_self _) hside, hfault⟩)

mutual

theorem RuleAt.blamed {rule : RuleTree} {text rest : List Char} {located : List Located} :
    RuleAt rule text rest located → ruleOf source rule = .error fault →
      Blamed source located fault
  | .plain hbody, h => by
    obtain hguard | hblamed := hbody.blamed h
    · cases hguard
    · exact hblamed
  | .guarded hguard _ hbody, h => by
    obtain hcondition | hblamed := hbody.blamed h
    · exact (hguard.blamed (of_bind_pure_eq_error hcondition)).left
    · exact hblamed.right

/-- A rule is refused for its condition, or for what stands behind. -/
theorem BodyAt.blamed {guard : Option ConditionTree} {rule : RuleTree} {text rest : List Char}
    {located : List Located} :
    BodyAt guard rule text rest located → ruleOf source rule = .error fault →
      guardOf source guard = .error fault ∨ Blamed source located fault
  | .default _, h => by
    rw [ruleOf] at h
    obtain hguard | ⟨condition, -, h⟩ := of_bind_eq_error h
    · exact .inl hguard
    · cases condition <;> cases h
  | .clips hclauses, h => by
    rw [ruleOf] at h
    obtain hguard | ⟨condition, -, h⟩ := of_bind_eq_error h
    · exact .inl hguard
    · exact .inr (hclauses.blamed (of_bind_pure_eq_error h))
  | .empty _ _, h => by
    rw [ruleOf] at h
    obtain hguard | ⟨condition, -, h⟩ := of_bind_eq_error h
    · exact .inl hguard
    · cases h
  | .list _ hrules _, h => by
    rw [ruleOf] at h
    obtain hguard | ⟨condition, -, h⟩ := of_bind_eq_error h
    · exact .inl hguard
    · exact .inr (hrules.blamed (of_bind_pure_eq_error h))

theorem RulesAt.blamed {rules : List RuleTree} {text rest : List Char} {located : List Located} :
    RulesAt rules text rest located → rulesOf source rules = .error fault →
      Blamed source located fault
  | .last hrule, h => by
    rw [rulesOf] at h
    obtain hfirst | ⟨rule, -, h⟩ := of_bind_eq_error h
    · exact hrule.blamed hfirst
    · cases h
  | .cons hrule _ hrules, h => by
    rw [rulesOf] at h
    obtain hfirst | ⟨rule, -, h⟩ := of_bind_eq_error h
    · exact (hrule.blamed hfirst).left
    · exact (hrules.blamed (of_bind_pure_eq_error h)).right

end

/-! ## Texts -/

/-- A fault of a source is at the first character of a construct that it blames. -/
structure Fault.PointsAt (source : String) (fault : Fault) (l : Located) : Prop where
  blames : Blames source l.construct fault.cause
  starts : startsWord l.after = true
  place : ∃ before, source.toList = before ++ l.after ∧
    fault = .atOffset source (Text.byteSize before) fault.cause ∧
    fault.line = before.count '\n' + 1

theorem Fault.pointsAt_faultAt {l : Located} {cause : Cause}
    (hblames : Blames source l.construct cause) (hstands : l.StandsIn source.toList) :
    (faultAt source (Text.byteSize l.after) cause).PointsAt source l := by
  obtain ⟨before, hsplit⟩ := hstands.suffix
  have hfault : faultAt source (Text.byteSize l.after) cause =
      .atOffset source (Text.byteSize before) cause := by
    rw [faultAt, ← hsplit, Text.byteSize_append, Nat.add_sub_cancel]
  refine ⟨hblames, hstands.starts, before, hsplit.symm, hfault, ?_⟩
  rw [hfault, Fault.atOffset, ← hsplit, Text.splitAtByte_byteSize]

theorem rulesOf_eq_error {trees : List RuleTree} {rest : List Char}
    (hread : readRules source.toList = .done trees rest)
    (h : Rule.ofText source = .error fault) : rulesOf source trees = .error fault := by
  unfold Rule.ofText at h
  rw [hread] at h
  exact of_bind_pure_eq_error h

/-- A text that is refused, but not for its syntax, follows the grammar. -/
theorem exists_trees_of_ofText (h : Rule.ofText source = .error fault)
    (hcause : ∀ labels, fault.cause ≠ .expected labels) :
    ∃ trees rest, readRules source.toList = .done trees rest := by
  unfold Rule.ofText at h
  split at h
  · exact ⟨_, _, ‹_›⟩
  · cases h
    exact absurd rfl (hcause _)
  · cases h
    exact absurd rfl (hcause _)

end RuleText

open RuleText in
/-- A fault at a byte offset is on the line of the last boundary that is not behind the offset, and
shows a piece of that line, or says that there is none. A text that follows the grammar and is
refused has its fault at the first character of a construct that the fault blames. Where the
constructs of a text stand is no choice. -/
theorem Rule.ofText_pointsAt (source : String) :
    (∀ offset cause, ∃ before after line, source.toList = before ++ after ∧
      IsGreatest {n | Text.IsBoundary source.toList n ∧ n ≤ offset} (Text.byteSize before) ∧
      (Fault.atOffset source offset cause).line = before.count '\n' + 1 ∧
      Text.IsLine source.toList (Fault.atOffset source offset cause).line line ∧
      Fault.IsExcerptOf (Fault.atOffset source offset cause).excerpt.toList line) ∧
    ∀ trees rest fault, readRules source.toList = .done trees rest →
      Rule.ofText source = .error fault →
      ∃ located, TextAt trees source.toList located ∧
        (∀ other, TextAt trees source.toList other → other = located) ∧
        ∃ l ∈ located, fault.PointsAt source l := by
  refine ⟨Fault.atOffset_isOnLine source, fun trees rest fault hread hfault => ?_⟩
  obtain ⟨located, htext, hmarked⟩ := textAt_of_readRules hread
  refine ⟨located, htext, fun other hother => hother.unique htext, ?_⟩
  obtain ⟨behind, hrules, -⟩ := htext
  obtain ⟨l, hl, place, hplace, cause, hblames, rfl⟩ :=
    hrules.blamed (rulesOf_eq_error hread hfault)
  obtain rfl := Option.some.inj (hplace.symm.trans (hmarked l hl))
  exact ⟨l, hl, Fault.pointsAt_faultAt hblames (hrules.within.stands l hl)⟩

open RuleText in
/-- An option on a line of its own, two conditions deep, behind comments and letters that take more
than a byte. -/
theorem Rule.ofText_pointsAt_option :
    let source := "# é\n\nand(*.mp3, # ü\n  not(regex:ß\n    [I,\n     Q])): default"
    ∃ trees rest fault, readRules source.toList = .done trees rest ∧
      Rule.ofText source = .error fault ∧ fault.cause = .illegalRegexOption "Q" ∧
      fault.line = 6 ∧
      ∃ located, TextAt trees source.toList located ∧
        (∀ other, TextAt trees source.toList other → other = located) ∧
        ∃ l ∈ located, fault.PointsAt source l := by
  intro source
  have hrun : (match Rule.ofText source with
      | .error fault => some fault
      | .ok _ => none) = some ⟨6, "Q])): default", .illegalRegexOption "Q"⟩ := by decide +kernel
  cases hfault : Rule.ofText source with
  | ok r =>
    rw [hfault] at hrun
    cases hrun
  | error fault =>
    rw [hfault] at hrun
    obtain rfl := Option.some.inj hrun
    obtain ⟨trees, rest, hread⟩ := exists_trees_of_ofText hfault fun _ => Cause.noConfusion
    exact ⟨trees, rest, _, hread, rfl, rfl, rfl,
      (Rule.ofText_pointsAt source).2 trees rest _ hread hfault⟩

end ClipSplice
