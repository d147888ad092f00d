import ClipSplice.Proofs.ConditionReading
import ClipSplice.Proofs.DocumentReading

/-!
# The normal form of rule documents

Writing a rule that was read from a document gives a document that reads and writes as itself
(`Rule.ofJson_toJson_normal`). The rule that is read again need not be the same: a document may say
that a range starts with the end of the calendar, and an instant is written to the microsecond only,
so that the end of the calendar comes back a little earlier. What is written for it stays the same.
-/

namespace ClipSplice

open Document

/-! ## Instants in a document -/

namespace Instant

/-- An instant without what is shorter than a microsecond. -/
def toMicrosecond (t : Instant) : Instant :=
  { t with
    nano := t.nano / nanosPerMicrosecond * nanosPerMicrosecond
    nano_lt := Nat.lt_of_le_of_lt (Nat.div_mul_le_self ..) t.nano_lt }

/-- An instant falls on a whole microsecond. -/
def IsWhole (t : Instant) : Prop := t.toMicrosecond = t

theorem leapEndsMinute_first : first.LeapEndsMinute := by unfold LeapEndsMinute; decide

theorem leapEndsMinute_last : last.LeapEndsMinute := by unfold LeapEndsMinute; decide

theorem LeapEndsMinute.toMicrosecond {t : Instant} (h : t.LeapEndsMinute) :
    t.toMicrosecond.LeapEndsMinute := fun hleap =>
  h (Nat.le_trans hleap (Nat.div_mul_le_self ..))

end Instant

namespace Document.DateFields

/-- A written instant names itself up to the microsecond. -/
theorem instant?_ofInstant {t : Instant} (h : t.LeapEndsMinute) :
    (ofInstant t).instant? = some t.toMicrosecond := by
  rw [instant?, ofInstant, Date.ofYmd?_self, Option.bind_some]
  exact Instant.ofTime?_self h.toMicrosecond

/-- The instant that a date states falls on a whole microsecond. -/
theorem instant?_whole {d : DateFields} {t : Instant} (h : d.instant? = some t) :
    t.IsWhole ∧ t.LeapEndsMinute := by
  obtain ⟨day, -, htime⟩ := Option.bind_eq_some_iff.1 h
  obtain ⟨-, hnano, -, hleap⟩ := Instant.eq_of_ofTime? htime
  refine ⟨?_, hleap⟩
  obtain ⟨date, second, nano, second_lt, nano_lt⟩ := t
  obtain rfl : nano = _ := hnano
  simp only [Instant.IsWhole, Instant.toMicrosecond, Instant.mk.injEq, true_and]
  rw [Nat.mul_div_cancel _ (by decide)]

theorem storable_ofInstant (t : Instant) : (ofInstant t).Storable := by
  have hyear := t.date.inCalendar
  have hmonth := t.date.month_bounds
  have hday := t.date.day_bounds
  have hsecond := t.second_lt
  have hnano := t.nano_lt
  have hyears : firstYear = -262143 ∧ lastYear = 262142 := ⟨rfl, rfl⟩
  simp only [isDate, Bool.and_eq_true, decide_eq_true_eq] at hyear
  simp only [secondsPerDay, nanosPerSecond] at hsecond hnano
  constructor <;>
    simp only [ofInstant, Instant.hour, Instant.minute, Instant.secondOfMinute,
      nanosPerMicrosecond] <;> omega

end Document.DateFields

/-! ## Bounds -/

theorem widened_eq (t : Instant) : widened t = .first ∨ widened t = .last ∨ widened t = t := by
  unfold widened
  split
  · exact .inl rfl
  · split
    · exact .inr (.inl rfl)
    · exact .inr (.inr rfl)

/-- A bound that a document may state: an end of the calendar, or a whole microsecond that does
not stand for one. -/
def IsStatedBound (t : Instant) : Prop := t = .first ∨ t = .last ∨ t.IsWhole ∧ widened t = t

theorem isStatedBound_widened {t : Instant} (h : t.IsWhole) : IsStatedBound (widened t) := by
  obtain hfirst | hlast | hsame := widened_eq t
  · exact .inl hfirst
  · exact .inr (.inl hlast)
  · exact .inr (.inr ⟨by rwa [hsame], by rw [hsame, hsame]⟩)

theorem leapEndsMinute_widened {t : Instant} (h : t.LeapEndsMinute) :
    (widened t).LeapEndsMinute := by
  obtain hfirst | hlast | hsame := widened_eq t
  · rw [hfirst]
    exact Instant.leapEndsMinute_first
  · rw [hlast]
    exact Instant.leapEndsMinute_last
  · rwa [hsame]

/-- A bound that was read is open because it was left out, or it was stated. -/
theorem stated_of_boundOf {e t : Instant} {bound : Option DateFields}
    (h : boundOf e bound = .ok t) :
    bound = none ∧ t = e ∨ bound.isSome ∧ t.LeapEndsMinute ∧ IsStatedBound t := by
  cases bound with
  | none =>
    cases h
    exact .inl ⟨rfl, rfl⟩
  | some date =>
    unfold boundOf at h
    cases hinstant : date.instant? with
    | none => simp [hinstant] at h
    | some s =>
      simp only [hinstant] at h
      obtain rfl : widened s = t := Except.ok.inj h
      obtain ⟨hwhole, hleap⟩ := DateFields.instant?_whole hinstant
      exact .inr ⟨rfl, leapEndsMinute_widened hleap, isStatedBound_widened hwhole⟩

/-- A bound as it comes back from its document. -/
theorem boundOf_boundDocument {e t : Instant} (hne : t ≠ e) (hleap : t.LeapEndsMinute) :
    boundOf e (boundDocument t e) = .ok (widened t.toMicrosecond) := by
  rw [boundDocument, if_neg hne, boundOf, DateFields.instant?_ofInstant hleap]

/-- What is written for a bound that was read is read and written as itself. Only the end of the
calendar at the start of a range comes back as another instant, the last whole microsecond. -/
theorem exists_boundOf_boundDocument {e t : Instant} {bound : Option DateFields}
    (he : e = .first ∨ e = .last) (h : boundOf e bound = .ok t) :
    ∃ t', boundOf e (boundDocument t e) = .ok t' ∧ boundDocument t' e = boundDocument t e := by
  by_cases hne : t = e
  · subst hne
    refine ⟨t, ?_, rfl⟩
    rw [boundDocument, if_pos rfl, boundOf]
  · obtain ⟨-, hsame⟩ | ⟨-, hleap, hstated⟩ := stated_of_boundOf h
    · exact absurd hsame hne
    · refine ⟨_, boundOf_boundDocument hne hleap, ?_⟩
      obtain rfl | rfl | ⟨hwhole, hwidened⟩ := hstated
      · rfl
      · -- the end of the calendar at the start of a range
        obtain rfl : e = .first := he.resolve_right (Ne.symm hne)
        decide
      · rw [hwhole, hwidened]

theorem boundHeight_boundDocument_le {e t : Instant} {bound : Option DateFields}
    (h : boundOf e bound = .ok t) :
    ConditionDocument.boundHeight (boundDocument t e) ≤ ConditionDocument.boundHeight bound := by
  obtain ⟨rfl, rfl⟩ | ⟨hsome, -⟩ := stated_of_boundOf h
  · rw [boundDocument, if_pos rfl]
  · cases bound with
    | none => cases hsome
    | some date => unfold boundDocument; split <;> simp [ConditionDocument.boundHeight]

theorem boundStorable_boundDocument (t e : Instant) :
    ConditionDocument.BoundStorable (boundDocument t e) := by
  rintro date hdate
  unfold boundDocument at hdate
  split at hdate
  · cases hdate
  · cases hdate
    exact DateFields.storable_ofInstant t

/-! ## Conditions -/

/-- A pattern for dates is what its two texts write. -/
theorem datePattern_new?_self (pattern : DatePattern) :
    DatePattern.new? pattern.pattern pattern.format = some pattern := by
  unfold DatePattern.new?
  split
  case h_1 compiled hcompiled =>
    have hsame := Option.some.inj (hcompiled.symm.trans pattern.regex_eq)
    subst hsame
    rfl
  case h_2 hnone => exact absurd (hnone.symm.trans pattern.regex_eq) nofun

theorem RegexFlags.bits_lt (flags : RegexFlags) : flags.bits < 2 ^ 32 := by
  obtain ⟨ignoreCase, locale, unicode⟩ := flags
  cases ignoreCase <;> cases locale <;> cases unicode <;> decide

theorem toCondition_regex (regex : AnchoredRegex) :
    (Condition.toDocument (.regex regex)).toCondition = .ok (.regex regex) := by
  simp only [Condition.toDocument, ConditionDocument.toCondition, RegexFlags.ofBits?_bits,
    RuleText.anchoredRegex_new?_self]
  rfl

theorem toCondition_glob (glob : Glob) :
    (Condition.toDocument (.glob glob)).toCondition = .ok (.glob glob) := by
  simp only [Condition.toDocument, ConditionDocument.toCondition, RuleText.glob_new?_self]
  rfl

/-- A range comes back with the bounds that its documents say. -/
theorem toCondition_during {range : TimeRange} {start finish : Instant}
    (hstart : boundOf .first (boundDocument range.start .first) = .ok start)
    (hfinish : boundOf .last (boundDocument range.finish .last) = .ok finish) :
    (Condition.toDocument (.during range)).toCondition =
      .ok (.during { range with start, finish }) := by
  obtain ⟨_, _, source⟩ := range
  cases source with
  | now =>
    simp only at hstart hfinish
    simp only [Condition.toDocument, ConditionDocument.toCondition, hstart, hfinish]
    rfl
  | embedded pattern =>
    simp only at hstart hfinish
    simp only [Condition.toDocument, ConditionDocument.toCondition, datePattern_new?_self,
      hstart, hfinish]
    rfl

theorem toDocument_during {range other : TimeRange} (hsource : other.source = range.source)
    (hstart : boundDocument other.start .first = boundDocument range.start .first)
    (hfinish : boundDocument other.finish .last = boundDocument range.finish .last) :
    Condition.toDocument (.during other) = Condition.toDocument (.during range) := by
  simp only [Condition.toDocument, hsource, hstart, hfinish]

/-- A document is in normal form: the condition that it states is written as it is. -/
def ConditionDocument.IsNormal (d : ConditionDocument) : Prop :=
  ∃ c, d.toCondition = .ok c ∧ c.toDocument = d

/-- Some documents are in normal form. -/
def ConditionDocument.AllNormal (ds : List ConditionDocument) : Prop :=
  ∃ cs, ConditionDocument.toConditions ds = .ok cs ∧ Condition.toDocuments cs = ds

theorem ConditionDocument.AllNormal.all {ds : List ConditionDocument} (h : AllNormal ds) :
    IsNormal (.all ds) := by
  obtain ⟨cs, hread, hsame⟩ := h
  refine ⟨.all cs, ?_, by rw [Condition.toDocument, hsame]⟩
  rw [toCondition, hread]
  rfl

theorem ConditionDocument.AllNormal.any {ds : List ConditionDocument} (h : AllNormal ds) :
    IsNormal (.any ds) := by
  obtain ⟨cs, hread, hsame⟩ := h
  refine ⟨.any cs, ?_, by rw [Condition.toDocument, hsame]⟩
  rw [toCondition, hread]
  rfl

theorem ConditionDocument.IsNormal.negation {d : ConditionDocument} (h : d.IsNormal) :
    IsNormal (.negation d) := by
  obtain ⟨c, hread, hsame⟩ := h
  refine ⟨.negation c, ?_, by rw [Condition.toDocument, hsame]⟩
  rw [toCondition, hread]
  rfl

theorem ConditionDocument.IsNormal.cons {d : ConditionDocument} {ds : List ConditionDocument}
    (h : d.IsNormal) (hrest : AllNormal ds) : AllNormal (d :: ds) := by
  obtain ⟨c, hread, hsame⟩ := h
  obtain ⟨cs, hreads, hsames⟩ := hrest
  refine ⟨c :: cs, ?_, by rw [Condition.toDocuments, hsame, hsames]⟩
  rw [toConditions, hread, hreads]
  rfl

/-- What is written for a range that two bounds state is in normal form, and no higher than they
are. -/
theorem isNormal_during {start finish : Option DateFields} {range : TimeRange}
    (hstart : boundOf .first start = .ok range.start)
    (hfinish : boundOf .last finish = .ok range.finish) :
    (Condition.toDocument (.during range)).height ≤
        max (ConditionDocument.boundHeight start) (ConditionDocument.boundHeight finish) + 2 ∧
      (Condition.toDocument (.during range)).IsNormal := by
  constructor
  · have hfirst := boundHeight_boundDocument_le hstart
    have hlast := boundHeight_boundDocument_le hfinish
    obtain ⟨_, _, source⟩ := range
    cases source <;> rw [Condition.toDocument, ConditionDocument.height] <;> omega
  · obtain ⟨first, hfirst, hsame⟩ := exists_boundOf_boundDocument (.inl rfl) hstart
    obtain ⟨last, hlast, hsame'⟩ := exists_boundOf_boundDocument (.inr rfl) hfinish
    exact ⟨_, toCondition_during hfirst hlast, toDocument_during rfl hsame hsame'⟩

/-- The range that was read from a document. -/
theorem range_of_toCondition {d : ConditionDocument} {start finish : Option DateFields}
    {c : Condition} (hd : d = .currentTime start finish ∨
      ∃ pattern format, d = .nameTime start finish pattern format)
    (h : d.toCondition = .ok c) :
    ∃ range : TimeRange, c = .during range ∧ boundOf .first start = .ok range.start ∧
      boundOf .last finish = .ok range.finish := by
  obtain rfl | ⟨pattern, format, rfl⟩ := hd
  · rw [ConditionDocument.toCondition] at h
    obtain ⟨first, hfirst, h⟩ := exists_of_bind_eq_ok h
    obtain ⟨last, hlast, h⟩ := exists_of_bind_eq_ok h
    cases h
    exact ⟨_, rfl, hfirst, hlast⟩
  · rw [ConditionDocument.toCondition] at h
    obtain ⟨_, -, h⟩ := exists_of_bind_eq_ok h
    obtain ⟨first, hfirst, h⟩ := exists_of_bind_eq_ok h
    obtain ⟨last, hlast, h⟩ := exists_of_bind_eq_ok h
    cases h
    exact ⟨_, rfl, hfirst, hlast⟩

mutual

/-- What is written for a condition that was read is in normal form, and no higher than what it was
read from. -/
theorem isNormal_of_toCondition {d : ConditionDocument} {c : Condition}
    (h : d.toCondition = .ok c) : c.toDocument.height ≤ d.height ∧ c.toDocument.IsNormal := by
  cases d with
  | all members =>
    rw [ConditionDocument.toCondition] at h
    obtain ⟨conditions, hconditions, h⟩ := exists_of_bind_eq_ok h
    cases h
    obtain ⟨hheight, hnormal⟩ := allNormal_of_toConditions hconditions
    rw [Condition.toDocument, ConditionDocument.height, ConditionDocument.height]
    exact ⟨Nat.add_le_add_right hheight 3, hnormal.all⟩
  | any members =>
    rw [ConditionDocument.toCondition] at h
    obtain ⟨conditions, hconditions, h⟩ := exists_of_bind_eq_ok h
    cases h
    obtain ⟨hheight, hnormal⟩ := allNormal_of_toConditions hconditions
    rw [Condition.toDocument, ConditionDocument.height, ConditionDocument.height]
    exact ⟨Nat.add_le_add_right hheight 3, hnormal.any⟩
  | negation inner =>
    rw [ConditionDocument.toCondition] at h
    obtain ⟨condition, hcondition, h⟩ := exists_of_bind_eq_ok h
    cases h
    obtain ⟨hheight, hnormal⟩ := isNormal_of_toCondition hcondition
    rw [Condition.toDocument, ConditionDocument.height, ConditionDocument.height]
    exact ⟨Nat.add_le_add_right hheight 2, hnormal.negation⟩
  | regex pattern flags =>
    rw [ConditionDocument.toCondition] at h
    split at h
    · cases h
    · obtain ⟨regex, -, h⟩ := exists_of_bind_eq_ok h
      cases h
      refine ⟨?_, _, toCondition_regex regex, rfl⟩
      rw [Condition.toDocument, ConditionDocument.height, ConditionDocument.height]
  | glob text caseSensitive =>
    rw [ConditionDocument.toCondition] at h
    obtain ⟨glob, -, h⟩ := exists_of_bind_eq_ok h
    cases h
    refine ⟨?_, _, toCondition_glob glob, rfl⟩
    rw [Condition.toDocument, ConditionDocument.height, ConditionDocument.height]
  | currentTime start finish =>
    obtain ⟨range, rfl, hstart, hfinish⟩ := range_of_toCondition (.inl rfl) h
    rw [ConditionDocument.height]
    exact isNormal_during hstart hfinish
  | nameTime start finish pattern format =>
    obtain ⟨range, rfl, hstart, hfinish⟩ := range_of_toCondition (.inr ⟨_, _, rfl⟩) h
    rw [ConditionDocument.height]
    exact isNormal_during hstart hfinish

theorem allNormal_of_toConditions {ds : List ConditionDocument} {cs : List Condition}
    (h : ConditionDocument.toConditions ds = .ok cs) :
    ConditionDocument.heights (Condition.toDocuments cs) ≤ ConditionDocument.heights ds ∧
      ConditionDocument.AllNormal (Condition.toDocuments cs) := by
  cases ds with
  | nil =>
    cases h
    exact ⟨Nat.le_refl _, [], rfl, rfl⟩
  | cons d rest =>
    rw [ConditionDocument.toConditions] at h
    obtain ⟨c, hc, h⟩ := exists_of_bind_eq_ok h
    obtain ⟨cs, hcs, h⟩ := exists_of_bind_eq_ok h
    cases h
    obtain ⟨hheight, hnormal⟩ := isNormal_of_toCondition hc
    obtain ⟨hheights, hnormals⟩ := allNormal_of_toConditions hcs
    rw [Condition.toDocuments, ConditionDocument.heights, ConditionDocument.heights]
    exact ⟨by omega, hnormal.cons hnormals⟩

end

mutual

theorem storable_toDocument (c : Condition) : c.toDocument.Storable := by
  cases c with
  | regex regex =>
    rw [Condition.toDocument, ConditionDocument.Storable]
    exact regex.flags.bits_lt
  | glob glob => rw [Condition.toDocument, ConditionDocument.Storable]; trivial
  | all members =>
    rw [Condition.toDocument, ConditionDocument.Storable]
    exact allStorable_toDocuments members
  | any members =>
    rw [Condition.toDocument, ConditionDocument.Storable]
    exact allStorable_toDocuments members
  | negation inner =>
    rw [Condition.toDocument, ConditionDocument.Storable]
    exact storable_toDocument inner
  | during range =>
    obtain ⟨start, finish, source⟩ := range
    cases source <;> rw [Condition.toDocument, ConditionDocument.Storable] <;>
      exact ⟨boundStorable_boundDocument _ _, boundStorable_boundDocument _ _⟩

theorem allStorable_toDocuments (cs : List Condition) :
    ConditionDocument.AllStorable (Condition.toDocuments cs) := by
  cases cs with
  | nil => rw [Condition.toDocuments, ConditionDocument.AllStorable]; trivial
  | cons c rest =>
    rw [Condition.toDocuments, ConditionDocument.AllStorable]
    exact ⟨storable_toDocument c, allStorable_toDocuments rest⟩

end

/-! ## Rules -/

/-- A document is in normal form: the rule that it states is written as it is. -/
def RuleDocument.IsNormal (d : RuleDocument) : Prop :=
  ∃ r, d.toRule = .ok r ∧ r.toDocument = d

/-- Some documents are in normal form. -/
def RuleDocument.AllNormal (ds : List RuleDocument) : Prop :=
  ∃ rs, RuleDocument.toRules ds = .ok rs ∧ Rule.toDocuments rs = ds

/-- A condition that may be missing is in normal form. -/
def RuleDocument.GuardNormal (d : Option ConditionDocument) : Prop :=
  ∃ c, guardOfDocument d = .ok c ∧ c.map Condition.toDocument = d

theorem RuleDocument.GuardNormal.clips {d : Option ConditionDocument} (h : GuardNormal d)
    (pre post : List String) : IsNormal (.clips d pre post) := by
  obtain ⟨c, hread, hsame⟩ := h
  refine ⟨.clips c pre post, ?_, by rw [Rule.toDocument, hsame]⟩
  rw [toRule, hread]
  rfl

theorem RuleDocument.GuardNormal.list {d : Option ConditionDocument} {ds : List RuleDocument}
    (h : GuardNormal d) (hrules : AllNormal ds) : IsNormal (.list ds d) := by
  obtain ⟨c, hread, hsame⟩ := h
  obtain ⟨rs, hreads, hsames⟩ := hrules
  refine ⟨.list c rs, ?_, by rw [Rule.toDocument, hsame, hsames]⟩
  rw [toRule, hread, RuleText.ok_bind, hreads]
  rfl

theorem RuleDocument.IsNormal.cons {d : RuleDocument} {ds : List RuleDocument}
    (h : d.IsNormal) (hrest : AllNormal ds) : AllNormal (d :: ds) := by
  obtain ⟨r, hread, hsame⟩ := h
  obtain ⟨rs, hreads, hsames⟩ := hrest
  refine ⟨r :: rs, ?_, by rw [Rule.toDocuments, hsame, hsames]⟩
  rw [toRules, hread, hreads]
  rfl

theorem guardNormal_of_guardOfDocument {d : Option ConditionDocument} {c : Option Condition}
    (h : guardOfDocument d = .ok c) :
    RuleDocument.guardHeight (c.map Condition.toDocument) ≤ RuleDocument.guardHeight d ∧
      RuleDocument.GuardNormal (c.map Condition.toDocument) := by
  cases d with
  | none =>
    cases h
    exact ⟨Nat.le_refl _, none, rfl, rfl⟩
  | some d =>
    obtain ⟨condition, hcondition, h⟩ := exists_of_bind_eq_ok h
    cases h
    obtain ⟨hheight, condition', hread, hsame⟩ := isNormal_of_toCondition hcondition
    refine ⟨hheight, some condition', ?_, by rw [Option.map_some, Option.map_some, hsame]⟩
    rw [Option.map_some, guardOfDocument, hread]
    rfl

mutual

/-- What is written for a rule that was read is in normal form, and no higher than what it was
read from. -/
theorem isNormal_of_toRule {d : RuleDocument} {r : Rule} (h : d.toRule = .ok r) :
    r.toDocument.height ≤ d.height ∧ r.toDocument.IsNormal := by
  cases d with
  | default =>
    cases h
    exact ⟨Nat.le_refl _, .default, rfl, rfl⟩
  | clips condition pre post =>
    rw [RuleDocument.toRule] at h
    obtain ⟨guard, hguard, h⟩ := exists_of_bind_eq_ok h
    cases h
    obtain ⟨hheight, hnormal⟩ := guardNormal_of_guardOfDocument hguard
    rw [Rule.toDocument, RuleDocument.height, RuleDocument.height]
    exact ⟨by omega, hnormal.clips pre post⟩
  | list rules condition =>
    rw [RuleDocument.toRule] at h
    obtain ⟨guard, hguard, h⟩ := exists_of_bind_eq_ok h
    obtain ⟨rs, hrs, h⟩ := exists_of_bind_eq_ok h
    cases h
    obtain ⟨hheight, hnormal⟩ := guardNormal_of_guardOfDocument hguard
    obtain ⟨hheights, hnormals⟩ := allNormal_of_toRules hrs
    rw [Rule.toDocument, RuleDocument.height, RuleDocument.height]
    exact ⟨by omega, hnormal.list hnormals⟩

theorem allNormal_of_toRules {ds : List RuleDocument} {rs : List Rule}
    (h : RuleDocument.toRules ds = .ok rs) :
    RuleDocument.heights (Rule.toDocuments rs) ≤ RuleDocument.heights ds ∧
      RuleDocument.AllNormal (Rule.toDocuments rs) := by
  cases ds with
  | nil =>
    cases h
    exact ⟨Nat.le_refl _, [], rfl, rfl⟩
  | cons d rest =>
    rw [RuleDocument.toRules] at h
    obtain ⟨r, hr, h⟩ := exists_of_bind_eq_ok h
    obtain ⟨rs, hrs, h⟩ := exists_of_bind_eq_ok h
    cases h
    obtain ⟨hheight, hnormal⟩ := isNormal_of_toRule hr
    obtain ⟨hheights, hnormals⟩ := allNormal_of_toRules hrs
    rw [Rule.toDocuments, RuleDocument.heights, RuleDocument.heights]
    exact ⟨by omega, hnormal.cons hnormals⟩

end

theorem guardStorable_toDocument (c : Option Condition) :
    RuleDocument.GuardStorable (c.map Condition.toDocument) := by
  rintro d hd
  obtain ⟨condition, -, rfl⟩ := Option.map_eq_some_iff.1 hd
  exact storable_toDocument condition

mutual

theorem Rule.storable_toDocument (r : Rule) : r.toDocument.Storable := by
  cases r with
  | default => rw [Rule.toDocument, RuleDocument.Storable]; trivial
  | clips condition pre post =>
    rw [Rule.toDocument, RuleDocument.Storable]
    exact guardStorable_toDocument condition
  | list condition rules =>
    rw [Rule.toDocument, RuleDocument.Storable]
    exact ⟨Rule.allStorable_toDocuments rules, guardStorable_toDocument condition⟩

theorem Rule.allStorable_toDocuments (rs : List Rule) :
    RuleDocument.AllStorable (Rule.toDocuments rs) := by
  cases rs with
  | nil => rw [Rule.toDocuments, RuleDocument.AllStorable]; trivial
  | cons r rest =>
    rw [Rule.toDocuments, RuleDocument.AllStorable]
    exact ⟨Rule.storable_toDocument r, Rule.allStorable_toDocuments rest⟩

end

/-! ## The text of a document -/

/-- A rule that was written is read by its document, unless that is nested too deeply. -/
theorem Rule.ofJson_toJson (r : Rule) :
    Rule.ofJson r.toJson =
      if r.toDocument.height ≤ depthLimit then r.toDocument.toRule else .error .malformed := by
  unfold Rule.ofJson Rule.toJson
  rw [RuleDocument.ofText?_toText_bind r.storable_toDocument]
  by_cases hheight : r.toDocument.height ≤ depthLimit
  · rw [if_pos hheight, if_pos hheight]
  · rw [if_neg hheight, if_neg hheight]

/-- What is written for a rule that was read from a text is read again, and the rule that is read
is written as the same text. -/
theorem Rule.ofJson_toJson_normal {text : String} {r : Rule} (h : Rule.ofJson text = .ok r) :
    ∃ r', Rule.ofJson r.toJson = .ok r' ∧ r'.toJson = r.toJson := by
  unfold Rule.ofJson at h
  cases hdocument : (Json.ofText? text).bind (RuleDocument.ofJson? depthLimit) with
  | none => simp [hdocument] at h
  | some d =>
    simp only [hdocument] at h
    obtain ⟨value, -, hvalue⟩ := Option.bind_eq_some_iff.1 hdocument
    have hroom : d.height ≤ depthLimit := RuleDocument.height_le_of_ofJson? rfl hvalue
    obtain ⟨hheight, r', hread, hsame⟩ := isNormal_of_toRule h
    refine ⟨r', ?_, ?_⟩
    · rw [Rule.ofJson_toJson, if_pos (Nat.le_trans hheight hroom), hread]
    · rw [Rule.toJson, hsame, Rule.toJson]

/-- A rule of arrays, whose range runs from the end of the calendar to a date under a name. -/
def arraysDocument : String :=
  "\x7b\"MatchRule\":[\x7b\"CurrentTimeMatch\":[[9999,12,31,23,59,59,999999]," ++
    "\x7b\"date\":[2020,2,29]\x7d]\x7d,[\"\\u00e9\"]]\x7d"

theorem Rule.ofJson_toJson_normal_arrays :
    ∃ r r', Rule.ofJson arraysDocument = .ok r ∧ Rule.ofJson r.toJson = .ok r' ∧
      r'.toJson = r.toJson := by
  have hread : (Rule.ofJson arraysDocument).isOk = true := by decide +kernel
  generalize hrule : Rule.ofJson arraysDocument = found at hread ⊢
  cases found with
  | error fault => cases hread
  | ok r =>
    obtain ⟨r', hagain⟩ := Rule.ofJson_toJson_normal hrule
    exact ⟨r, r', rfl, hagain⟩

end ClipSplice
