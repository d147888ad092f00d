import ClipSplice.Proofs.CalendarOrder
import ClipSplice.Proofs.DocumentNormalForm
import ClipSplice.Proofs.WrittenRules

/-!
# Rules from texts in documents

A rule that was read from a text comes back from its document with the same structure, and with
the same time ranges but for one thing: the first instant of the year 1 counts as an open bound in
a document (`Rule.ofJson_toJson_of_ofText`). Rules that do not use this instant as a bound make the
same playlists before and after, and so do all rules for later instants. The other instant that
counts as open, the last microsecond of the year 9999, is not the bound of any range in a text.
-/

namespace ClipSplice

open Document

/-! ## Time ranges in a document -/

/-- The bounds of a range are open or fall on whole microseconds, so that a document holds them
exactly. -/
structure TimeRange.IsExact (range : TimeRange) : Prop where
  start : range.start = .first ∨ range.start.IsWhole ∧ range.start.LeapEndsMinute
  finish : range.finish = .last ∨ range.finish.IsWhole ∧ range.finish.LeapEndsMinute

/-- A range as it comes back from a document. -/
def TimeRange.widened (range : TimeRange) : TimeRange :=
  { range with start := ClipSplice.widened range.start, finish := ClipSplice.widened range.finish }

theorem boundOf_boundDocument_of_isWhole {e t : Instant} (he : widened e = e)
    (h : t = e ∨ t.IsWhole ∧ t.LeapEndsMinute) :
    boundOf e (boundDocument t e) = .ok (widened t) := by
  by_cases hopen : t = e
  · rw [boundDocument, if_pos hopen, boundOf, hopen, he]
  · obtain ⟨hwhole, hleap⟩ := h.resolve_left hopen
    rw [boundOf_boundDocument hopen hleap, hwhole]

mutual

theorem Condition.toCondition_toDocument {condition : Condition}
    (h : ∀ range ∈ condition.ranges, range.IsExact) :
    condition.toDocument.toCondition = .ok (condition.mapRanges TimeRange.widened) := by
  cases condition with
  | regex r => exact toCondition_regex r
  | glob g => exact toCondition_glob g
  | all members =>
    rw [toDocument, ConditionDocument.toCondition, Condition.toConditions_toDocuments h, mapRanges]
    rfl
  | any members =>
    rw [toDocument, ConditionDocument.toCondition, Condition.toConditions_toDocuments h, mapRanges]
    rfl
  | negation inner =>
    rw [ranges] at h
    rw [toDocument, ConditionDocument.toCondition, Condition.toCondition_toDocument h, mapRanges]
    rfl
  | during range =>
    have hexact := h range (by simp [ranges])
    exact toCondition_during (boundOf_boundDocument_of_isWhole (by decide) hexact.start)
      (boundOf_boundDocument_of_isWhole (by decide) hexact.finish)

theorem Condition.toConditions_toDocuments {conditions : List Condition}
    (h : ∀ range ∈ Condition.rangesOf conditions, range.IsExact) :
    ConditionDocument.toConditions (Condition.toDocuments conditions) =
      .ok (Condition.mapRangesOf TimeRange.widened conditions) := by
  match conditions with
  | [] => rfl
  | condition :: rest =>
    rw [rangesOf, List.forall_mem_append] at h
    rw [toDocuments, ConditionDocument.toConditions, Condition.toCondition_toDocument h.1,
      Condition.toConditions_toDocuments h.2, mapRangesOf]
    rfl

end

theorem Rule.guardOfDocument_toDocument {condition : Option Condition}
    (h : ∀ range ∈ Rule.guardRanges condition, range.IsExact) :
    guardOfDocument (condition.map Condition.toDocument) =
      .ok (condition.map (Condition.mapRanges TimeRange.widened)) := by
  cases condition with
  | none => rfl
  | some condition =>
    rw [Option.map_some, guardOfDocument, Condition.toCondition_toDocument h]
    rfl

mutual

/-- A rule with exact ranges comes back from its document, with the ranges that count as open
there. -/
theorem Rule.toRule_toDocument {rule : Rule} (h : ∀ range ∈ rule.ranges, range.IsExact) :
    rule.toDocument.toRule = .ok (rule.mapRanges TimeRange.widened) := by
  cases rule with
  | default => rfl
  | clips condition pre post =>
    rw [toDocument, RuleDocument.toRule, Rule.guardOfDocument_toDocument h, mapRanges]
    rfl
  | list condition rules =>
    rw [ranges, List.forall_mem_append] at h
    rw [toDocument, RuleDocument.toRule, Rule.guardOfDocument_toDocument h.1, RuleText.ok_bind,
      Rule.toRules_toDocuments h.2, mapRanges]
    rfl

theorem Rule.toRules_toDocuments {rules : List Rule}
    (h : ∀ range ∈ Rule.rangesOf rules, range.IsExact) :
    RuleDocument.toRules (Rule.toDocuments rules) =
      .ok (Rule.mapRangesOf TimeRange.widened rules) := by
  match rules with
  | [] => rfl
  | rule :: rest =>
    rw [rangesOf, List.forall_mem_append] at h
    rw [toDocuments, RuleDocument.toRules, Rule.toRule_toDocument h.1,
      Rule.toRules_toDocuments h.2, mapRangesOf]
    rfl

end

/-! ## Time ranges in a text -/

/-- The first instant of the year 1. -/
def Instant.yearOne : Instant := .midnight ⟨1, 1, 1, by decide⟩

theorem openStart?_eq : openStart? = some .yearOne := by decide

theorem openFinish?_eq : openFinish? =
    some ⟨⟨9999, 12, 31, by decide⟩, 86399, 999999000, by decide, by decide⟩ := by decide

theorem widened_yearOne : widened .yearOne = .first := by decide

theorem widened_of_ne {t : Instant} (hstart : t ≠ .yearOne) (hfinish : some t ≠ openFinish?) :
    widened t = t := by
  have hne : some t ≠ openStart? := by
    rw [openStart?_eq]
    exact fun h => hstart (Option.some.inj h)
  rw [widened, if_neg hne, if_neg hfinish]

/-- A range of a text: exact, and without the instant that counts as an open end. -/
structure TimeRange.IsTextual (range : TimeRange) : Prop extends range.IsExact where
  start_ne : some range.start ≠ openFinish?
  finish_ne : some range.finish ≠ openFinish?

namespace Instant

theorem isWhole_of_dvd {t : Instant} (h : nanosPerMicrosecond ∣ t.nano) : t.IsWhole := by
  obtain ⟨date, second, nano, second_lt, nano_lt⟩ := t
  simp only [IsWhole, toMicrosecond, mk.injEq, true_and]
  exact Nat.div_mul_cancel h

/-- What a bound of a textual range that is not open has to satisfy. -/
theorem exact_and_ne {t : Instant} (hdvd : nanosPerMicrosecond ∣ t.nano)
    (hnano : t.nano < nanosPerSecond)
    (hne : t.nano = 999999000 → t.second = 86399 → t.date.year = 9999 → t.date.month = 12 →
      t.date.day ≠ 31) :
    (t.IsWhole ∧ t.LeapEndsMinute) ∧ some t ≠ openFinish? := by
  refine ⟨⟨isWhole_of_dvd hdvd, fun hleap => absurd hnano (by omega)⟩, ?_⟩
  rw [openFinish?_eq]
  rintro ⟨⟩
  exact hne rfl rfl rfl rfl rfl

theorem exact_of_nano_eq_zero {t : Instant} (h : t.nano = 0) :
    (t.IsWhole ∧ t.LeapEndsMinute) ∧ some t ≠ openFinish? :=
  exact_and_ne (by rw [h]; exact Nat.dvd_zero _) (by rw [h]; decide) (by omega)

/-- The day before a day of a four-digit year is not the last of the year 9999. -/
theorem ne_of_previous? {d p : Date} (hyear : d.year < 10000) (h : d.previous? = some p) :
    p.year = 9999 → p.month = 12 → p.day ≠ 31 := by
  have hday := d.day_bounds
  have hmonth := d.month_bounds
  unfold Date.previous? at h
  split at h
  · have hparts := Date.ofYmd?_eq_some_iff.1 h
    omega
  · split at h
    · have hparts := Date.ofYmd?_eq_some_iff.1 h
      omega
    · have hparts := Date.ofYmd?_eq_some_iff.1 h
      omega

theorem exact_of_previousMicrosecond? {t s : Instant} (ht : t.IsLiteral)
    (h : t.previousMicrosecond? = some s) :
    (s.IsWhole ∧ s.LeapEndsMinute) ∧ some s ≠ openFinish? := by
  have hsecond := t.second_lt
  unfold previousMicrosecond? at h
  rw [dif_neg (by rw [ht.nano_eq]; decide)] at h
  dsimp only at h
  have hnano : t.nano + nanosPerSecond - nanosPerMicrosecond = 999999000 := by
    rw [ht.nano_eq]
    rfl
  have hdvd : nanosPerMicrosecond ∣ t.nano + nanosPerSecond - nanosPerMicrosecond := ⟨999999, hnano⟩
  have hlt : t.nano + nanosPerSecond - nanosPerMicrosecond < nanosPerSecond := by
    have hsecond : nanosPerSecond = 1000000000 := rfl
    omega
  split at h
  · cases h
    refine exact_and_ne hdvd hlt fun _ hlast => ?_
    -- the last second of a day is followed by midnight, not by a later second of that day
    simp only [secondsPerDay] at hsecond hlast
    omega
  · obtain ⟨date, hdate, h⟩ := Option.map_eq_some_iff.1 h
    cases h
    exact exact_and_ne hdvd hlt fun _ _ => ne_of_previous? ht.year_lt hdate

theorem exact_of_nextMicrosecond? {t s : Instant} (ht : t.IsLiteral)
    (h : t.nextMicrosecond? = some s) :
    (s.IsWhole ∧ s.LeapEndsMinute) ∧ some s ≠ openFinish? := by
  have hnano : t.nano + nanosPerMicrosecond = nanosPerMicrosecond := by
    rw [ht.nano_eq]
    rfl
  unfold nextMicrosecond? at h
  dsimp only at h
  rw [dif_pos (by rw [hnano, ht.nano_eq]; decide)] at h
  cases h
  exact exact_and_ne ⟨1, hnano⟩ (Nat.lt_of_le_of_lt (Nat.le_of_eq hnano) (by decide))
    fun hlast => absurd (hnano.symm.trans hlast) (by decide)

end Instant

/-- A comparison with a written date has textual bounds. -/
theorem Instant.IsLiteral.isTextual {comparison : Comparison} {t : Instant} {range : TimeRange}
    (ht : t.IsLiteral) (h : comparison.bounds? t = some (range.start, range.finish)) :
    range.IsTextual := by
  have hself := exact_of_nano_eq_zero ht.nano_eq
  obtain ⟨hstart, hfinish⟩ := Comparison.bounds?_cases h
  have hstart' : (range.start = .first ∨ range.start.IsWhole ∧ range.start.LeapEndsMinute) ∧
      some range.start ≠ openFinish? := by
    rcases hstart with hfirst | heq | hday | hnext
    · exact ⟨.inl hfirst, hfirst ▸ by decide⟩
    · exact heq ▸ hself.imp_left .inr
    · exact hday ▸ (exact_of_nano_eq_zero rfl).imp_left .inr
    · exact (exact_of_nextMicrosecond? ht hnext).imp_left .inr
  have hfinish' : (range.finish = .last ∨ range.finish.IsWhole ∧ range.finish.LeapEndsMinute) ∧
      some range.finish ≠ openFinish? := by
    rcases hfinish with hlast | heq | hday | hprevious
    · exact ⟨.inl hlast, hlast ▸ by decide⟩
    · exact heq ▸ hself.imp_left .inr
    · exact hday ▸ (exact_of_nano_eq_zero rfl).imp_left .inr
    · exact (exact_of_previousMicrosecond? ht hprevious).imp_left .inr
  exact ⟨⟨hstart'.1, hfinish'.1⟩, hstart'.2, hfinish'.2⟩

theorem TimeRange.IsWritten.isTextual {range : TimeRange} (h : range.IsWritten) :
    range.IsTextual := by
  rcases h with ⟨comparison, t, ht, hbounds⟩ | ⟨hstart, hfinish⟩
  · exact ht.isTextual hbounds
  · obtain ⟨hexact, hne⟩ := Instant.exact_of_nano_eq_zero hstart.nano_eq
    obtain ⟨hexact', hne'⟩ := Instant.exact_of_nano_eq_zero hfinish.nano_eq
    exact ⟨⟨.inr hexact, .inr hexact'⟩, hne, hne'⟩

/-- All time ranges of a rule that was read from a text are textual. -/
theorem Rule.isTextual_of_ofText {text : String} {r : Rule} (h : Rule.ofText text = .ok r) :
    ∀ range ∈ r.ranges, range.IsTextual := by
  obtain ⟨rules, rfl, -, hrules⟩ := Rule.wellShaped_of_ofText h
  have hlist : (Rule.list none rules).WellShaped TimeRange.IsTextual :=
    .list (fun _ hc => nomatch hc) fun rule hrule =>
      (hrules rule hrule).mono fun _ => TimeRange.IsWritten.isTextual
  exact hlist.ranges

/-! ## Playlists -/

/-- What is later than the first instant of the year 1 is later than the first of the calendar. -/
theorem Instant.not_le_first {t : Instant} (h : ¬ t ≤ yearOne) : ¬ t ≤ first := by
  have hbefore : Before yearOne t := Decidable.not_not.1 h
  refine fun hle => hle (.inl (.inl ?_))
  have hyear : yearOne.date.year ≤ t.date.year := by
    obtain (hlt | ⟨heq, -⟩) | ⟨heq, -⟩ := hbefore
    · exact Int.le_of_lt hlt
    · exact Int.le_of_eq heq
    · exact Int.le_of_eq (congrArg Date.year heq)
  exact Int.lt_of_lt_of_le (by decide) hyear

/-- Whether the first instant of the year 1 is a bound of a range does not matter for a name at an
instant: the instant that is tested is no earlier than it at the start and later at the end. -/
def TimeRange.ClearOfYearOne (range : TimeRange) (name : String) (now : Instant) : Prop :=
  ∀ t ∈ range.instant? name now,
    (range.start = .yearOne → .yearOne ≤ t) ∧ (range.finish = .yearOne → ¬ t ≤ .yearOne)

theorem TimeRange.IsTextual.holds_widened {range : TimeRange} {name : String} {now : Instant}
    (h : range.IsTextual) (hclear : range.ClearOfYearOne name now) :
    range.widened.holds name now = range.holds name now := by
  have hsame : range.widened.instant? name now = range.instant? name now := rfl
  unfold holds
  rw [hsame]
  cases htested : range.instant? name now with
  | none => rfl
  | some t =>
    obtain ⟨hclearStart, hclearFinish⟩ := hclear t htested
    have hstart : decide (ClipSplice.widened range.start ≤ t) = decide (range.start ≤ t) := by
      by_cases heq : range.start = .yearOne
      · rw [heq, widened_yearOne, decide_eq_true (hclearStart heq),
          decide_eq_true (Instant.first_le t)]
      · rw [widened_of_ne heq h.start_ne]
    have hfinish : decide (t ≤ ClipSplice.widened range.finish) = decide (t ≤ range.finish) := by
      by_cases heq : range.finish = .yearOne
      · rw [heq, widened_yearOne, decide_eq_false (hclearFinish heq),
          decide_eq_false (Instant.not_le_first (hclearFinish heq))]
      · rw [widened_of_ne heq h.finish_ne]
    simp only [Option.any_some, contains, TimeRange.widened, hstart, hfinish]

/-- A rule from a text that is read back from its document has the same ranges, with the first
instant of the year 1 as an open bound. It makes the same playlist for every name at every instant
unless it tests, against that bound, an instant that is not later. -/
theorem Rule.ofJson_toJson_of_ofText {text : String} {r r' : Rule}
    (htext : Rule.ofText text = .ok r) (hread : Rule.ofJson r.toJson = .ok r') :
    r' = r.mapRanges TimeRange.widened ∧ ∀ name now,
      (∀ range ∈ r.ranges, range.ClearOfYearOne name now) →
        r'.playlist? name now = r.playlist? name now := by
  have htextual := Rule.isTextual_of_ofText htext
  rw [Rule.ofJson_toJson, Rule.toRule_toDocument fun range hrange =>
    (htextual range hrange).toIsExact] at hread
  obtain rfl : r.mapRanges TimeRange.widened = r' := by
    split at hread
    · exact Except.ok.inj hread
    · cases hread
  exact ⟨rfl, fun name now hclear => Rule.playlist?_mapRanges fun range hrange =>
    (htextual range hrange).holds_widened (hclear range hrange)⟩

/-! ### A rule that starts with the year 1 -/

/-- A clip from the year 1 on. -/
def sinceYearOne : Rule :=
  .list none [.clips (some (.during { start := .yearOne, finish := .last })) ["x"] []]

/-- Whether a rule is the clip from the year 1 on. -/
def isSinceYearOne : Rule → Bool
  | .list none [.clips (some (.during ⟨start, finish, .now⟩)) ["x"] []] =>
    start = .yearOne && finish = .last
  | _ => false

theorem eq_of_isSinceYearOne {r : Rule} (h : isSinceYearOne r = true) : r = sinceYearOne := by
  unfold isSinceYearOne at h
  split at h
  · rw [Bool.and_eq_true, decide_eq_true_eq, decide_eq_true_eq] at h
    obtain ⟨rfl, rfl⟩ := h
    rfl
  · cases h

theorem ofText_sinceYearOne : Rule.ofText ">= 01-01-0001: pre: [x]" = .ok sinceYearOne := by
  have hread : (Rule.ofText ">= 01-01-0001: pre: [x]").toOption.any isSinceYearOne = true := by
    decide +kernel
  cases hrule : Rule.ofText ">= 01-01-0001: pre: [x]" with
  | error fault =>
    rw [hrule] at hread
    cases hread
  | ok r =>
    rw [hrule] at hread
    rw [eq_of_isSinceYearOne hread]

theorem ofJson_toJson_sinceYearOne : Rule.ofJson sinceYearOne.toJson =
    .ok (.list none [.clips (some (.during { start := .first, finish := .last })) ["x"] []]) := by
  have hexact : ∀ range ∈ sinceYearOne.ranges, range.IsExact := fun range hrange =>
    (Rule.isTextual_of_ofText ofText_sinceYearOne range hrange).toIsExact
  rw [Rule.ofJson_toJson, if_pos (by decide), Rule.toRule_toDocument hexact]
  rfl

/-- At its first instant the rule makes the same playlist before and after. -/
theorem Rule.ofJson_toJson_of_ofText_sinceYearOne :
    ∃ r', Rule.ofText ">= 01-01-0001: pre: [x]" = .ok sinceYearOne ∧
      Rule.ofJson sinceYearOne.toJson = .ok r' ∧
      (∀ range ∈ sinceYearOne.ranges, range.ClearOfYearOne "a" .yearOne) ∧
      r'.playlist? "a" .yearOne = sinceYearOne.playlist? "a" .yearOne := by
  have hclear : ∀ range ∈ sinceYearOne.ranges, range.ClearOfYearOne "a" .yearOne := by
    simp only [sinceYearOne, Rule.ranges, Rule.guardRanges, Rule.rangesOf, Condition.ranges,
      List.nil_append, List.append_nil, List.mem_singleton]
    rintro _ rfl t ⟨⟩
    exact ⟨fun _ => by decide, fun h => absurd h (by decide)⟩
  exact ⟨_, ofText_sinceYearOne, ofJson_toJson_sinceYearOne, hclear,
    (Rule.ofJson_toJson_of_ofText ofText_sinceYearOne ofJson_toJson_sinceYearOne).2 _ _ hclear⟩

/-- Before the year 1 the rule does not apply, but the rule that comes back from its document
does. -/
theorem Rule.ofJson_toJson_yearZero :
    ∃ r', Rule.ofText ">= 01-01-0001: pre: [x]" = .ok sinceYearOne ∧
      Rule.ofJson sinceYearOne.toJson = .ok r' ∧
      sinceYearOne.playlist? "a" (.midnight ⟨0, 6, 1, by decide⟩) = none ∧
      r'.playlist? "a" (.midnight ⟨0, 6, 1, by decide⟩) = some [.clip "x", .original "a"] :=
  ⟨_, ofText_sinceYearOne, ofJson_toJson_sinceYearOne, by decide, by decide⟩

end ClipSplice
