import ClipSplice.Rule.Basic

/-!
# Time ranges in rules

What a rule makes of a name depends on the instant only through its time ranges. This is said for
two rules that differ in their time ranges, each at an instant of its own
(`Rule.playlist?_mapRanges`). For one rule at two instants it comes down to the ranges that are
tested on the clock (`Rule.playlist?_clock`).
-/

namespace ClipSplice

/-! ## The time ranges of a rule -/

mutual

/-- The time ranges in a condition. -/
def Condition.ranges : Condition → List TimeRange
  | .regex _ => []
  | .glob _ => []
  | .all members => Condition.rangesOf members
  | .any members => Condition.rangesOf members
  | .negation inner => Condition.ranges inner
  | .during range => [range]

/-- The time ranges in some conditions. -/
def Condition.rangesOf : List Condition → List TimeRange
  | [] => []
  | condition :: rest => Condition.ranges condition ++ Condition.rangesOf rest

end

mutual

/-- A condition with its time ranges changed. -/
def Condition.mapRanges (f : TimeRange → TimeRange) : Condition → Condition
  | .regex r => .regex r
  | .glob g => .glob g
  | .all members => .all (Condition.mapRangesOf f members)
  | .any members => .any (Condition.mapRangesOf f members)
  | .negation inner => .negation (Condition.mapRanges f inner)
  | .during range => .during (f range)

/-- Some conditions with their time ranges changed. -/
def Condition.mapRangesOf (f : TimeRange → TimeRange) : List Condition → List Condition
  | [] => []
  | condition :: rest => Condition.mapRanges f condition :: Condition.mapRangesOf f rest

end

/-- The time ranges in a condition that may be missing. -/
def Rule.guardRanges : Option Condition → List TimeRange
  | none => []
  | some condition => condition.ranges

mutual

/-- The time ranges in a rule. -/
def Rule.ranges : Rule → List TimeRange
  | .default => []
  | .clips condition _ _ => Rule.guardRanges condition
  | .list condition rules => Rule.guardRanges condition ++ Rule.rangesOf rules

/-- The time ranges in some rules. -/
def Rule.rangesOf : List Rule → List TimeRange
  | [] => []
  | rule :: rest => Rule.ranges rule ++ Rule.rangesOf rest

end

mutual

/-- A rule with its time ranges changed. -/
def Rule.mapRanges (f : TimeRange → TimeRange) : Rule → Rule
  | .default => .default
  | .clips condition pre post => .clips (condition.map (Condition.mapRanges f)) pre post
  | .list condition rules =>
    .list (condition.map (Condition.mapRanges f)) (Rule.mapRangesOf f rules)

/-- Some rules with their time ranges changed. -/
def Rule.mapRangesOf (f : TimeRange → TimeRange) : List Rule → List Rule
  | [] => []
  | rule :: rest => Rule.mapRanges f rule :: Rule.mapRangesOf f rest

end

/-! ## Rules that differ in their time ranges -/

section

variable {f : TimeRange → TimeRange} {name : String} {now later : Instant}

mutual

theorem Condition.check_mapRanges {condition : Condition}
    (h : ∀ range ∈ condition.ranges, (f range).holds name later = range.holds name now) :
    (condition.mapRanges f).check name later = condition.check name now := by
  cases condition with
  | regex r => rw [mapRanges, check, check]
  | glob g => rw [mapRanges, check, check]
  | all members => rw [mapRanges, check, check, checkAll_mapRanges h]
  | any members => rw [mapRanges, check, check, checkAny_mapRanges h]
  | negation inner =>
    rw [ranges] at h
    rw [mapRanges, check, check, Condition.check_mapRanges h]
  | during range => rw [mapRanges, check, check, h range (by simp [ranges])]

theorem Condition.checkAll_mapRanges {members : List Condition}
    (h : ∀ range ∈ Condition.rangesOf members,
      (f range).holds name later = range.holds name now) :
    Condition.checkAll name later (Condition.mapRangesOf f members) =
      Condition.checkAll name now members := by
  match members with
  | [] => rw [mapRangesOf, checkAll, checkAll]
  | [condition] =>
    rw [rangesOf, List.forall_mem_append] at h
    rw [mapRangesOf, mapRangesOf, checkAll, checkAll, Condition.check_mapRanges h.1]
  | condition :: next :: rest =>
    rw [rangesOf, List.forall_mem_append] at h
    have hrest := Condition.checkAll_mapRanges h.2
    have hstep : ∀ (at' : Instant) (first second : Condition) (rest : List Condition),
        checkAll name at' (first :: second :: rest) =
          if (check name at' first).isSome then checkAll name at' (second :: rest) else none := by
      intro at' first second rest
      rw [checkAll]
      simp
    rw [mapRangesOf] at hrest
    rw [mapRangesOf, mapRangesOf, hstep, hstep, Condition.check_mapRanges h.1, hrest]

theorem Condition.checkAny_mapRanges {members : List Condition}
    (h : ∀ range ∈ Condition.rangesOf members,
      (f range).holds name later = range.holds name now) :
    Condition.checkAny name later (Condition.mapRangesOf f members) =
      Condition.checkAny name now members := by
  match members with
  | [] => rw [mapRangesOf, checkAny, checkAny]
  | condition :: rest =>
    rw [rangesOf, List.forall_mem_append] at h
    rw [mapRangesOf, checkAny, checkAny, Condition.check_mapRanges h.1,
      Condition.checkAny_mapRanges h.2]

end

theorem Rule.guard_mapRanges {condition : Option Condition}
    (h : ∀ range ∈ Rule.guardRanges condition,
      (f range).holds name later = range.holds name now) :
    Rule.guard (condition.map (Condition.mapRanges f)) name later =
      Rule.guard condition name now := by
  cases condition with
  | none => rfl
  | some condition => exact Condition.check_mapRanges h

mutual

/-- A rule makes the same playlist when its time ranges and the instant are changed, if the ranges
hold alike. -/
theorem Rule.playlist?_mapRanges {rule : Rule}
    (h : ∀ range ∈ rule.ranges, (f range).holds name later = range.holds name now) :
    (rule.mapRanges f).playlist? name later = rule.playlist? name now := by
  cases rule with
  | default => rw [mapRanges, playlist?, playlist?]
  | clips condition pre post =>
    rw [mapRanges, playlist?, playlist?, Rule.guard_mapRanges h]
  | list condition rules =>
    rw [ranges, List.forall_mem_append] at h
    rw [mapRanges, playlist?, playlist?, Rule.guard_mapRanges h.1,
      Rule.firstPlaylist?_mapRanges h.2]

theorem Rule.firstPlaylist?_mapRanges {rules : List Rule}
    (h : ∀ range ∈ Rule.rangesOf rules, (f range).holds name later = range.holds name now) :
    Rule.firstPlaylist? name later (Rule.mapRangesOf f rules) =
      Rule.firstPlaylist? name now rules := by
  match rules with
  | [] => rw [mapRangesOf, firstPlaylist?, firstPlaylist?]
  | rule :: rest =>
    rw [rangesOf, List.forall_mem_append] at h
    rw [mapRangesOf, firstPlaylist?, firstPlaylist?, Rule.playlist?_mapRanges h.1,
      Rule.firstPlaylist?_mapRanges h.2]

end

end

/-! ## The clock -/

/-- A range that is tested on a date in the name holds at every instant or at none. -/
theorem TimeRange.holds_of_source_ne_now {range : TimeRange} (h : range.source ≠ .now)
    (name : String) (now later : Instant) : range.holds name later = range.holds name now := by
  unfold holds instant?
  cases hsource : range.source with
  | now => exact absurd hsource h
  | embedded pattern => rfl

/-- Two instants that lie in the same of the ranges tested on the clock make no difference to any
range. -/
theorem TimeRange.holds_of_contains_eq {range : TimeRange} {now later : Instant}
    (h : range.source = .now → range.contains now = range.contains later) (name : String) :
    range.holds name later = range.holds name now := by
  by_cases hsource : range.source = .now
  · simp only [holds, instant?, hsource, Option.any_some, h hsource]
  · exact holds_of_source_ne_now hsource name now later

/-- A rule plays the same for a name, clips included, at two instants that lie in the same of its
time ranges on the clock. When it has no range on the clock, it plays the same at every instant. -/
theorem Rule.playlist?_clock (rule : Rule) (name : String) :
    (∀ now later, (∀ range ∈ rule.ranges, range.source = .now →
        range.contains now = range.contains later) →
      rule.playlist? name now = rule.playlist? name later) ∧
    ((∀ range ∈ rule.ranges, range.source ≠ .now) →
      ∀ now later, rule.playlist? name now = rule.playlist? name later) := by
  have hclock : ∀ now later, (∀ range ∈ rule.ranges, range.source = .now →
      range.contains now = range.contains later) →
      rule.playlist? name now = rule.playlist? name later := by
    intro now later h
    -- the rule itself with its ranges as they are, once at each of the two instants
    have hnow : (rule.mapRanges id).playlist? name later = rule.playlist? name now :=
      Rule.playlist?_mapRanges fun range hrange =>
        TimeRange.holds_of_contains_eq (h range hrange) name
    have hlater : (rule.mapRanges id).playlist? name later = rule.playlist? name later :=
      Rule.playlist?_mapRanges fun range _ => rfl
    rw [← hnow, hlater]
  refine ⟨hclock, fun hembedded now later => hclock now later ?_⟩
  intro range hrange hsource
  exact absurd hsource (hembedded range hrange)

theorem DatePattern.isSome_standard? : DatePattern.standard?.isSome = true := by decide +kernel

/-- A clip filled by a regular expression beside a negated range on the clock, at two instants around
the range; and a range on the date in a name, at an instant outside and one inside. -/
theorem Rule.playlist?_clock_around_range :
    let regex : AnchoredRegex := (AnchoredRegex.new? "(a).*" .none).get (by decide +kernel)
    let pattern : DatePattern := DatePattern.standard?.get DatePattern.isSome_standard?
    let day : Instant := .midnight ⟨2005, 12, 1, by decide⟩
    let range : TimeRange := ⟨day, day, .now⟩
    let rule : Rule := .list (some (.any [.during range, .negation (.during range)]))
      [.clips (some (.all [.negation (.during range), .regex regex])) ["$1.mp3"] []]
    let dated : Rule := .clips (some (.during (range.withPattern pattern))) ["x"] []
    rule.playlist? "abc" .first = rule.playlist? "abc" .last ∧
      rule.playlist? "abc" .first = some [.clip "a.mp3", .original "abc"] ∧
      rule.playlist? "abc" day = none ∧
      dated.playlist? "120105" .first = dated.playlist? "120105" day ∧
      dated.playlist? "120105" day = some [.clip "x", .original "120105"] := by
  intro regex pattern day range rule dated
  have houtside : range.contains .first = range.contains .last := by decide
  have hranges : rule.ranges = [range, range, range] := rfl
  have hdated : dated.ranges = [range.withPattern pattern] := rfl
  refine ⟨(playlist?_clock rule "abc").1 .first .last ?_, by decide +kernel, by decide +kernel,
    (playlist?_clock dated "120105").2 ?_ .first day, by decide +kernel⟩
  · intro other hother _
    rw [hranges] at hother
    obtain rfl : other = range := by simpa using hother
    exact houtside
  · intro other hother
    rw [hdated, List.mem_singleton] at hother
    rw [hother]
    exact nofun

end ClipSplice
