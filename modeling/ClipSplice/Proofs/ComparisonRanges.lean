import ClipSplice.Proofs.CalendarOrder
import ClipSplice.Rule.TimeRange

/-!
# The ranges of comparisons

Which instants the range of a comparison has. "Equal" has those of one day up to the start of its
last second (`TimeRange.contains_of_compare?_equal`). A comparison and its opposite have no instant
in common, and together they have all instants up to the end of the calendar, except those strictly
within one microsecond of the instant that is compared with
(`TimeRange.contains_of_compare?_opposite`).
-/

namespace ClipSplice

namespace TimeRange

variable {range : TimeRange} {t : Instant}

theorem contains_iff : range.contains t = true ↔ range.start ≤ t ∧ t ≤ range.finish := by
  rw [contains, Bool.and_eq_true, decide_eq_true_eq, decide_eq_true_eq]

end TimeRange

/-! ## A day -/

/-- Between midnight and the start of the last second of a day. -/
theorem Instant.mem_day_iff {date : Date} {t : Instant} :
    midnight date ≤ t ∧ t ≤ lastSecond date ↔
      t.date = date ∧ (t.second + 1 = secondsPerDay → t.nano = 0) := by
  have hsecond := t.second_lt
  have hnano := t.nano_lt
  rw [le_iff, le_iff, ← Date.rank_inj]
  simp only [rank, midnight, lastSecond, secondsPerDay, nanosPerSecond] at *
  omega

/-- "Equal" is a range for every instant. It has the instants of the same day, but of the last
second of the day only the start. -/
theorem TimeRange.contains_of_compare?_equal (t : Instant) :
    ∃ range, compare? .equal t = some range ∧ ∀ u, range.contains u = true ↔
      u.date = t.date ∧ (u.second + 1 = secondsPerDay → u.nano = 0) :=
  ⟨_, rfl, fun _ => contains_iff.trans Instant.mem_day_iff⟩

/-- Half a second before midnight the day is not over, and "equal" does not have the instant. -/
theorem TimeRange.compare?_equal_lacks_last_second :
    let t : Instant := .midnight ⟨2005, 12, 1, by decide⟩
    let late : Instant := ⟨t.date, 86399, 500000000, by decide, by decide⟩
    late.date = t.date ∧ (compare? .equal t).map (·.contains late) = some false := by
  decide +kernel

/-! ## Opposite comparisons -/

namespace Comparison

/-- One comparison says what the other one denies; the one for earlier instants comes first. -/
inductive Opposite : (lower upper : Comparison) → Prop
  | less : Opposite .less .greaterOrEqual
  | greater : Opposite .lessOrEqual .greater

/-- An instant lies strictly within the microsecond between `t` and the end of a strict comparison
with `t`. -/
def Skips : Comparison → (t u : Instant) → Prop
  | less, t, u => u.Before t ∧ ∃ s, t.previousMicrosecond? = some s ∧ s.Before u
  | greater, t, u => t.Before u ∧ ∃ s, t.nextMicrosecond? = some s ∧ u.Before s
  | _, _, _ => False

/-- An instant a whole number of microseconds away is not skipped, unless it is in a leap second. -/
theorem not_skips {comparison : Comparison} {t u : Instant} (hleap : u.nano < nanosPerSecond)
    (hwhole : u.nano % nanosPerMicrosecond = t.nano % nanosPerMicrosecond) :
    ¬ comparison.Skips t u := by
  cases comparison with
  | equal | lessOrEqual | greaterOrEqual => exact id
  | less =>
    rintro ⟨hlater, s, hs, hearlier⟩
    exact Instant.not_between_previousMicrosecond? hs hwhole hleap ⟨hearlier, hlater⟩
  | greater =>
    rintro ⟨hearlier, s, hs, hlater⟩
    exact Instant.not_between_nextMicrosecond? hs hwhole hleap ⟨hearlier, hlater⟩

end Comparison

namespace TimeRange

/-- The ranges of two opposite comparisons are the instants up to one and from a later one on, and
what lies between the two is skipped. -/
theorem exists_ends_of_opposite {lower upper : Comparison} (hopposite : lower.Opposite upper)
    {t : Instant} {below above : TimeRange} (hbelow : compare? lower t = some below)
    (habove : compare? upper t = some above) :
    ∃ finish start, below = ⟨.first, finish, .now⟩ ∧ above = ⟨start, .last, .now⟩ ∧
      finish.Before start ∧
        ∀ u, lower.Skips t u ∨ upper.Skips t u ↔ finish.Before u ∧ u.Before start := by
  cases hopposite with
  | less =>
    obtain ⟨⟨_, _⟩, hends, rfl⟩ := Option.map_eq_some_iff.1 hbelow
    obtain ⟨s, hs, hends⟩ := Option.map_eq_some_iff.1 hends
    obtain ⟨rfl, rfl⟩ := Prod.mk.inj hends
    cases habove
    refine ⟨s, t, rfl, rfl, Instant.before_of_previousMicrosecond? hs, fun u => ?_⟩
    simp [Comparison.Skips, hs, and_comm]
  | greater =>
    cases hbelow
    obtain ⟨⟨_, _⟩, hends, rfl⟩ := Option.map_eq_some_iff.1 habove
    obtain ⟨s, hs, hends⟩ := Option.map_eq_some_iff.1 hends
    obtain ⟨rfl, rfl⟩ := Prod.mk.inj hends
    refine ⟨t, s, rfl, rfl, Instant.before_of_nextMicrosecond? hs, fun u => ?_⟩
    simp [Comparison.Skips, hs]

/-- The ranges of two opposite comparisons with an instant, where the calendar has both. No instant
is in both. An instant up to the end of the calendar is in one of them unless it lies in the
microsecond that is skipped; an instant that is a whole number of microseconds away, and not in a
leap second, is in one of them. -/
theorem contains_of_compare?_opposite {lower upper : Comparison} (hopposite : lower.Opposite upper)
    {t : Instant} {below above : TimeRange} (hbelow : compare? lower t = some below)
    (habove : compare? upper t = some above) :
    (∀ u, ¬(below.contains u = true ∧ above.contains u = true)) ∧
      (∀ u ≤ Instant.last, below.contains u = true ∨ above.contains u = true ↔
        ¬(lower.Skips t u ∨ upper.Skips t u)) ∧
      ∀ u, u.nano < nanosPerSecond →
        u.nano % nanosPerMicrosecond = t.nano % nanosPerMicrosecond →
        (below.contains u = true ∨ above.contains u = true) := by
  obtain ⟨finish, start, rfl, rfl, hgap, hskips⟩ :=
    exists_ends_of_opposite hopposite hbelow habove
  have hbelow (u : Instant) : contains ⟨.first, finish, .now⟩ u = true ↔ u ≤ finish :=
    contains_iff.trans (and_iff_right u.first_le)
  have habove (u : Instant) : contains ⟨start, .last, .now⟩ u = true ↔ start ≤ u ∧ u ≤ .last :=
    contains_iff
  rw [Instant.before_iff] at hgap
  have hone : ∀ u ≤ Instant.last,
      (contains ⟨.first, finish, .now⟩ u = true ∨ contains ⟨start, .last, .now⟩ u = true ↔
        ¬(lower.Skips t u ∨ upper.Skips t u)) := by
    intro u hlast
    rw [hbelow, habove, and_iff_left hlast, hskips, Instant.le_iff, Instant.le_iff,
      Instant.before_iff, Instant.before_iff]
    omega
  refine ⟨fun u => ?_, hone, fun u hleap hwhole => (hone u (Instant.le_last hleap)).2 ?_⟩
  · rw [hbelow, habove, Instant.le_iff, Instant.le_iff]
    omega
  · exact not_or.2 ⟨Comparison.not_skips hleap hwhole, Comparison.not_skips hleap hwhole⟩

/-- A microsecond before a midnight, with the last day of the month before it. -/
theorem contains_of_compare?_opposite_midnight :
    let t : Instant := .midnight ⟨2005, 12, 1, by decide⟩
    let u : Instant := ⟨⟨2005, 11, 30, by decide⟩, 86399, 999999000, by decide, by decide⟩
    let below : TimeRange := ⟨.first, u, .now⟩
    let above : TimeRange := ⟨t, .last, .now⟩
    Comparison.Opposite .less .greaterOrEqual ∧
      compare? .less t = some below ∧ compare? .greaterOrEqual t = some above ∧
      u.nano < nanosPerSecond ∧
      u.nano % nanosPerMicrosecond = t.nano % nanosPerMicrosecond ∧
      (below.contains u = true ∨ above.contains u = true) ∧
      ¬(below.contains u = true ∧ above.contains u = true) := by
  intro t u below above
  have hprevious : t.previousMicrosecond? = some u := by decide +kernel
  have hbelow : compare? .less t = some below := by
    rw [compare?, Comparison.bounds?, hprevious]
    rfl
  have habove : compare? .greaterOrEqual t = some above := rfl
  have hleap : u.nano < nanosPerSecond := by decide
  have hwhole : u.nano % nanosPerMicrosecond = t.nano % nanosPerMicrosecond := by decide
  obtain ⟨hnot, -, hone⟩ := contains_of_compare?_opposite .less hbelow habove
  exact ⟨.less, hbelow, habove, hleap, hwhole, hone u hleap hwhole, hnot u⟩

/-- Half a microsecond before or after an instant, and in a leap second at the end of the calendar,
neither of two opposite comparisons has the instant. -/
theorem compare?_opposite_gap :
    let t : Instant := .midnight ⟨2005, 12, 1, by decide⟩
    let earlier : Instant := ⟨⟨2005, 11, 30, by decide⟩, 86399, 999999500, by decide, by decide⟩
    let later : Instant := ⟨⟨2005, 12, 1, by decide⟩, 0, 500, by decide, by decide⟩
    let leap : Instant := ⟨.last, 86399, 1500000000, by decide, by decide⟩
    ((compare? .less t).map (·.contains earlier) = some false ∧
      (compare? .greaterOrEqual t).map (·.contains earlier) = some false) ∧
    ((compare? .lessOrEqual t).map (·.contains later) = some false ∧
      (compare? .greater t).map (·.contains later) = some false) ∧
    (compare? .less t).map (·.contains leap) = some false ∧
      (compare? .greaterOrEqual t).map (·.contains leap) = some false := by
  decide +kernel

end TimeRange

end ClipSplice
