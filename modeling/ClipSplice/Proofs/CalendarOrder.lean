import ClipSplice.Proofs.CalendarSteps

/-!
# The order of instants

Dates and instants are compared part by part; `Date.rank` and `Instant.rank` are numbers that
compare as they do, so that the order is a linear one. No date lies between a date and the day
beside it. Between an instant and the microsecond beside it lies no instant that is a whole number
of microseconds away, leap seconds apart (`Instant.not_between_previousMicrosecond?` and
`Instant.not_between_nextMicrosecond?`).
-/

namespace ClipSplice

/-! ## Dates -/

namespace Date

variable {a b d : Date}

/-- A number for each date, which grows with the date. -/
def rank (d : Date) : Int := (d.year * 13 + d.month) * 32 + d.day

theorem before_iff : a.Before b ↔ a.rank < b.rank := by
  have hmonth := a.month_bounds
  have hmonth' := b.month_bounds
  have hday := a.day_bounds
  have hday' := b.day_bounds
  unfold Before rank
  omega

theorem rank_inj : a.rank = b.rank ↔ a = b := by
  refine ⟨fun h => ?_, fun h => h ▸ rfl⟩
  have hmonth := a.month_bounds
  have hmonth' := b.month_bounds
  have hday := a.day_bounds
  have hday' := b.day_bounds
  unfold rank at h
  have hfound : ofYmd? b.year b.month b.day = some a :=
    ofYmd?_eq_some_iff.2 ⟨by omega, by omega, by omega⟩
  rw [ofYmd?_self] at hfound
  exact (Option.some.inj hfound).symm

/-- No month has a day behind its last one. -/
theorem day_le (d : Date) : d.day ≤ daysInMonth d.year d.month := by
  have hday := d.inCalendar
  simp only [isDate, Bool.and_eq_true, decide_eq_true_eq] at hday
  exact hday.2

theorem rank_first_le (d : Date) : Date.first.rank ≤ d.rank := by
  have hday := d.inCalendar
  have hmonth := d.month_bounds
  simp only [isDate, Bool.and_eq_true, decide_eq_true_eq] at hday
  simp only [rank, first]
  omega

theorem rank_le_last (d : Date) : d.rank ≤ Date.last.rank := by
  have hyear := d.inCalendar
  have hmonth := d.month_bounds
  have hday := d.day_bounds
  simp only [isDate, Bool.and_eq_true, decide_eq_true_eq] at hyear
  simp only [rank, last]
  omega

/-- The day after a date is the first of those that are later. -/
theorem rank_lt_iff_of_next? {n : Date} (h : d.next? = some n) (e : Date) :
    d.rank < e.rank ↔ n.rank ≤ e.rank := by
  have hmonth := e.month_bounds
  have hday := e.day_bounds
  have hlast := e.day_le
  have hmonth' := d.month_bounds
  have hday' := d.day_bounds
  unfold next? at h
  unfold rank
  split at h
  · obtain ⟨hy, hm, hd⟩ := ofYmd?_eq_some_iff.1 h
    omega
  · -- a date in the month of `d` is not behind the last day of that month
    have hmonthEnd : e.year = d.year → e.month = d.month → e.day ≤ d.day := by
      intro hy hm
      rw [hy, hm] at hlast
      omega
    split at h
    all_goals
      obtain ⟨hy, hm, hd⟩ := ofYmd?_eq_some_iff.1 h
      omega

/-- The day before a date is the last of those that are earlier. -/
theorem rank_lt_iff_of_previous? {p : Date} (h : d.previous? = some p) (e : Date) :
    e.rank < d.rank ↔ e.rank ≤ p.rank := by
  have hmonth := e.month_bounds
  have hday := e.day_bounds
  have hlast := e.day_le
  have hmonth' := d.month_bounds
  have hday' := d.day_bounds
  unfold previous? at h
  unfold rank
  split at h
  · obtain ⟨hy, hm, hd⟩ := ofYmd?_eq_some_iff.1 h
    omega
  · split at h
    · have hday'' := p.day_bounds
      obtain ⟨hy, hm, hd⟩ := ofYmd?_eq_some_iff.1 h
      -- a date in the month before `d` is not behind the last day of that month
      have hmonthEnd : e.year = d.year → e.month = d.month - 1 → e.day ≤ p.day := by
        intro hy' hm'
        rw [hy', hm'] at hlast
        omega
      omega
    · obtain ⟨hy, hm, hd⟩ := ofYmd?_eq_some_iff.1 h
      omega

end Date

/-! ## Instants -/

namespace Instant

variable {s t u : Instant}

/-- A number for each instant, which grows with the instant. A leap second keeps its room in front
of the second that follows. -/
def rank (t : Instant) : Int :=
  (t.date.rank * secondsPerDay + t.second) * (2 * nanosPerSecond : Nat) + t.nano

theorem before_iff : s.Before t ↔ s.rank < t.rank := by
  have hsecond := s.second_lt
  have hsecond' := t.second_lt
  have hnano := s.nano_lt
  have hnano' := t.nano_lt
  rw [Before, Date.before_iff, ← Date.rank_inj]
  unfold rank
  simp only [secondsPerDay, nanosPerSecond] at *
  omega

theorem le_iff : s ≤ t ↔ s.rank ≤ t.rank := by
  show ¬ t.Before s ↔ _
  rw [before_iff, Int.not_lt]

theorem first_le (t : Instant) : first ≤ t := by
  have hdate := t.date.rank_first_le
  rw [le_iff]
  simp only [rank, first, midnight, secondsPerDay, nanosPerSecond]
  omega

/-- Only a leap second is later than the last instant of the calendar. -/
theorem le_last (hleap : t.nano < nanosPerSecond) : t ≤ last := by
  have hdate := t.date.rank_le_last
  have hsecond := t.second_lt
  rw [le_iff]
  simp only [secondsPerDay, nanosPerSecond] at hleap hsecond
  simp only [rank, last, secondsPerDay, nanosPerSecond]
  omega

/-! ## The microseconds beside an instant -/

theorem before_of_previousMicrosecond? (h : t.previousMicrosecond? = some s) : s.Before t := by
  have hnano := s.nano_lt
  rw [before_iff]
  unfold rank
  rcases previousMicrosecond?_cases h with ⟨-, hdate, hsecond, hback⟩ |
    ⟨-, hback, ⟨hdate, hsecond⟩ | ⟨hdate, hmidnight, hsecond⟩⟩
  · simp only [secondsPerDay, nanosPerSecond, nanosPerMicrosecond] at *
    rw [hdate]
    omega
  · simp only [secondsPerDay, nanosPerSecond, nanosPerMicrosecond] at *
    rw [hdate]
    omega
  · have hearlier := (Date.rank_lt_iff_of_previous? hdate s.date).2 (Int.le_refl _)
    simp only [secondsPerDay, nanosPerSecond, nanosPerMicrosecond] at *
    omega

theorem before_of_nextMicrosecond? (h : t.nextMicrosecond? = some s) : t.Before s := by
  have hnano := t.nano_lt
  rw [before_iff]
  unfold rank
  rcases nextMicrosecond?_cases h with ⟨hdate, hsecond, hon⟩ |
    ⟨-, ⟨hdate, hsecond⟩ | ⟨hdate, hlast, hsecond⟩⟩
  · simp only [secondsPerDay, nanosPerSecond, nanosPerMicrosecond] at *
    rw [hdate]
    omega
  · simp only [secondsPerDay, nanosPerSecond] at *
    rw [hdate]
    omega
  · have hlater := (Date.rank_lt_iff_of_next? hdate s.date).2 (Int.le_refl _)
    simp only [secondsPerDay, nanosPerSecond] at *
    omega

/-- No instant a whole number of microseconds away lies in the microsecond before an instant. -/
theorem not_between_previousMicrosecond? (h : t.previousMicrosecond? = some s)
    (hwhole : u.nano % nanosPerMicrosecond = t.nano % nanosPerMicrosecond)
    (hleap : u.nano < nanosPerSecond) : ¬ (s.Before u ∧ u.Before t) := by
  have hsecond := u.second_lt
  have hnano := t.nano_lt
  rw [before_iff, before_iff]
  unfold rank
  rcases previousMicrosecond?_cases h with ⟨-, hdate, hsecond, hback⟩ |
    ⟨hmicro, hback, ⟨hdate, hsecond⟩ | ⟨hdate, hmidnight, hsecond⟩⟩
  · simp only [secondsPerDay, nanosPerSecond, nanosPerMicrosecond] at *
    rw [hdate]
    omega
  · simp only [secondsPerDay, nanosPerSecond, nanosPerMicrosecond] at *
    rw [hdate]
    omega
  · -- a date between the two would be one of them
    have hdates := Date.rank_lt_iff_of_previous? hdate u.date
    simp only [secondsPerDay, nanosPerSecond, nanosPerMicrosecond] at *
    omega

/-- No instant a whole number of microseconds away lies in the microsecond after an instant. -/
theorem not_between_nextMicrosecond? (h : t.nextMicrosecond? = some s)
    (hwhole : u.nano % nanosPerMicrosecond = t.nano % nanosPerMicrosecond)
    (hleap : u.nano < nanosPerSecond) : ¬ (t.Before u ∧ u.Before s) := by
  have hsecond := u.second_lt
  have hnano := t.nano_lt
  rw [before_iff, before_iff]
  unfold rank
  simp only [secondsPerDay, nanosPerSecond, nanosPerMicrosecond] at *
  rcases nextMicrosecond?_cases h with ⟨hdate, hsecond, hon⟩ | ⟨hon, hnext⟩
  · simp only [nanosPerMicrosecond] at hon
    rw [hdate]
    omega
  · simp only [secondsPerDay, nanosPerSecond, nanosPerMicrosecond] at hon hnext
    -- what is left over goes into the next second, which starts on a whole microsecond
    have hstart : s.nano = u.nano % 1000 := by omega
    rcases hnext with ⟨hdate, hsecond⟩ | ⟨hdate, hlast, hsecond⟩
    · rw [hdate]
      omega
    · have hdates := Date.rank_lt_iff_of_next? hdate u.date
      omega

end Instant

end ClipSplice
