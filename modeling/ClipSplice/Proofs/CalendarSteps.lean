import ClipSplice.Time.Instant

/-!
# The days and microseconds beside an instant

Days and microseconds follow each other without gaps up to the ends of the calendar:
`Date.previous?` and `Date.next?` give a date inside the first and the last year, and
`Instant.previousMicrosecond?` and `Instant.nextMicrosecond?` an instant.
-/

namespace ClipSplice

theorem daysInMonth_bounds (year : Int) {month : Nat} (hfirst : 1 ≤ month) (hlast : month ≤ 12) :
    28 ≤ daysInMonth year month ∧ daysInMonth year month ≤ 31 := by
  unfold daysInMonth
  split
  case h_12 => split <;> omega
  case h_13 => grind
  all_goals omega

namespace Date

theorem month_bounds (d : Date) : 1 ≤ d.month ∧ d.month ≤ 12 := by
  have hday := d.inCalendar
  simp only [isDate, Bool.and_eq_true, decide_eq_true_eq] at hday
  have hpos : 0 < daysInMonth d.year d.month := by omega
  unfold daysInMonth at hpos
  split at hpos <;> omega

theorem day_bounds (d : Date) : 1 ≤ d.day ∧ d.day ≤ 31 := by
  have hday := d.inCalendar
  have hmonth := d.month_bounds
  have hdays := daysInMonth_bounds d.year hmonth.1 hmonth.2
  simp only [isDate, Bool.and_eq_true, decide_eq_true_eq] at hday
  omega

theorem ofYmd?_isSome {year : Int} {month day : Nat} (hyear : firstYear ≤ year ∧ year ≤ lastYear)
    (hday : 1 ≤ day ∧ day ≤ daysInMonth year month) : (ofYmd? year month day).isSome = true := by
  rw [ofYmd?, dif_pos (by simp [isDate, hyear, hday])]
  rfl

/-- A date has a day before it unless it is in the first year. -/
theorem previous?_isSome {d : Date} (hyear : firstYear < d.year) :
    d.previous?.isSome = true := by
  have hday := d.inCalendar
  have hmonth := d.month_bounds
  simp only [isDate, Bool.and_eq_true, decide_eq_true_eq] at hday
  unfold previous?
  split
  · exact ofYmd?_isSome (by omega) (by omega)
  · split
    · have hdays := @daysInMonth_bounds d.year (d.month - 1) (by omega) (by omega)
      exact ofYmd?_isSome (by omega) (by omega)
    · -- the first of January follows the last day of a December
      have hdays : daysInMonth (d.year - 1) 12 = 31 := rfl
      exact ofYmd?_isSome (by omega) (by omega)

/-- A date has a day after it unless it is in the last year. -/
theorem next?_isSome {d : Date} (hyear : d.year < lastYear) : d.next?.isSome = true := by
  have hday := d.inCalendar
  have hmonth := d.month_bounds
  simp only [isDate, Bool.and_eq_true, decide_eq_true_eq] at hday
  unfold next?
  split
  · exact ofYmd?_isSome (by omega) (by omega)
  · split
    · have hdays := @daysInMonth_bounds d.year (d.month + 1) (by omega) (by omega)
      exact ofYmd?_isSome (by omega) (by omega)
    · have hdays : daysInMonth (d.year + 1) 1 = 31 := rfl
      exact ofYmd?_isSome (by omega) (by omega)

theorem year_of_previous? {d p : Date} (h : d.previous? = some p) :
    d.year - 1 ≤ p.year ∧ p.year ≤ d.year := by
  unfold previous? at h
  split at h
  · have hparts := ofYmd?_eq_some_iff.1 h
    omega
  · split at h
    · have hparts := ofYmd?_eq_some_iff.1 h
      omega
    · have hparts := ofYmd?_eq_some_iff.1 h
      omega

theorem year_of_next? {d n : Date} (h : d.next? = some n) :
    d.year ≤ n.year ∧ n.year ≤ d.year + 1 := by
  unfold next? at h
  split at h
  · have hparts := ofYmd?_eq_some_iff.1 h
    omega
  · split at h
    · have hparts := ofYmd?_eq_some_iff.1 h
      omega
    · have hparts := ofYmd?_eq_some_iff.1 h
      omega

end Date

namespace Instant

variable {s t : Instant}

theorem previousMicrosecond?_isSome {t : Instant} (hyear : firstYear < t.date.year) :
    t.previousMicrosecond?.isSome = true := by
  have hday := Date.previous?_isSome hyear
  unfold previousMicrosecond?
  split
  · rfl
  · dsimp only
    split
    · rfl
    · rw [Option.isSome_map]
      exact hday

theorem nextMicrosecond?_isSome {t : Instant} (hyear : t.date.year < lastYear) :
    t.nextMicrosecond?.isSome = true := by
  have hday := Date.next?_isSome hyear
  unfold nextMicrosecond?
  dsimp only
  -- the second ends elsewhere in a leap second, and what follows is the same
  split <;> split
  iterate 2
    · exact Option.isSome_some
    · split
      · exact Option.isSome_some
      · rw [Option.isSome_map]
        exact hday

/-- One microsecond back: in the same second, or from the second before, which may be the last one
of the day before. -/
theorem previousMicrosecond?_cases (h : t.previousMicrosecond? = some s) :
    nanosPerMicrosecond ≤ t.nano ∧ s.date = t.date ∧ s.second = t.second ∧
        s.nano + nanosPerMicrosecond = t.nano ∨
      t.nano < nanosPerMicrosecond ∧ s.nano + nanosPerMicrosecond = t.nano + nanosPerSecond ∧
        (s.date = t.date ∧ s.second + 1 = t.second ∨
          t.date.previous? = some s.date ∧ t.second = 0 ∧ s.second + 1 = secondsPerDay) := by
  have hmicro : nanosPerMicrosecond ≤ nanosPerSecond := by decide
  unfold previousMicrosecond? at h
  split at h
  · cases h
    exact .inl ⟨by omega, rfl, rfl, by dsimp only; omega⟩
  · dsimp only at h
    refine .inr ⟨by omega, ?_⟩
    split at h
    · cases h
      exact ⟨by dsimp only; omega, .inl ⟨rfl, by dsimp only; omega⟩⟩
    · obtain ⟨date, hdate, h⟩ := Option.map_eq_some_iff.1 h
      cases h
      exact ⟨by dsimp only; omega, .inr ⟨hdate, by omega, rfl⟩⟩

/-- One microsecond on: in the same second, or into the second after, which may be the first one of
the day after. A leap second lasts a second longer. -/
theorem nextMicrosecond?_cases (h : t.nextMicrosecond? = some s) :
    s.date = t.date ∧ s.second = t.second ∧ s.nano = t.nano + nanosPerMicrosecond ∨
      (t.nano < nanosPerSecond ∧ t.nano + nanosPerMicrosecond = s.nano + nanosPerSecond ∨
        nanosPerSecond ≤ t.nano ∧ t.nano + nanosPerMicrosecond = s.nano + 2 * nanosPerSecond) ∧
        (s.date = t.date ∧ s.second = t.second + 1 ∨
          t.date.next? = some s.date ∧ t.second + 1 = secondsPerDay ∧ s.second = 0) := by
  have hsecond := t.second_lt
  unfold nextMicrosecond? at h
  dsimp only at h
  split at h <;> split at h
  iterate 2
    · cases h
      exact .inl ⟨rfl, rfl, rfl⟩
    · split at h
      · cases h
        exact .inr ⟨by dsimp only; omega, .inl ⟨rfl, rfl⟩⟩
      · obtain ⟨date, hdate, h⟩ := Option.map_eq_some_iff.1 h
        cases h
        exact .inr ⟨by dsimp only; omega, .inr ⟨hdate, by omega, rfl⟩⟩

/-- One microsecond back from a whole microsecond is a whole microsecond of the same year or the one
before. -/
theorem of_previousMicrosecond? {t s : Instant} (hdvd : nanosPerMicrosecond ∣ t.nano)
    (h : t.previousMicrosecond? = some s) :
    nanosPerMicrosecond ∣ s.nano ∧ t.date.year - 1 ≤ s.date.year ∧
      s.date.year ≤ t.date.year := by
  rcases previousMicrosecond?_cases h with ⟨-, hdate, -, hback⟩ |
    ⟨-, hback, ⟨hdate, -⟩ | ⟨hdate, -⟩⟩
  · simp only [nanosPerMicrosecond] at *
    rw [hdate]
    omega
  · simp only [nanosPerSecond, nanosPerMicrosecond] at *
    rw [hdate]
    omega
  · have hyear := Date.year_of_previous? hdate
    simp only [nanosPerSecond, nanosPerMicrosecond] at *
    omega

/-- One microsecond on from a whole microsecond is a whole microsecond of the same year or the
next. -/
theorem of_nextMicrosecond? {t s : Instant} (hdvd : nanosPerMicrosecond ∣ t.nano)
    (h : t.nextMicrosecond? = some s) :
    nanosPerMicrosecond ∣ s.nano ∧ t.date.year ≤ s.date.year ∧
      s.date.year ≤ t.date.year + 1 := by
  rcases nextMicrosecond?_cases h with ⟨hdate, -, hon⟩ | ⟨hon, ⟨hdate, -⟩ | ⟨hdate, -⟩⟩
  · simp only [nanosPerMicrosecond] at *
    rw [hdate]
    omega
  · simp only [nanosPerSecond, nanosPerMicrosecond] at *
    rw [hdate]
    omega
  · have hyear := Date.year_of_next? hdate
    simp only [nanosPerSecond, nanosPerMicrosecond] at *
    omega

end Instant

end ClipSplice
