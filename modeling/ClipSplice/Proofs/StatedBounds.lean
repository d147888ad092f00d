import ClipSplice.Proofs.RestoredRule
import ClipSplice.Proofs.StatedDates

/-!
# Bounds of time ranges in documents

A document gives the bounds of each time range as values under `start` and `end`. They are listed by
`RuleDocument.bounds` in the order of the ranges. A bound that is missing, or `null`, is open, and
so is one that states the first instant of the year 1 or the last microsecond of the year 9999. All
others are the instants that the values state, provided that the time of day is heeded
(`Rule.rangesRead_of_ofJson`).
-/

namespace ClipSplice

open Document

/-! ## Instants of dates -/

namespace Document.DateFields

/-- An instant has the parts of a date, with the microseconds since the start of the second. -/
structure Names (d : DateFields) (t : Instant) : Prop where
  year : t.date.year = d.year
  month : t.date.month = d.month
  day : t.date.day = d.day
  hour : t.hour = d.hour
  minute : t.minute = d.minute
  second : t.secondOfMinute = d.second
  nano : t.nano = d.microsecond * nanosPerMicrosecond

/-- The first instant of the year 1. -/
def yearOne : DateFields := ⟨1, 1, 1, 0, 0, 0, 0⟩

/-- The last microsecond of the year 9999. -/
def endOf9999 : DateFields := ⟨9999, 12, 31, 23, 59, 59, 999999⟩

variable {d : DateFields} {t : Instant}

theorem Names.eq_ofInstant (h : d.Names t) : d = ofInstant t := by
  have hmicrosecond : d.microsecond = t.nano / nanosPerMicrosecond := by
    rw [h.nano, Nat.mul_div_cancel _ (by decide)]
  obtain ⟨year, month, day, hour, minute, second, microsecond⟩ := d
  simp only [ofInstant, mk.injEq]
  exact ⟨h.year.symm, h.month.symm, h.day.symm, h.hour.symm, h.minute.symm, h.second.symm,
    hmicrosecond⟩

theorem names_of_instant? (h : d.instant? = some t) : d.Names t := by
  obtain ⟨date, hdate, htime⟩ := Option.bind_eq_some_iff.1 h
  obtain ⟨hyear, hmonth, hday⟩ := Date.ofYmd?_eq_some_iff.1 hdate
  unfold Instant.ofTime? at htime
  split at htime
  · rename_i hrange
    cases htime
    constructor
    case year => exact hyear
    case month => exact hmonth
    case day => exact hday
    case nano => rfl
    -- the parts of the seconds since midnight
    all_goals simp only [Instant.hour, Instant.minute, Instant.secondOfMinute]; omega
  · cases htime

end Document.DateFields

/-! ## Bounds -/

open Document.DateFields

/-- The instant that a date stands for as a bound. The two dates that stand for open bounds are the
ends of the calendar, all others the instants with their parts. -/
inductive IsBoundAt : DateFields → Instant → Prop where
  | openStart : IsBoundAt yearOne .first
  | openFinish : IsBoundAt endOf9999 .last
  | other {d : DateFields} {t : Instant} (hstart : d ≠ yearOne) (hfinish : d ≠ endOf9999)
    (hnames : d.Names t) : IsBoundAt d t

/-- What a bound of a time range, as a value that may be missing, comes to: it is open, which is
`extreme`, or the instant for the date that the value states. -/
inductive BoundRead (extreme : Instant) : Option Json → Instant → Prop where
  | missing : BoundRead extreme none extreme
  | null : BoundRead extreme (some .null) extreme
  | date {value : Json} {d : DateFields} {t : Instant} (hstates : States value d)
    (hbound : IsBoundAt d t) : BoundRead extreme (some value) t

/-- The parts of a date make up one instant. -/
theorem Document.DateFields.Names.unique {d : DateFields} {t t' : Instant} (h : d.Names t)
    (h' : d.Names t') : t = t' := by
  have hdate : t.date = t'.date := by
    have hyear := h.year.trans h'.year.symm
    have hmonth := h.month.trans h'.month.symm
    have hday := h.day.trans h'.day.symm
    rw [← Option.some_inj, ← Date.ofYmd?_self, ← Date.ofYmd?_self t'.date, hyear, hmonth, hday]
  have hsecond : t.second = t'.second := by
    have hhour := h.hour.trans h'.hour.symm
    have hminute := h.minute.trans h'.minute.symm
    have hsecond := h.second.trans h'.second.symm
    simp only [Instant.hour, Instant.minute, Instant.secondOfMinute] at hhour hminute hsecond
    omega
  have hnano := h.nano.trans h'.nano.symm
  obtain ⟨date, second, nano, _, _⟩ := t
  obtain ⟨date', second', nano', _, _⟩ := t'
  rw [Instant.mk.injEq]
  exact ⟨hdate, hsecond, hnano⟩

theorem not_states_null (d : DateFields) : ¬ States .null d := by
  rintro (⟨⟨hrecord, -⟩ | ⟨⟨hrecord, -, -⟩, -⟩⟩ | ⟨-, ⟨⟩⟩ | ⟨-, -, ⟨⟩⟩)
  · cases hrecord
  · cases hrecord

theorem IsBoundAt.unique {d : DateFields} {t t' : Instant} (h : IsBoundAt d t)
    (h' : IsBoundAt d t') : t = t' := by
  cases h with
  | openStart =>
    cases h' with
    | openStart => rfl
    | other hstart _ _ => exact absurd rfl hstart
  | openFinish =>
    cases h' with
    | openFinish => rfl
    | other _ hfinish _ => exact absurd rfl hfinish
  | other hstart hfinish hnames =>
    cases h' with
    | openStart => exact absurd rfl hstart
    | openFinish => exact absurd rfl hfinish
    | other _ _ hnames' => exact hnames.unique hnames'

/-- A value comes to one instant at most. -/
theorem BoundRead.unique {extreme t t' : Instant} {value : Option Json}
    (h : BoundRead extreme value t) (h' : BoundRead extreme value t') : t = t' := by
  cases h with
  | missing =>
    cases h'
    rfl
  | null =>
    cases h' with
    | null => rfl
    | date hstates' _ => exact absurd hstates' (not_states_null _)
  | date hstates hbound =>
    cases h' with
    | null => exact absurd hstates (not_states_null _)
    | date hstates' hbound' =>
      obtain rfl := hstates.unique hstates'
      exact hbound.unique hbound'

/-- The date that was read for a bound, if the value was there and not `null`. -/
inductive DateRead : Option Json → Option DateFields → Prop where
  | missing : DateRead none none
  | null : DateRead (some .null) none
  | date {value : Json} {d : DateFields} (hstates : HeedsTime value → States value d) :
    DateRead (some value) (some d)

theorem dateRead_of_optionalField {fields : Fields} {name : String} {room : Nat}
    {bound : Option DateFields}
    (h : optionalField fields name (DateFields.ofJson? room) = some bound) :
    DateRead (fields.lookup name) bound := by
  unfold optionalField withDefault at h
  cases hvalue : fields.lookup name with
  | none =>
    rw [hvalue] at h
    cases h
    exact .missing
  | some value =>
    rw [hvalue] at h
    cases value with
    | null =>
      cases h
      exact .null
    | _ =>
      dsimp only [nullable] at h
      obtain ⟨d, hd, rfl⟩ := Option.map_eq_some_iff.1 h
      exact .date (states_of_ofJson? hd)

/-- The dates that stand for open bounds are those of the instants that are widened. -/
theorem isBoundAt_widened {t : Instant} {d : DateFields} (h : d.instant? = some t) :
    IsBoundAt d (widened t) := by
  have hnames := names_of_instant? h
  unfold widened
  split
  · rename_i hstart
    rw [openStart?_eq, Option.some.injEq] at hstart
    obtain rfl : d = yearOne := by rw [hnames.eq_ofInstant, hstart]; rfl
    exact .openStart
  · rename_i hstart
    split
    · rename_i hfinish
      rw [openFinish?_eq, Option.some.injEq] at hfinish
      obtain rfl : d = endOf9999 := by rw [hnames.eq_ofInstant, hfinish]; rfl
      exact .openFinish
    · rename_i hfinish
      refine .other ?_ ?_ hnames
      · rintro rfl
        exact hstart (h.symm.trans (by decide))
      · rintro rfl
        exact hfinish (h.symm.trans (by decide))

theorem boundRead_iff_of_boundOf {extreme t : Instant} {value : Option Json}
    {bound : Option DateFields} (hread : DateRead value bound) (h : boundOf extreme bound = .ok t)
    (hheeds : ∀ v ∈ value, HeedsTime v) (s : Instant) : BoundRead extreme value s ↔ s = t := by
  suffices hbound : BoundRead extreme value t from
    ⟨fun hs => hs.unique hbound, fun hs => hs ▸ hbound⟩
  cases hread with
  | missing =>
    cases h
    exact .missing
  | null =>
    cases h
    exact .null
  | @date value d hstates =>
    have hstates := hstates (hheeds value rfl)
    unfold boundOf at h
    split at h
    · cases ‹some d = none›
    · rename_i date hdate
      obtain rfl : d = date := Option.some.inj hdate
      split at h
      · rename_i s hinstant
        obtain rfl : widened s = t := Except.ok.inj h
        exact .date hstates (isBoundAt_widened hinstant)
      · cases h

/-! ## Ranges -/

/-- The values that bound a time range. -/
structure BoundValues where
  start : Option Json
  finish : Option Json

/-- The fields of a record; other values have none. -/
def fieldsIn (names : List String) (value : Json) : Fields := (recordOf names value).getD []

/-- The items of the array in a field. -/
def itemsIn (fields : Fields) (name : String) : List Json :=
  ((fields.lookup name).bind itemsOf).getD []

/-- The values that bound the time range in some fields. -/
def boundsIn (fields : Fields) : BoundValues := ⟨fields.lookup "start", fields.lookup "end"⟩

/-- The values that bound the time ranges in a condition, down to some depth. -/
def ConditionDocument.bounds : (depth : Nat) → Json → List BoundValues
  | 0, _ => []
  | depth + 1, value =>
    match choiceOf value with
    | some ("And", content) =>
      (itemsIn (fieldsIn ["submatchers"] content) "submatchers").flatMap (bounds depth)
    | some ("Or", content) =>
      (itemsIn (fieldsIn ["submatchers"] content) "submatchers").flatMap (bounds depth)
    | some ("Not", content) =>
      ((fieldsIn ["matcher"] content).lookup "matcher").toList.flatMap (bounds depth)
    | some ("CurrentTimeMatch", content) => [boundsIn (fieldsIn ["start", "end"] content)]
    | some ("FileTimeMatch", content) =>
      [boundsIn (fieldsIn ["start", "end", "dateregex", "dateformat"] content)]
    | _ => []

/-- The values that bound the time ranges in the condition in a field. -/
def guardBounds (depth : Nat) (fields : Fields) (name : String) : List BoundValues :=
  (fields.lookup name).toList.flatMap (ConditionDocument.bounds depth)

/-- The values that bound the time ranges in a rule, down to some depth. -/
def RuleDocument.bounds : (depth : Nat) → Json → List BoundValues
  | 0, _ => []
  | depth + 1, value =>
    match choiceOf value with
    | some ("RuleList", content) =>
      let fields := fieldsIn ["rules", "cond"] content
      guardBounds depth fields "cond" ++ (itemsIn fields "rules").flatMap (bounds depth)
    | some ("MatchRule", content) =>
      guardBounds depth (fieldsIn ["matcher", "pre", "post"] content) "matcher"
    | _ => []

/-- The bounds of a range are the only instants that the values come to, where these heed the time
of day. -/
structure RangeRead (values : BoundValues) (range : TimeRange) : Prop where
  start : (∀ v ∈ values.start, HeedsTime v) →
    ∀ t, BoundRead .first values.start t ↔ t = range.start
  finish : (∀ v ∈ values.finish, HeedsTime v) →
    ∀ t, BoundRead .last values.finish t ↔ t = range.finish

theorem rangeRead_of_fields {fields : Fields} {room : Nat} {start finish : Option DateFields}
    {range : TimeRange}
    (hstart : optionalField fields "start" (DateFields.ofJson? room) = some start)
    (hfinish : optionalField fields "end" (DateFields.ofJson? room) = some finish)
    (hfirst : boundOf .first start = .ok range.start)
    (hlast : boundOf .last finish = .ok range.finish) : RangeRead (boundsIn fields) range where
  start := boundRead_iff_of_boundOf (dateRead_of_optionalField hstart) hfirst
  finish := boundRead_iff_of_boundOf (dateRead_of_optionalField hfinish) hlast

theorem ConditionDocument.rangesRead_of_mapM {read : Json → Option ConditionDocument}
    {collect : Json → List BoundValues}
    (hread : ∀ value d c, read value = some d → d.toCondition = .ok c →
      List.Forall₂ RangeRead (collect value) c.ranges) {items : List Json}
    {ds : List ConditionDocument} {cs : List Condition} (hitems : items.mapM read = some ds)
    (hds : ConditionDocument.toConditions ds = .ok cs) :
    List.Forall₂ RangeRead (items.flatMap collect) (Condition.rangesOf cs) := by
  induction items generalizing ds cs with
  | nil =>
    cases hitems
    cases hds
    exact .nil
  | cons item items ih =>
    rw [List.mapM_cons] at hitems
    obtain ⟨d, hd, hitems⟩ := Option.bind_eq_some_iff.1 hitems
    obtain ⟨rest, hrest, hitems⟩ := Option.bind_eq_some_iff.1 hitems
    cases hitems
    rw [ConditionDocument.toConditions] at hds
    obtain ⟨c, hc, hds⟩ := exists_of_bind_eq_ok hds
    obtain ⟨cs, hcs, hds⟩ := exists_of_bind_eq_ok hds
    cases hds
    rw [List.flatMap_cons, Condition.rangesOf]
    exact List.rel_append (hread item d c hd hc) (ih hrest hcs)

theorem ConditionDocument.rangesRead_of_ofJson? {room depth : Nat} (hdepth : room ≤ depth)
    {value : Json} {d : ConditionDocument} {c : Condition} (h : ofJson? room value = some d)
    (hc : d.toCondition = .ok c) :
    List.Forall₂ RangeRead (bounds depth value) c.ranges := by
  induction room using Nat.strongRecOn generalizing depth value d c with
  | ind room ih =>
  match room, depth with
  | 0, _ => cases h
  | 1, _ => cases h
  | room + 2, depth + 1 =>
    rw [ofJson?] at h
    obtain ⟨⟨name, content⟩, hchoice, h⟩ := Option.bind_eq_some_iff.1 h
    dsimp only at h
    split at h
    -- both lists of conditions
    case h_1 | h_2 =>
      obtain ⟨fields, hfields, h⟩ := Option.bind_eq_some_iff.1 h
      cases room with
      | zero => cases h
      | succ room =>
        obtain ⟨items, hitems, h⟩ := Option.bind_eq_some_iff.1 h
        obtain ⟨members, hmembers, h⟩ := Option.bind_eq_some_iff.1 h
        cases h
        rw [toCondition] at hc
        obtain ⟨cs, hcs, hc⟩ := exists_of_bind_eq_ok hc
        cases hc
        rw [required] at hitems
        rw [bounds, hchoice]
        simp only [fieldsIn, hfields, Option.getD_some, itemsIn, hitems, Condition.ranges]
        exact rangesRead_of_mapM (fun _ _ _ => ih room (by omega) (by omega)) hmembers hcs
    -- negation
    case h_3 =>
      obtain ⟨fields, hfields, h⟩ := Option.bind_eq_some_iff.1 h
      obtain ⟨inner, hinner, h⟩ := Option.bind_eq_some_iff.1 h
      cases h
      obtain ⟨other, hlookup, hother⟩ := Option.bind_eq_some_iff.1 hinner
      rw [toCondition] at hc
      obtain ⟨c, hinner, hc⟩ := exists_of_bind_eq_ok hc
      cases hc
      rw [bounds, hchoice]
      simp only [fieldsIn, hfields, Option.getD_some, hlookup, Option.toList_some,
        List.flatMap_singleton, Condition.ranges]
      exact ih room (by omega) (by omega) hother hinner
    -- patterns for names
    case h_4 =>
      obtain ⟨fields, -, h⟩ := Option.bind_eq_some_iff.1 h
      obtain ⟨text, -, h⟩ := Option.bind_eq_some_iff.1 h
      obtain ⟨flags, -, h⟩ := Option.bind_eq_some_iff.1 h
      cases h
      rw [toCondition] at hc
      split at hc
      · cases hc
      · obtain ⟨regex, -, hc⟩ := exists_of_bind_eq_ok hc
        cases hc
        rw [bounds, hchoice]
        exact .nil
    case h_5 =>
      obtain ⟨fields, -, h⟩ := Option.bind_eq_some_iff.1 h
      obtain ⟨text, -, h⟩ := Option.bind_eq_some_iff.1 h
      obtain ⟨caseSensitive, -, h⟩ := Option.bind_eq_some_iff.1 h
      cases h
      rw [toCondition] at hc
      obtain ⟨glob, -, hc⟩ := exists_of_bind_eq_ok hc
      cases hc
      rw [bounds, hchoice]
      exact .nil
    -- ranges of the current time and of the date in a name
    case h_6 =>
      obtain ⟨fields, hfields, h⟩ := Option.bind_eq_some_iff.1 h
      obtain ⟨start, hstart, h⟩ := Option.bind_eq_some_iff.1 h
      obtain ⟨finish, hfinish, h⟩ := Option.bind_eq_some_iff.1 h
      cases h
      obtain ⟨range, rfl, hfirst, hlast⟩ := range_of_toCondition (.inl rfl) hc
      rw [bounds, hchoice]
      simp only [fieldsIn, hfields, Option.getD_some, Condition.ranges]
      exact .cons (rangeRead_of_fields hstart hfinish hfirst hlast) .nil
    case h_7 =>
      obtain ⟨fields, hfields, h⟩ := Option.bind_eq_some_iff.1 h
      obtain ⟨start, hstart, h⟩ := Option.bind_eq_some_iff.1 h
      obtain ⟨finish, hfinish, h⟩ := Option.bind_eq_some_iff.1 h
      obtain ⟨pattern, -, h⟩ := Option.bind_eq_some_iff.1 h
      obtain ⟨format, -, h⟩ := Option.bind_eq_some_iff.1 h
      cases h
      obtain ⟨range, rfl, hfirst, hlast⟩ := range_of_toCondition (.inr ⟨_, _, rfl⟩) hc
      rw [bounds, hchoice]
      simp only [fieldsIn, hfields, Option.getD_some, Condition.ranges]
      exact .cons (rangeRead_of_fields hstart hfinish hfirst hlast) .nil
    case h_8 => cases h

/-! ## Rules -/

theorem rangesRead_of_guardOfDocument {fields : Fields} {name : String} {room depth : Nat}
    (hdepth : room ≤ depth) {d : Option ConditionDocument} {c : Option Condition}
    (h : optionalField fields name (ConditionDocument.ofJson? room) = some d)
    (hc : guardOfDocument d = .ok c) :
    List.Forall₂ RangeRead (guardBounds depth fields name) (Rule.guardRanges c) := by
  unfold optionalField withDefault at h
  unfold guardBounds
  cases hvalue : fields.lookup name with
  | none =>
    rw [hvalue] at h
    cases h
    cases hc
    exact .nil
  | some value =>
    rw [hvalue] at h
    dsimp only at h
    rw [Option.toList_some, List.flatMap_singleton]
    cases value with
    | null =>
      cases h
      cases hc
      cases depth <;> exact .nil
    | _ =>
      dsimp only [nullable] at h
      obtain ⟨d, hd, rfl⟩ := Option.map_eq_some_iff.1 h
      obtain ⟨c, hc', hc⟩ := exists_of_bind_eq_ok hc
      cases hc
      exact ConditionDocument.rangesRead_of_ofJson? hdepth hd hc'

theorem RuleDocument.rangesRead_of_mapM {read : Json → Option RuleDocument}
    {collect : Json → List BoundValues}
    (hread : ∀ value d r, read value = some d → d.toRule = .ok r →
      List.Forall₂ RangeRead (collect value) r.ranges) {items : List Json}
    {ds : List RuleDocument} {rs : List Rule} (hitems : items.mapM read = some ds)
    (hds : RuleDocument.toRules ds = .ok rs) :
    List.Forall₂ RangeRead (items.flatMap collect) (Rule.rangesOf rs) := by
  induction items generalizing ds rs with
  | nil =>
    cases hitems
    cases hds
    exact .nil
  | cons item items ih =>
    rw [List.mapM_cons] at hitems
    obtain ⟨d, hd, hitems⟩ := Option.bind_eq_some_iff.1 hitems
    obtain ⟨rest, hrest, hitems⟩ := Option.bind_eq_some_iff.1 hitems
    cases hitems
    rw [RuleDocument.toRules] at hds
    obtain ⟨r, hr, hds⟩ := exists_of_bind_eq_ok hds
    obtain ⟨rs, hrs, hds⟩ := exists_of_bind_eq_ok hds
    cases hds
    rw [List.flatMap_cons, Rule.rangesOf]
    exact List.rel_append (hread item d r hd hr) (ih hrest hrs)

theorem RuleDocument.rangesRead_of_ofJson? {room depth : Nat} (hdepth : room ≤ depth)
    {value : Json} {d : RuleDocument} {r : Rule} (h : ofJson? room value = some d)
    (hr : d.toRule = .ok r) : List.Forall₂ RangeRead (bounds depth value) r.ranges := by
  induction room using Nat.strongRecOn generalizing depth value d r with
  | ind room ih =>
  match room, depth with
  | 0, _ => cases h
  | 1, _ => cases h
  | room + 2, depth + 1 =>
    rw [ofJson?] at h
    obtain ⟨⟨name, content⟩, hchoice, h⟩ := Option.bind_eq_some_iff.1 h
    dsimp only at h
    split at h
    -- a list of rules
    case h_1 =>
      obtain ⟨fields, hfields, h⟩ := Option.bind_eq_some_iff.1 h
      cases room with
      | zero => cases h
      | succ room =>
        obtain ⟨items, hitems, h⟩ := Option.bind_eq_some_iff.1 h
        obtain ⟨rules, hrules, h⟩ := Option.bind_eq_some_iff.1 h
        obtain ⟨condition, hcondition, h⟩ := Option.bind_eq_some_iff.1 h
        cases h
        rw [toRule] at hr
        obtain ⟨c, hc, hr⟩ := exists_of_bind_eq_ok hr
        obtain ⟨rs, hrs, hr⟩ := exists_of_bind_eq_ok hr
        cases hr
        rw [required] at hitems
        rw [bounds, hchoice]
        simp only [fieldsIn, hfields, Option.getD_some, itemsIn, hitems, Rule.ranges]
        exact List.rel_append (rangesRead_of_guardOfDocument (by omega) hcondition hc)
          (rangesRead_of_mapM (fun _ _ _ => ih room (by omega) (by omega)) hrules hrs)
    -- the rule without clips
    case h_2 =>
      obtain ⟨fields, -, h⟩ := Option.bind_eq_some_iff.1 h
      cases h
      cases hr
      rw [bounds, hchoice]
      exact .nil
    -- clips
    case h_3 =>
      obtain ⟨fields, hfields, h⟩ := Option.bind_eq_some_iff.1 h
      obtain ⟨condition, hcondition, h⟩ := Option.bind_eq_some_iff.1 h
      obtain ⟨pre, -, h⟩ := Option.bind_eq_some_iff.1 h
      obtain ⟨post, -, h⟩ := Option.bind_eq_some_iff.1 h
      cases h
      rw [toRule] at hr
      obtain ⟨c, hc, hr⟩ := exists_of_bind_eq_ok hr
      cases hr
      rw [bounds, hchoice]
      simp only [fieldsIn, hfields, Option.getD_some, Rule.ranges]
      exact rangesRead_of_guardOfDocument (by omega) hcondition hc
    case h_4 => cases h

/-- The time ranges of a rule that was read from a document are bounded as the values in the
document state it, where these heed the time of day. -/
theorem Rule.rangesRead_of_ofJson {text : String} {r : Rule} (h : Rule.ofJson text = .ok r) :
    ∃ json, Json.ofText? text = some json ∧
      List.Forall₂ RangeRead (RuleDocument.bounds depthLimit json) r.ranges := by
  unfold Rule.ofJson at h
  split at h
  · rename_i document hdocument
    obtain ⟨json, hjson, hread⟩ := Option.bind_eq_some_iff.1 hdocument
    exact ⟨json, hjson, RuleDocument.rangesRead_of_ofJson? (Nat.le_refl _) hread h⟩
  · cases h

/-! ### A range that ends in a leap second -/

/-- A rule that plays clips outside a time range. -/
def outsideRange (bounds : List (Option String × Json)) : Json :=
  .object [(some "MatchRule", .object [(some "matcher", .object [(some "Not", .object
    [(some "matcher", .object [(some "CurrentTimeMatch", .object bounds)])])])])]

/-- The first day of the year 1, which is an open start. -/
def openStartDocument : Json :=
  .object [(some "day", whole 1), (some "month", whole 1), (some "year", whole 1)]

/-- Half a second into the leap second of 2016, with a member that nobody asks for. -/
def leapSecondDocument : Json :=
  .object [(some "datetime", .object [(some "microsecond", whole 1500000),
    (some "second", whole 59), (some "minute", whole 59), (some "hour", whole 23),
    (some "zone", .string (some "UTC")), (some "day", whole 31), (some "month", whole 12),
    (some "year", whole 2016)])]

/-- Clips outside a range that ends in the leap second. -/
def leapSecondRule : Json :=
  outsideRange [(some "end", leapSecondDocument), (some "start", openStartDocument)]

theorem spelled_leapSecondRule : leapSecondRule.Spelled := by
  simp [leapSecondRule, outsideRange, leapSecondDocument, openStartDocument, whole, Json.Spelled,
    Json.MembersSpelled]

theorem states_openStartDocument : States openStartDocument yearOne := by
  refine .itself (.plain ⟨.object ?_, ⟨rfl, rfl, rfl, rfl⟩, ?_⟩ ?_)
  · simp [Holds, yearOne]
  · constructor <;> decide
  · simp [openStartDocument, NoTime, timeNames, Carries]

theorem heedsTime_openStartDocument : HeedsTime openStartDocument where
  itself _ _ := .inl (by simp [openStartDocument, NoTime, timeNames, Carries])
  datetime := by
    rintro inner ⟨hholds⟩
    simp [Holds] at hholds
  date := by
    rintro inner d ⟨hholds⟩
    simp [Holds] at hholds

/-- The parts of the leap second. -/
def leapSecondFields : DateFields := ⟨2016, 12, 31, 23, 59, 59, 1500000⟩

theorem fullDate_leapSecond {inner : Json} (h : HasMember "datetime" inner leapSecondDocument) :
    FullDate inner leapSecondFields := by
  obtain ⟨hholds⟩ := h
  obtain rfl : _ = inner := by simpa [Holds] using hholds
  refine ⟨.object ?_, ?_⟩
  · simp [Holds, leapSecondFields]
  · constructor <;> decide

theorem not_plainDate_leapSecondDocument (d : DateFields) : ¬ PlainDate leapSecondDocument d := by
  rintro ⟨⟨hholds⟩, -, -⟩
  simp [Holds] at hholds

theorem heedsTime_leapSecondDocument : HeedsTime leapSecondDocument where
  itself d hplain := absurd hplain (not_plainDate_leapSecondDocument d)
  datetime _ hmember := .inr ⟨leapSecondFields, fullDate_leapSecond hmember⟩
  date := by
    rintro inner d ⟨hholds⟩
    simp [Holds] at hholds

/-- The range is open at its start and ends at the instant that the document states. -/
theorem Rule.rangesRead_of_ofJson_leapSecond :
    HeedsTime openStartDocument ∧ HeedsTime leapSecondDocument ∧
      ∃ r range, Rule.ofJson leapSecondRule.toText = .ok r ∧ r.ranges = [range] ∧
        range.start = .first ∧
        range.finish = ⟨⟨2016, 12, 31, by decide⟩, 86399, 1500000000, by decide, by decide⟩ := by
  have hread : (Rule.ofJson leapSecondRule.toText).isOk = true := by
    rw [Rule.ofJson, Json.ofText?_toText spelled_leapSecondRule, Option.bind_some]
    decide +kernel
  have hbounds : RuleDocument.bounds depthLimit leapSecondRule =
      [⟨some openStartDocument, some leapSecondDocument⟩] := rfl
  refine ⟨heedsTime_openStartDocument, heedsTime_leapSecondDocument, ?_⟩
  generalize hrule : Rule.ofJson leapSecondRule.toText = found at hread ⊢
  cases found with
  | error fault => cases hread
  | ok r =>
    obtain ⟨json, hjson, hranges⟩ := Rule.rangesRead_of_ofJson hrule
    obtain rfl : leapSecondRule = json :=
      Option.some.inj ((Json.ofText?_toText spelled_leapSecondRule).symm.trans hjson)
    rw [hbounds] at hranges
    obtain ⟨range, rest, hrange, hrest, hsame⟩ := List.forall₂_cons_left_iff.1 hranges
    cases hrest
    refine ⟨r, range, rfl, hsame, ?_, ?_⟩
    · refine ((hrange.start ?_ _).1 (.date states_openStartDocument .openStart)).symm
      rintro value ⟨⟩
      exact heedsTime_openStartDocument
    · have hmember : HasMember "datetime" _ leapSecondDocument := .object rfl
      refine ((hrange.finish ?_ _).1 (.date (.datetime not_plainDate_leapSecondDocument hmember
        (fullDate_leapSecond hmember)) (.other (by decide) (by decide) ?_))).symm
      · rintro value ⟨⟩
        exact heedsTime_leapSecondDocument
      · constructor <;> rfl

/-! ### A time of day that is not heeded -/

/-- Half past noon without microseconds. -/
def partialTimeDocument : Json :=
  .object [(some "year", whole 2005), (some "month", whole 12), (some "day", whole 1),
    (some "hour", whole 12), (some "minute", whole 30), (some "second", whole 0)]

/-- Half past noon as a date. -/
def wrappedTimeDocument : Json :=
  .object [(some "date", .object [(some "year", whole 2005), (some "month", whole 12),
    (some "day", whole 1), (some "hour", whole 12), (some "minute", whole 30),
    (some "second", whole 0), (some "microsecond", whole 0)])]

/-- Clips outside a range from the one to the other. -/
def unheededRule : Json :=
  outsideRange [(some "start", partialTimeDocument), (some "end", wrappedTimeDocument)]

theorem spelled_unheededRule : unheededRule.Spelled := by
  simp [unheededRule, outsideRange, partialTimeDocument, wrappedTimeDocument, whole, Json.Spelled,
    Json.MembersSpelled]

/-- A time of day that is not whole, and one under the name `date`, are passed over: both bounds are
the start of the day. -/
theorem Rule.ofJson_unheededTime :
    ∃ r, Rule.ofJson unheededRule.toText = .ok r ∧
      r.ranges.map (fun range => (range.start, range.finish)) =
        [(.midnight ⟨2005, 12, 1, by decide⟩, .midnight ⟨2005, 12, 1, by decide⟩)] := by
  have hread : (Rule.ofJson unheededRule.toText).toOption.map
        (fun r => r.ranges.map fun range => (range.start, range.finish)) =
      some [(.midnight ⟨2005, 12, 1, by decide⟩, .midnight ⟨2005, 12, 1, by decide⟩)] := by
    rw [Rule.ofJson, Json.ofText?_toText spelled_unheededRule, Option.bind_some]
    decide +kernel
  generalize Rule.ofJson unheededRule.toText = found at hread ⊢
  cases found with
  | error fault => cases hread
  | ok r => exact ⟨r, rfl, Option.some.inj hread⟩

end ClipSplice
