import ClipSplice.Proofs.DocumentReading

/-!
# Dates in documents

The forms in which a document states a date, apart from how they are read: with a time of day or
without, as an object or an array, perhaps held under a name. A date is read in the first of its
forms that fits (`DateFields.ofJson?_cases`). The form without a time of day passes over members
that it does not know, and so also over those of a time of day that is not whole. Where a time of
day is heeded, the date that is read is the one that is stated (`DateFields.states_of_ofJson?`).
-/

namespace ClipSplice.Document

/-! ## Members of objects -/

/-- An object has a member of a certain name just once. -/
def Holds (members : List (Option String × Json)) (name : String) (value : Json) : Prop :=
  members.filter (fun member => member.1 = some name) = [(some name, value)]

/-- An object has a member of a certain name. -/
def Carries (members : List (Option String × Json)) (name : String) : Prop :=
  ∃ value, (some name, value) ∈ members

/-- The fields that are picked from an object are all its members of their names. -/
theorem filter_of_fieldsOfMembers {names : List String} {members : List (Option String × Json)}
    {fields : Fields} (h : fieldsOfMembers names members = some fields) {name : String}
    (hname : name ∈ names) :
    members.filter (fun member => member.1 = some name) =
      (fields.lookup name).toList.map fun value => (some name, value) := by
  induction members generalizing fields with
  | nil =>
    cases h
    rfl
  | cons member rest ih =>
    obtain ⟨name', value⟩ := member
    simp only [fieldsOfMembers, Option.bind_eq_bind, Option.bind_eq_some_iff] at h
    obtain ⟨name', rfl, more, hmore, h⟩ := h
    have hrest := ih hmore
    split at h
    · -- a member that nobody asked for
      rename_i hunknown
      cases h
      have hne : name' ≠ name := by
        rintro rfl
        simp [hname] at hunknown
      rw [List.filter_cons_of_neg (by simp [hne]), hrest]
    · split at h
      · cases h
      · rename_i hnew
        cases h
        by_cases hsame : name' = name
        · subst hsame
          rw [Option.not_isSome_iff_eq_none] at hnew
          rw [List.filter_cons_of_pos (by simp), hrest, hnew, List.lookup_cons_self]
          rfl
        · rw [List.filter_cons_of_neg (by simp [hsame]), hrest, List.lookup_cons,
            beq_eq_false_iff_ne.2 (Ne.symm hsame)]

theorem holds_iff_lookup {names : List String} {members : List (Option String × Json)}
    {fields : Fields} (h : fieldsOfMembers names members = some fields) {name : String}
    (hname : name ∈ names) {value : Json} :
    Holds members name value ↔ fields.lookup name = some value := by
  rw [Holds, filter_of_fieldsOfMembers h hname]
  cases fields.lookup name <;> simp

/-- Fields can be picked from an object when none of them is given twice. -/
theorem exists_fieldsOfMembers {names : List String} {members : List (Option String × Json)}
    (hnamed : ∀ member ∈ members, member.1.isSome)
    (honce : ∀ name ∈ names, (members.filter fun member => member.1 = some name).length ≤ 1) :
    ∃ fields, fieldsOfMembers names members = some fields := by
  induction members with
  | nil => exact ⟨[], rfl⟩
  | cons member rest ih =>
    obtain ⟨name, value⟩ := member
    obtain ⟨hfirst, hrest⟩ := List.forall_mem_cons.1 hnamed
    obtain ⟨name, rfl⟩ := Option.isSome_iff_exists.1 hfirst
    obtain ⟨fields, hfields⟩ := ih hrest fun name' hname' =>
      Nat.le_trans ((List.sublist_cons_self _ _).filter _).length_le (honce name' hname')
    rw [fieldsOfMembers]
    simp only [Option.bind_eq_bind, Option.bind_some, hfields]
    split
    · exact ⟨_, rfl⟩
    · rename_i hknown
      have hknown : name ∈ names := by simpa using hknown
      rw [if_neg]
      · exact ⟨_, rfl⟩
      · -- another member of this name would be the second one
        have hone := honce name hknown
        rw [List.filter_cons_of_pos (by simp), filter_of_fieldsOfMembers hfields hknown,
          List.length_cons, List.length_map] at hone
        cases hlookup : fields.lookup name with
        | none => simp
        | some other => simp [hlookup] at hone

theorem Holds.length_le {members : List (Option String × Json)} {name : String} {value : Json}
    (h : Holds members name value) :
    (members.filter fun member => member.1 = some name).length ≤ 1 := by
  rw [h]
  rfl

theorem Holds.unique {members : List (Option String × Json)} {name : String} {value value' : Json}
    (h : Holds members name value) (h' : Holds members name value') : value = value' := by
  rw [Holds, h] at h'
  simpa using h'

theorem Holds.mem {members : List (Option String × Json)} {name : String} {value : Json}
    (h : Holds members name value) : (some name, value) ∈ members :=
  (List.mem_filter.1 (h ▸ List.mem_singleton_self _)).1

/-- The members of an object that fits have names, and their values fit. -/
theorem fits_of_mem {room : Nat} {members : List (Option String × Json)}
    (h : Json.membersFit room members = true) {member : Option String × Json}
    (hmember : member ∈ members) : member.1.isSome ∧ member.2.fits room = true := by
  induction members with
  | nil => cases hmember
  | cons first rest ih =>
    obtain ⟨name, value⟩ := first
    rw [Json.membersFit, Bool.and_eq_true, Bool.and_eq_true] at h
    obtain ⟨⟨hname, hvalue⟩, hrest⟩ := h
    obtain rfl | hmember := List.mem_cons.1 hmember
    · exact ⟨hname, hvalue⟩
    · exact ih hrest hmember

/-! ## Records -/

/-- A value is a record with certain values under certain names: an object that has each of the
names just once, whatever else it has, or an array of these values and nothing else. -/
inductive IsRecord (names : List String) (values : List Json) : Json → Prop where
  | object {members : List (Option String × Json)}
    (holds : ∀ field ∈ names.zip values, Holds members field.1 field.2) :
    IsRecord names values (.object members)
  | array : IsRecord names values (.array values)

theorem IsRecord.items_eq {names : List String} {values items : List Json}
    (h : IsRecord names values (.array items)) : items = values := by
  cases h
  rfl

/-- A value is a record with certain values under certain names in one way. -/
theorem IsRecord.unique {names : List String} {values values' : List Json} {value : Json}
    (hlength : values.length = names.length) (hlength' : values'.length = names.length)
    (h : IsRecord names values value) (h' : IsRecord names values' value) : values = values' := by
  cases h with
  | object hholds =>
    obtain ⟨hholds'⟩ := h'
    refine List.ext_getElem (hlength.trans hlength'.symm) fun i hi hi' => ?_
    have hname : i < names.length := hlength ▸ hi
    have hfield : ∀ {values : List Json} (hi : i < values.length),
        (names[i], values[i]) ∈ names.zip values := fun hi =>
      List.mem_of_getElem (List.getElem_zip (h := by rw [List.length_zip]; omega))
    exact (hholds _ (hfield hi)).unique (hholds' _ (hfield hi'))
  | array =>
    cases h'
    rfl

theorem lookup_zip_self {names : List String} (hnames : names.Nodup) {values : List Json}
    {field : String × Json} (h : field ∈ names.zip values) :
    (names.zip values).lookup field.1 = some field.2 := by
  induction names generalizing values with
  | nil => cases h
  | cons name names ih =>
    obtain ⟨hnew, hnames⟩ := List.nodup_cons.1 hnames
    match values with
    | [] => cases h
    | value :: values =>
      rw [List.zip_cons_cons] at h ⊢
      obtain rfl | hrest := List.mem_cons.1 h
      · exact List.lookup_cons_self
      · have hne : field.1 ≠ name := fun hsame => hnew (hsame ▸ (List.of_mem_zip hrest).1)
        rw [List.lookup_cons, beq_eq_false_iff_ne.2 hne]
        exact ih hnames hrest

/-- The items of an array are the values that are found in it, when there is one for each name. -/
theorem eq_of_lookup_zip {names : List String} (hnames : names.Nodup) {items values : List Json}
    (hle : items.length ≤ names.length) (hlength : values.length = names.length)
    (h : ∀ field ∈ names.zip values, (names.zip items).lookup field.1 = some field.2) :
    items = values := by
  induction names generalizing items values with
  | nil =>
    have hitems := List.eq_nil_of_length_eq_zero (Nat.le_zero.1 hle)
    have hvalues := List.eq_nil_of_length_eq_zero hlength
    rw [hitems, hvalues]
  | cons name names ih =>
    obtain ⟨hnew, hnames⟩ := List.nodup_cons.1 hnames
    match values, items with
    | [], _ => cases hlength
    | value :: values, [] => cases h (name, value) List.mem_cons_self
    | value :: values, item :: items =>
      have hfirst := h (name, value) List.mem_cons_self
      rw [List.zip_cons_cons, List.lookup_cons_self, Option.some.injEq] at hfirst
      have hrest : items = values := by
        refine ih hnames (Nat.le_of_succ_le_succ hle) (Nat.succ.inj hlength) fun field hfield => ?_
        have hne : field.1 ≠ name := fun hsame => hnew (hsame ▸ (List.of_mem_zip hfield).1)
        have hlookup := h field (List.mem_cons_of_mem _ hfield)
        rwa [List.zip_cons_cons, List.lookup_cons, beq_eq_false_iff_ne.2 hne] at hlookup
      rw [hfirst, hrest]

/-- All members of an object have names; other values have no members. -/
def Named : Json → Prop
  | .object members => ∀ member ∈ members, member.1.isSome
  | _ => True

/-- The fields that are read from a record are its values under their names. -/
theorem isRecord_iff (names : List String) (hnames : names.Nodup) (values : List Json)
    (hlength : values.length = names.length) {value : Json} (hnamed : Named value) :
    IsRecord names values value ↔ ∃ fields, recordOf names value = some fields ∧
      ∀ field ∈ names.zip values, fields.lookup field.1 = some field.2 := by
  constructor
  · rintro (hholds | _)
    · rename_i members
      have honce : ∀ name ∈ names,
          (members.filter fun member => member.1 = some name).length ≤ 1 := by
        intro name hname
        rw [← List.map_fst_zip (Nat.le_of_eq hlength.symm)] at hname
        obtain ⟨field, hfield, rfl⟩ := List.mem_map.1 hname
        exact (hholds field hfield).length_le
      obtain ⟨fields, hfields⟩ := exists_fieldsOfMembers hnamed honce
      refine ⟨fields, hfields, fun field hfield => ?_⟩
      exact (holds_iff_lookup hfields (List.of_mem_zip hfield).1).1 (hholds field hfield)
    · refine ⟨names.zip values, ?_, fun field => lookup_zip_self hnames⟩
      rw [recordOf, if_pos (Nat.le_of_eq hlength)]
  · rintro ⟨fields, hrecord, hlookup⟩
    cases value with
    | object members =>
      refine .object fun field hfield => ?_
      exact (holds_iff_lookup hrecord (List.of_mem_zip hfield).1).2 (hlookup field hfield)
    | array items =>
      rw [recordOf, Option.ite_none_right_eq_some, Option.some.injEq] at hrecord
      obtain ⟨hle, rfl⟩ := hrecord
      rw [eq_of_lookup_zip hnames hle hlength hlookup]
      exact .array
    | _ => cases hrecord

theorem required_eq_some_iff {α : Type} {fields : Fields} {name : String} {read : Json → Option α}
    {a : α} : required fields name read = some a ↔
      ∃ value, fields.lookup name = some value ∧ read value = some a := Option.bind_eq_some_iff

namespace DateFields

/-! ## Parts of dates -/

/-- A whole number as a value. -/
def whole (n : Int) : Json := .number (.integer n)

theorem whole_inj {m n : Int} : whole m = whole n ↔ m = n := by
  simp only [whole, Json.number.injEq, JsonNumber.integer.injEq]

theorem partOf_eq_some_iff {value : Json} {n : Nat} :
    partOf value = some n ↔ value = whole n ∧ n < 2 ^ 32 := by
  constructor
  · intro h
    obtain ⟨i, hi, rfl⟩ := Option.map_eq_some_iff.1 h
    unfold integerOf at hi
    split at hi
    · split at hi
      · rename_i hrange
        cases hi
        simp only [Nat.pow_eq] at hrange
        exact ⟨by rw [Int.toNat_of_nonneg hrange.1, whole], by omega⟩
      · cases hi
    · cases hi
  · rintro ⟨rfl, hn⟩
    exact partOf_natCast hn

theorem yearOf_eq_some_iff {value : Json} {year : Int} :
    yearOf value = some year ↔
      value = whole year ∧ -2147483648 ≤ year ∧ year ≤ 2147483647 := by
  constructor
  · intro h
    unfold yearOf integerOf at h
    split at h
    · split at h
      · rename_i hrange
        cases h
        exact ⟨rfl, hrange⟩
      · cases h
    · cases h
  · rintro ⟨rfl, hge, hle⟩
    exact yearOf_of_storable hge hle

/-! ## Forms of dates -/

/-- The members that state a time of day. -/
def timeNames : List String := ["hour", "minute", "second", "microsecond"]

/-- The time of day is the start of the day. -/
structure IsMidnight (d : DateFields) : Prop where
  hour : d.hour = 0
  minute : d.minute = 0
  second : d.second = 0
  microsecond : d.microsecond = 0

/-- A value that states a date with its time of day. -/
structure FullDate (value : Json) (d : DateFields) : Prop where
  isRecord : IsRecord ["year", "month", "day", "hour", "minute", "second", "microsecond"]
    [whole d.year, whole d.month, whole d.day, whole d.hour, whole d.minute, whole d.second,
      whole d.microsecond] value
  storable : d.Storable

/-- A value that states year, month and day and is taken for the start of that day. -/
structure PlainDate (value : Json) (d : DateFields) : Prop where
  isRecord : IsRecord ["year", "month", "day"] [whole d.year, whole d.month, whole d.day] value
  isMidnight : d.IsMidnight
  storable : d.Storable

variable {value : Json} {d : DateFields}

theorem full?_eq_some_iff (hnamed : Named value) : full? value = some d ↔ FullDate value d := by
  have hrecord := isRecord_iff ["year", "month", "day", "hour", "minute", "second", "microsecond"]
    (by decide) [whole d.year, whole d.month, whole d.day, whole d.hour, whole d.minute,
      whole d.second, whole d.microsecond] rfl hnamed
  simp only [List.zip_cons_cons, List.zip_nil_right, List.forall_mem_cons, List.not_mem_nil,
    false_implies, implies_true, and_true] at hrecord
  constructor
  · intro h
    simp only [full?, Option.bind_eq_bind, Option.bind_eq_some_iff, required_eq_some_iff,
      partOf_eq_some_iff, yearOf_eq_some_iff] at h
    obtain ⟨fields, hfields, year, ⟨_, hyear, rfl, hyearRange⟩, month, ⟨_, hmonth, rfl, hmonthLt⟩,
      day, ⟨_, hday, rfl, hdayLt⟩, hour, ⟨_, hhour, rfl, hhourLt⟩, minute,
      ⟨_, hminute, rfl, hminuteLt⟩, second, ⟨_, hsecond, rfl, hsecondLt⟩, microsecond,
      ⟨_, hmicrosecond, rfl, hmicrosecondLt⟩, hd⟩ := h
    cases hd
    exact ⟨hrecord.2 ⟨fields, hfields, hyear, hmonth, hday, hhour, hminute, hsecond, hmicrosecond⟩,
      hyearRange.1, hyearRange.2, hmonthLt, hdayLt, hhourLt, hminuteLt, hsecondLt, hmicrosecondLt⟩
  · rintro ⟨hisRecord, hstorable⟩
    obtain ⟨fields, hfields, hyear, hmonth, hday, hhour, hminute, hsecond, hmicrosecond⟩ :=
      hrecord.1 hisRecord
    have hpart : ∀ {n : Nat}, n < 2 ^ 32 → partOf (whole n) = some n := partOf_natCast
    have hyearOf : yearOf (whole d.year) = some d.year :=
      yearOf_of_storable hstorable.year_ge hstorable.year_le
    rw [full?, hfields]
    simp only [Option.bind_eq_bind, Option.bind_some, required, hyear, hmonth, hday, hhour, hminute,
      hsecond, hmicrosecond, hyearOf, hpart hstorable.month_lt, hpart hstorable.day_lt,
      hpart hstorable.hour_lt, hpart hstorable.minute_lt, hpart hstorable.second_lt,
      hpart hstorable.microsecond_lt]
    rfl

theorem plain?_eq_some_iff (hnamed : Named value) : plain? value = some d ↔ PlainDate value d := by
  have hrecord := isRecord_iff ["year", "month", "day"] (by decide)
    [whole d.year, whole d.month, whole d.day] rfl hnamed
  simp only [List.zip_cons_cons, List.zip_nil_right, List.forall_mem_cons, List.not_mem_nil,
    false_implies, implies_true, and_true] at hrecord
  constructor
  · intro h
    simp only [plain?, Option.bind_eq_bind, Option.bind_eq_some_iff, required_eq_some_iff,
      partOf_eq_some_iff, yearOf_eq_some_iff] at h
    obtain ⟨fields, hfields, year, ⟨_, hyear, rfl, hyearRange⟩, month, ⟨_, hmonth, rfl, hmonthLt⟩,
      day, ⟨_, hday, rfl, hdayLt⟩, hd⟩ := h
    cases hd
    exact ⟨hrecord.2 ⟨fields, hfields, hyear, hmonth, hday⟩, ⟨rfl, rfl, rfl, rfl⟩,
      ⟨hyearRange.1, hyearRange.2, hmonthLt, hdayLt, Nat.two_pow_pos 32, Nat.two_pow_pos 32,
        Nat.two_pow_pos 32, Nat.two_pow_pos 32⟩⟩
  · rintro ⟨hisRecord, hmidnight, hstorable⟩
    obtain ⟨fields, hfields, hyear, hmonth, hday⟩ := hrecord.1 hisRecord
    have hpart : ∀ {n : Nat}, n < 2 ^ 32 → partOf (whole n) = some n := partOf_natCast
    have hyearOf : yearOf (whole d.year) = some d.year :=
      yearOf_of_storable hstorable.year_ge hstorable.year_le
    rw [plain?, hfields]
    simp only [Option.bind_eq_bind, Option.bind_some, required, hyear, hmonth, hday, hyearOf,
      hpart hstorable.month_lt, hpart hstorable.day_lt]
    obtain ⟨year, month, day, hour, minute, second, microsecond⟩ := d
    obtain ⟨rfl, rfl, rfl, rfl⟩ := hmidnight
    rfl

/-! ## Dates under a name -/

/-- A value is an object that has a member of a certain name just once, with a certain value. -/
inductive HasMember (name : String) (inner : Json) : Json → Prop where
  | object {members : List (Option String × Json)} (holds : Holds members name inner) :
    HasMember name inner (.object members)

theorem HasMember.unique {name : String} {inner inner' : Json} (h : HasMember name inner value)
    (h' : HasMember name inner' value) : inner = inner' := by
  obtain ⟨hholds⟩ := h
  obtain ⟨hholds'⟩ := h'
  exact hholds.unique hholds'

theorem named_of_fits {room : Nat} (h : value.fits room = true) : Named value := by
  cases value with
  | object members =>
    rw [Json.fits, Bool.and_eq_true] at h
    intro member hmember
    exact (fits_of_mem h.2 hmember).1
  | _ => trivial

theorem wrapped?_eq_some_iff {name : String} {read : Json → Option DateFields}
    (hnamed : Named value) : wrapped? name read value = some d ↔
      ∃ inner, HasMember name inner value ∧ read inner = some d := by
  cases value with
  | object members =>
    have hread : wrapped? name read (.object members) = some d ↔
        ∃ fields, fieldsOfMembers [name] members = some fields ∧
          ∃ inner, fields.lookup name = some inner ∧ read inner = some d := by
      simp only [wrapped?, Option.bind_eq_bind, Option.bind_eq_some_iff, required_eq_some_iff]
    rw [hread]
    constructor
    · rintro ⟨fields, hfields, inner, hlookup, hinner⟩
      exact ⟨inner, .object ((holds_iff_lookup hfields (List.mem_singleton_self name)).2 hlookup),
        hinner⟩
    · rintro ⟨inner, ⟨hholds⟩, hinner⟩
      have honce : ∀ name' ∈ [name],
          (members.filter fun member => member.1 = some name').length ≤ 1 := by
        intro name' hname'
        rw [List.mem_singleton.1 hname']
        exact hholds.length_le
      obtain ⟨fields, hfields⟩ := exists_fieldsOfMembers hnamed honce
      exact ⟨fields, hfields, inner,
        (holds_iff_lookup hfields (List.mem_singleton_self name)).1 hholds, hinner⟩
  | _ =>
    constructor
    · intro h
      cases h
    · rintro ⟨inner, hmember, -⟩
      cases hmember

theorem HasMember.named {room : Nat} (h : value.fits room = true) {name : String} {inner : Json}
    (hmember : HasMember name inner value) : Named inner := by
  obtain ⟨hholds⟩ := hmember
  rw [Json.fits, Bool.and_eq_true] at h
  exact named_of_fits (fits_of_mem h.2 hholds.mem).2

/-- A date is read in the first of its forms that the value has. -/
theorem ofJson?_cases {room : Nat} (h : ofJson? room value = some d) :
    FullDate value d ∨
    ((∀ d', ¬ FullDate value d') ∧ PlainDate value d) ∨
    ((∀ d', ¬ PlainDate value d') ∧ ∃ inner, HasMember "datetime" inner value ∧ FullDate inner d) ∨
    ((∀ d', ¬ PlainDate value d') ∧
      (∀ inner d', HasMember "datetime" inner value → ¬ FullDate inner d') ∧
      ∃ inner, HasMember "date" inner value ∧ PlainDate inner d) := by
  unfold ofJson? at h
  rw [Option.ite_none_right_eq_some] at h
  obtain ⟨hfits, h⟩ := h
  have hnamed := named_of_fits hfits
  have hdatetime : ∀ {d'}, wrapped? "datetime" full? value = some d' ↔
      ∃ inner, HasMember "datetime" inner value ∧ FullDate inner d' := by
    intro d'
    rw [wrapped?_eq_some_iff hnamed]
    exact exists_congr fun inner =>
      and_congr_right fun hmember => full?_eq_some_iff (hmember.named hfits)
  have hdate : wrapped? "date" plain? value = some d ↔
      ∃ inner, HasMember "date" inner value ∧ PlainDate inner d := by
    rw [wrapped?_eq_some_iff hnamed]
    exact exists_congr fun inner =>
      and_congr_right fun hmember => plain?_eq_some_iff (hmember.named hfits)
  simp only [Option.orElse_eq_orElse, Option.orElse_eq_or, Option.or_eq_some_iff,
    Option.eq_none_iff_forall_ne_some, hdate, hdatetime, ne_eq, full?_eq_some_iff hnamed,
    plain?_eq_some_iff hnamed] at h
  obtain hfull | ⟨hnotFull, hplain | ⟨hnotPlain, hwrapped | ⟨hnotWrapped, hwrapped⟩⟩⟩ := h
  · exact .inl hfull
  · exact .inr (.inl ⟨hnotFull, hplain⟩)
  · exact .inr (.inr (.inl ⟨hnotPlain, hwrapped⟩))
  · exact .inr (.inr (.inr ⟨hnotPlain,
      fun inner d' hmember hfull => hnotWrapped d' ⟨inner, hmember, hfull⟩, hwrapped⟩))

/-! ## Stated dates -/

/-- No member of a value states a part of a time of day. -/
def NoTime : Json → Prop
  | .object members => ∀ name ∈ timeNames, ¬ Carries members name
  | _ => True

/-- A value states a date with its time of day, or it states the date alone. -/
inductive StatesExactly (value : Json) (d : DateFields) : Prop where
  | full (hfull : FullDate value d)
  | plain (hplain : PlainDate value d) (hnone : NoTime value)

/-- A value states a date, itself or in what it holds under a name. What it holds as `datetime` goes
before what it holds as `date`, and the year, month and day in the value itself before both. -/
inductive States (value : Json) (d : DateFields) : Prop where
  | itself (hexact : StatesExactly value d)
  | datetime (hitself : ∀ d', ¬ PlainDate value d') {inner : Json}
    (hmember : HasMember "datetime" inner value) (hfull : FullDate inner d)
  | date (hitself : ∀ d', ¬ PlainDate value d')
    (hdatetime : ∀ inner, HasMember "datetime" inner value →
      NoTime inner ∧ ∀ d', ¬ FullDate inner d')
    {inner : Json} (hmember : HasMember "date" inner value) (hexact : StatesExactly inner d)

/-- Where a value has parts of a time of day, it has all of them: next to the year, month and day in
the value itself, and in what it holds as `datetime`. A value that holds a `date` has none there, or
all of those of midnight. -/
structure HeedsTime (value : Json) : Prop where
  itself : ∀ d, PlainDate value d → NoTime value ∨ ∃ d', FullDate value d'
  datetime : ∀ inner, HasMember "datetime" inner value → NoTime inner ∨ ∃ d, FullDate inner d
  date : ∀ inner d, HasMember "date" inner value → PlainDate inner d → StatesExactly inner d

/-- The date that is read is the one that is stated, if the time of day is heeded. -/
theorem states_of_ofJson? {room : Nat} (h : ofJson? room value = some d)
    (hheeds : HeedsTime value) : States value d := by
  obtain hfull | ⟨hnotFull, hplain⟩ | ⟨hitself, inner, hmember, hfull⟩ |
    ⟨hitself, hnotFull, inner, hmember, hplain⟩ := ofJson?_cases h
  · exact .itself (.full hfull)
  · obtain hnone | ⟨d', hfull⟩ := hheeds.itself d hplain
    · exact .itself (.plain hplain hnone)
    · exact absurd hfull (hnotFull d')
  · exact .datetime hitself hmember hfull
  · refine .date hitself (fun other hother => ?_) hmember (hheeds.date inner d hmember hplain)
    obtain hnone | ⟨d', hfull⟩ := hheeds.datetime other hother
    · exact ⟨hnone, fun d' => hnotFull other d' hother⟩
    · exact absurd hfull (hnotFull other d' hother)

/-! ### A value states one date -/

theorem FullDate.unique {d' : DateFields} (h : FullDate value d) (h' : FullDate value d') :
    d = d' := by
  have hvalues := h.isRecord.unique rfl rfl h'.isRecord
  simp only [List.cons.injEq, whole_inj, Int.natCast_inj, and_true] at hvalues
  obtain ⟨hyear, hmonth, hday, hhour, hminute, hsecond, hmicrosecond⟩ := hvalues
  obtain ⟨year, month, day, hour, minute, second, microsecond⟩ := d
  rw [mk.injEq]
  exact ⟨hyear, hmonth, hday, hhour, hminute, hsecond, hmicrosecond⟩

theorem PlainDate.unique {d' : DateFields} (h : PlainDate value d) (h' : PlainDate value d') :
    d = d' := by
  have hvalues := h.isRecord.unique rfl rfl h'.isRecord
  simp only [List.cons.injEq, whole_inj, Int.natCast_inj, and_true] at hvalues
  obtain ⟨hyear, hmonth, hday⟩ := hvalues
  obtain ⟨hhour, hminute, hsecond, hmicrosecond⟩ := h.isMidnight
  obtain ⟨hhour', hminute', hsecond', hmicrosecond'⟩ := h'.isMidnight
  obtain ⟨year, month, day, hour, minute, second, microsecond⟩ := d
  rw [mk.injEq]
  exact ⟨hyear, hmonth, hday, hhour.trans hhour'.symm, hminute.trans hminute'.symm,
    hsecond.trans hsecond'.symm, hmicrosecond.trans hmicrosecond'.symm⟩

/-- An object with a whole time of day has the members of one. -/
theorem FullDate.not_noTime {members : List (Option String × Json)}
    (h : FullDate (.object members) d) : ¬ NoTime (.object members) := by
  obtain ⟨⟨hholds⟩, -⟩ := h
  exact fun hnone => hnone "hour" (by simp [timeNames])
    ⟨_, (hholds ("hour", whole d.hour) (by simp)).mem⟩

/-- Only objects state dates with and without a time of day. -/
theorem FullDate.not_plainDate_of_noTime {d' : DateFields} (h : FullDate value d)
    (hnone : NoTime value) : ¬ PlainDate value d' := by
  cases value with
  | object members => exact absurd hnone h.not_noTime
  | array items =>
    rintro ⟨hplain, -, -⟩
    have hlength := congrArg List.length (h.isRecord.items_eq.symm.trans hplain.items_eq)
    cases hlength
  | _ => exact nomatch h.isRecord

theorem StatesExactly.unique {d' : DateFields} (h : StatesExactly value d)
    (h' : StatesExactly value d') : d = d' := by
  obtain hfull | ⟨hplain, hnone⟩ := h <;> obtain hfull' | ⟨hplain', hnone'⟩ := h'
  · exact hfull.unique hfull'
  · exact absurd hplain' (hfull.not_plainDate_of_noTime hnone')
  · exact absurd hplain (hfull'.not_plainDate_of_noTime hnone)
  · exact hplain.unique hplain'

/-- An object with a whole time of day states the start of the day, too. -/
theorem FullDate.plainDate {members : List (Option String × Json)}
    (h : FullDate (.object members) d) :
    PlainDate (.object members)
      { d with hour := 0, minute := 0, second := 0, microsecond := 0 } := by
  obtain ⟨⟨hholds⟩, hstorable⟩ := h
  refine ⟨.object fun field hfield => hholds field (List.mem_append_left _ hfield), ⟨rfl, rfl, rfl,
    rfl⟩, ?_⟩
  exact ⟨hstorable.year_ge, hstorable.year_le, hstorable.month_lt, hstorable.day_lt,
    Nat.two_pow_pos 32, Nat.two_pow_pos 32, Nat.two_pow_pos 32, Nat.two_pow_pos 32⟩

theorem StatesExactly.exists_plainDate {name : String} {inner : Json} (h : StatesExactly value d)
    (hmember : HasMember name inner value) : ∃ d', PlainDate value d' := by
  obtain ⟨-⟩ := hmember
  obtain hfull | ⟨hplain, -⟩ := h
  · exact ⟨_, hfull.plainDate⟩
  · exact ⟨d, hplain⟩

/-- A value states one date at most. -/
theorem States.unique {d' : DateFields} (h : States value d) (h' : States value d') : d = d' := by
  cases h with
  | itself hexact =>
    cases h' with
    | itself hexact' => exact hexact.unique hexact'
    | datetime hitself hmember _ | date hitself _ hmember _ =>
      obtain ⟨day, hplain⟩ := hexact.exists_plainDate hmember
      exact absurd hplain (hitself day)
  | datetime hitself hmember hfull =>
    cases h' with
    | itself hexact' =>
      obtain ⟨day, hplain⟩ := hexact'.exists_plainDate hmember
      exact absurd hplain (hitself day)
    | datetime _ hmember' hfull' =>
      obtain rfl := hmember.unique hmember'
      exact hfull.unique hfull'
    | date _ hdatetime' _ _ => exact absurd hfull ((hdatetime' _ hmember).2 d)
  | date hitself hdatetime hmember hexact =>
    cases h' with
    | itself hexact' =>
      obtain ⟨day, hplain⟩ := hexact'.exists_plainDate hmember
      exact absurd hplain (hitself day)
    | datetime _ hmember' hfull' => exact absurd hfull' ((hdatetime _ hmember').2 d')
    | date _ _ hmember' hexact' =>
      obtain rfl := hmember.unique hmember'
      exact hexact.unique hexact'

end DateFields

end ClipSplice.Document
