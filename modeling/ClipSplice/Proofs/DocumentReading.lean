import ClipSplice.Document.Meaning
import ClipSplice.Proofs.JsonReading

/-!
# Reading documents that were written

A document is read back from the JSON value that states it as long as the numbers in it are stored
in 32 bits and the value is not nested too deeply. How deep is said by `height`, and what was read
is never higher than the room it was read in. A written rule may be nested deeper than the text it
came from: a rule without clips gains two empty arrays. Lists of rules take three levels each, and
the levels that a document may have leave room for these arrays.
-/

namespace ClipSplice

open Document

/-! ## Dates -/

namespace Document.DateFields

/-- The parts of a date are numbers of 32 bits, the year with a sign. -/
structure Storable (d : DateFields) : Prop where
  year_ge : -2147483648 ≤ d.year
  year_le : d.year ≤ 2147483647
  month_lt : d.month < 2 ^ 32
  day_lt : d.day < 2 ^ 32
  hour_lt : d.hour < 2 ^ 32
  minute_lt : d.minute < 2 ^ 32
  second_lt : d.second < 2 ^ 32
  microsecond_lt : d.microsecond < 2 ^ 32

theorem partOf_natCast {n : Nat} (h : n < 2 ^ 32) :
    partOf (.number (.integer n)) = some n := by
  have hrange : (0 : Int) ≤ n ∧ (n : Int) ≤ (Nat.pow 2 32 - 1 : Nat) := by
    simp only [Nat.pow_eq]
    omega
  rw [partOf, naturalOf, integerOf, if_pos hrange, Option.map_some, Int.toNat_natCast]

theorem yearOf_of_storable {year : Int} (hge : -2147483648 ≤ year) (hle : year ≤ 2147483647) :
    yearOf (.number (.integer year)) = some year := by
  rw [yearOf, integerOf, if_pos ⟨hge, hle⟩]

theorem full?_toJson {d : DateFields} (h : d.Storable) : full? d.toJson = some d := by
  have hfields : recordOf ["year", "month", "day", "hour", "minute", "second", "microsecond"]
      d.toJson = some [("year", .number (.integer d.year)), ("month", .number (.integer d.month)),
        ("day", .number (.integer d.day)), ("hour", .number (.integer d.hour)),
        ("minute", .number (.integer d.minute)), ("second", .number (.integer d.second)),
        ("microsecond", .number (.integer d.microsecond))] := by rfl
  rw [full?, hfields]
  simp [required, List.lookup, yearOf_of_storable h.year_ge h.year_le, partOf_natCast h.month_lt,
    partOf_natCast h.day_lt, partOf_natCast h.hour_lt, partOf_natCast h.minute_lt,
    partOf_natCast h.second_lt, partOf_natCast h.microsecond_lt]

theorem isDouble_integer {n : Int} (h : n.natAbs < 2 ^ 32) :
    (JsonNumber.integer n).isDouble = true := by
  have hlimit : 2 ^ 32 ≤ doubleLimit := by decide +kernel
  rw [JsonNumber.isDouble, decide_eq_true_eq]
  omega

theorem fits_toJson {d : DateFields} (h : d.Storable) (room : Nat) :
    d.toJson.fits room = decide (0 < room) := by
  obtain ⟨h1, h2, h3, h4, h5, h6, h7, h8⟩ := h
  have hpart : ∀ {n : Nat}, n < 2 ^ 32 → (JsonNumber.integer n).isDouble = true := fun h =>
    isDouble_integer (by omega)
  simp [toJson, Json.fits, Json.membersFit, hpart h3, hpart h4, hpart h5, hpart h6, hpart h7,
    hpart h8, isDouble_integer (n := d.year) (by omega)]

theorem ofJson?_toJson {d : DateFields} (h : d.Storable) (room : Nat) :
    ofJson? room d.toJson = if 1 ≤ room then some d else none := by
  rw [ofJson?, fits_toJson h, full?_toJson h]
  by_cases hroom : 1 ≤ room
  · have hpos : 0 < room := hroom
    rw [if_pos (decide_eq_true hpos), if_pos hroom]
    rfl
  · have hpos : ¬ 0 < room := hroom
    rw [decide_eq_false hpos, if_neg hroom]
    rfl

/-- All forms of a date are arrays or objects. -/
theorem one_le_of_ofJson? {room : Nat} {value : Json} {d : DateFields}
    (h : ofJson? room value = some d) : 1 ≤ room := by
  rcases Nat.eq_zero_or_pos room with rfl | hpos
  · unfold ofJson? at h
    cases value with
    | array items => rw [Json.fits] at h; cases h
    | object members => rw [Json.fits] at h; cases h
    | _ => simp [full?, plain?, wrapped?, recordOf] at h
  · exact hpos

theorem spelled_toJson (d : DateFields) : d.toJson.Spelled := by
  simp [toJson, Json.Spelled, Json.MembersSpelled]

end Document.DateFields

/-! ## Fields -/

namespace Document

theorem naturalOf_natCast {n : Nat} (h : n < 2 ^ 32) :
    naturalOf 32 (.number (.integer n)) = some n := DateFields.partOf_natCast h

theorem recordOf_singleton (name : String) (value : Json) :
    recordOf [name] (.object [(some name, value)]) = some [(name, value)] := by
  simp [recordOf, fieldsOfMembers]

/-- A field that was not left out has been read. -/
theorem exists_of_optionalField {α : Type} {fields : Fields} {name : String}
    {read : Json → Option α} {a : α} (h : optionalField fields name read = some (some a)) :
    ∃ value, read value = some a := by
  unfold optionalField withDefault at h
  cases hvalue : fields.lookup name with
  | none => simp [hvalue] at h
  | some value =>
    simp only [hvalue] at h
    cases value with
    | null => cases h
    | _ => exact ⟨_, by simpa [nullable] using h⟩

theorem mapM_textOf_map (texts : List String) :
    (texts.map fun text => Json.string (some text)).mapM textOf = some texts := by
  induction texts with
  | nil => rfl
  | cons text rest ih => simp [List.mapM_cons, textOf, ih]

end Document

/-! ## Conditions -/

namespace ConditionDocument

/-- The objects that a bound takes. -/
def boundHeight : Option DateFields → Nat
  | none => 0
  | some _ => 1

mutual

/-- How many arrays and objects stand inside each other in the value that states a condition. -/
def height : ConditionDocument → Nat
  | all members => heights members + 3
  | any members => heights members + 3
  | negation inner => height inner + 2
  | regex _ _ => 2
  | glob _ _ => 2
  | currentTime start finish => max (boundHeight start) (boundHeight finish) + 2
  | nameTime start finish _ _ => max (boundHeight start) (boundHeight finish) + 2

/-- The height of the highest of some conditions. -/
def heights : List ConditionDocument → Nat
  | [] => 0
  | condition :: rest => max (height condition) (heights rest)

end

/-- A bound can be stored if it is open or its date can be. -/
def BoundStorable (bound : Option DateFields) : Prop := ∀ date ∈ bound, date.Storable

mutual

/-- The numbers in a condition are in the ranges that documents allow. -/
def Storable : ConditionDocument → Prop
  | all members => AllStorable members
  | any members => AllStorable members
  | negation inner => Storable inner
  | regex _ flags => flags < 2 ^ 32
  | glob _ _ => True
  | currentTime start finish => BoundStorable start ∧ BoundStorable finish
  | nameTime start finish _ _ => BoundStorable start ∧ BoundStorable finish

/-- The numbers in some conditions are in these ranges. -/
def AllStorable : List ConditionDocument → Prop
  | [] => True
  | condition :: rest => Storable condition ∧ AllStorable rest

end

/-! ### Written and read -/

theorem optionalField_bound {fields : Fields} (name : String) (bound : Option DateFields)
    (hfield : fields.lookup name = bound.map DateFields.toJson) (h : BoundStorable bound)
    (room : Nat) :
    optionalField fields name (DateFields.ofJson? room) =
      if boundHeight bound ≤ room then some bound else none := by
  unfold optionalField withDefault
  rw [hfield]
  cases bound with
  | none => simp [boundHeight]
  | some date =>
    show (DateFields.ofJson? room date.toJson).map some = _
    rw [DateFields.ofJson?_toJson (h date rfl), boundHeight]
    split <;> rfl

/-- The fields of a range: the bounds that are not left out. -/
def boundFields (start finish : Option DateFields) : Fields :=
  (start.map fun d => ("start", d.toJson)).toList ++ (finish.map fun d => ("end", d.toJson)).toList

theorem recordOf_bounds (start finish : Option DateFields) :
    recordOf ["start", "end"] (.object (bound "start" start ++ bound "end" finish)) =
      some (boundFields start finish) := by
  cases start <;> cases finish <;> simp [bound, boundFields, recordOf, fieldsOfMembers]

theorem recordOf_boundsAndPattern (start finish : Option DateFields) (pattern format : String) :
    recordOf ["start", "end", "dateregex", "dateformat"]
        (.object (bound "start" start ++ bound "end" finish ++
          [(some "dateregex", .string pattern), (some "dateformat", .string format)])) =
      some (boundFields start finish ++
        [("dateregex", .string pattern), ("dateformat", .string format)]) := by
  cases start <;> cases finish <;>
    simp [bound, boundFields, recordOf, fieldsOfMembers, List.lookup]

theorem lookup_boundFields (start finish : Option DateFields) (more : Fields)
    (hstart : more.lookup "start" = none) (hfinish : more.lookup "end" = none) :
    (boundFields start finish ++ more).lookup "start" = start.map DateFields.toJson ∧
      (boundFields start finish ++ more).lookup "end" = finish.map DateFields.toJson := by
  cases start <;> cases finish <;> simp [boundFields, List.lookup, hstart, hfinish]

theorem two_le_height (d : ConditionDocument) : 2 ≤ d.height := by
  cases d <;> rw [height] <;> omega

mutual

/-- A condition that can be stored is read from what was written, if there is room for it. -/
theorem ofJson?_toJson {d : ConditionDocument} (h : d.Storable) (room : Nat) :
    ofJson? room d.toJson = if d.height ≤ room then some d else none := by
  have htwo := two_le_height d
  match room with
  | 0 =>
    rw [if_neg (by omega)]
    rfl
  | 1 =>
    rw [if_neg (by omega)]
    rfl
  | room + 2 =>
  cases d with
  | all members | any members =>
    rw [Storable] at h
    rw [toJson, choice, ofJson?, height]
    simp only [choiceOf, Option.bind_eq_bind, Option.bind_some, recordOf_singleton]
    cases room with
    | zero => rw [if_neg (by omega)]
    | succ room =>
      simp only [required, List.lookup_cons_self, Option.bind_some, itemsOf, mapM_toJsons h room]
      by_cases hroom : heights members ≤ room
      · rw [if_pos hroom, if_pos (by omega)]
        rfl
      · rw [if_neg hroom, if_neg (by omega)]
        rfl
  | negation inner =>
    rw [Storable] at h
    rw [toJson, choice, ofJson?, height]
    simp only [choiceOf, Option.bind_eq_bind, Option.bind_some, recordOf_singleton, required,
      List.lookup_cons_self, ofJson?_toJson h room]
    by_cases hroom : height inner ≤ room
    · rw [if_pos hroom, if_pos (by omega)]
      rfl
    · rw [if_neg hroom, if_neg (by omega)]
      rfl
  | regex pattern flags =>
    rw [Storable] at h
    rw [toJson, choice, ofJson?, height, if_pos (by omega)]
    simp [choiceOf, recordOf, fieldsOfMembers, required, withDefault, textOf, naturalOf_natCast h,
      List.lookup]
  | glob text caseSensitive =>
    rw [toJson, choice, ofJson?, height, if_pos (by omega)]
    simp [choiceOf, recordOf, fieldsOfMembers, required, withDefault, textOf, boolOf, List.lookup]
  | currentTime start finish =>
    rw [Storable] at h
    rw [toJson, choice, ofJson?, height]
    simp only [choiceOf, Option.bind_eq_bind, Option.bind_some, recordOf_bounds]
    obtain ⟨hlookup, hlookup'⟩ := lookup_boundFields start finish [] rfl rfl
    rw [List.append_nil] at hlookup hlookup'
    rw [optionalField_bound "start" start hlookup h.1,
      optionalField_bound "end" finish hlookup' h.2]
    by_cases hstart : boundHeight start ≤ room <;>
      by_cases hfinish : boundHeight finish ≤ room <;> simp [hstart, hfinish]
  | nameTime start finish pattern format =>
    rw [Storable] at h
    rw [toJson, choice, ofJson?, height]
    simp only [choiceOf, Option.bind_eq_bind, Option.bind_some, recordOf_boundsAndPattern]
    obtain ⟨hlookup, hlookup'⟩ := lookup_boundFields start finish
      [("dateregex", .string pattern), ("dateformat", .string format)] rfl rfl
    rw [optionalField_bound "start" start hlookup h.1,
      optionalField_bound "end" finish hlookup' h.2]
    by_cases hstart : boundHeight start ≤ room <;>
      by_cases hfinish : boundHeight finish ≤ room <;>
        cases start <;> cases finish <;>
          simp [boundFields, hstart, hfinish, withDefault, textOf, List.lookup]

theorem mapM_toJsons {members : List ConditionDocument} (h : AllStorable members) (room : Nat) :
    (toJsons members).mapM (ofJson? room) =
      if heights members ≤ room then some members else none := by
  cases members with
  | nil =>
    rw [toJsons, heights, if_pos (Nat.zero_le room)]
    rfl
  | cons d rest =>
    rw [AllStorable] at h
    rw [toJsons, heights, List.mapM_cons, ofJson?_toJson h.1, mapM_toJsons h.2]
    by_cases hd : d.height ≤ room <;> by_cases hrest : heights rest ≤ room <;>
      simp [hd, hrest]

end

theorem toJson_ne_null (d : ConditionDocument) : d.toJson ≠ .null := by
  cases d <;> rw [toJson] <;> exact Json.noConfusion

mutual

theorem spelled_toJson (d : ConditionDocument) : d.toJson.Spelled := by
  have hbound : ∀ (name : String) (b : Option DateFields) (members : List (Option String × Json)),
      Json.MembersSpelled (bound name b ++ members) ↔ Json.MembersSpelled members := by
    intro name b members
    cases b with
    | none => rfl
    | some date => simp [bound, Json.MembersSpelled, DateFields.spelled_toJson]
  have hlast : ∀ (name : String) (b : Option DateFields),
      Json.MembersSpelled (bound name b) := by
    intro name b
    rw [← List.append_nil (bound name b), hbound]
    simp [Json.MembersSpelled]
  cases d with
  | all members | any members =>
    simp [toJson, choice, Json.Spelled, Json.MembersSpelled, itemsSpelled_toJsons members]
  | negation inner =>
    simp [toJson, choice, Json.Spelled, Json.MembersSpelled, spelled_toJson inner]
  | regex pattern flags => simp [toJson, choice, Json.Spelled, Json.MembersSpelled]
  | glob text caseSensitive => simp [toJson, choice, Json.Spelled, Json.MembersSpelled]
  | currentTime start finish =>
    simp [toJson, choice, Json.Spelled, Json.MembersSpelled, hbound, hlast]
  | nameTime start finish pattern format =>
    simp [toJson, choice, Json.Spelled, Json.MembersSpelled, hbound]

theorem itemsSpelled_toJsons (members : List ConditionDocument) :
    Json.ItemsSpelled (toJsons members) := by
  cases members with
  | nil => simp [toJsons, Json.ItemsSpelled]
  | cons d rest =>
    simp [toJsons, Json.ItemsSpelled, spelled_toJson d, itemsSpelled_toJsons rest]

end

/-! ### Read in some room -/

theorem boundHeight_le_of_optionalField {fields : Fields} {name : String} {room : Nat}
    {bound : Option DateFields}
    (h : optionalField fields name (DateFields.ofJson? room) = some bound) :
    boundHeight bound ≤ room := by
  cases bound with
  | none => exact Nat.zero_le room
  | some date =>
    obtain ⟨value, hvalue⟩ := exists_of_optionalField h
    exact DateFields.one_le_of_ofJson? hvalue

theorem heights_le_of_mapM {read : Json → Option ConditionDocument} {room : Nat}
    (hread : ∀ value d, read value = some d → d.height ≤ room) {items : List Json}
    {members : List ConditionDocument} (h : items.mapM read = some members) :
    heights members ≤ room := by
  induction items generalizing members with
  | nil =>
    cases h
    exact Nat.zero_le room
  | cons item items ih =>
    rw [List.mapM_cons] at h
    obtain ⟨d, hd, h⟩ := Option.bind_eq_some_iff.1 h
    obtain ⟨rest, hrest, h⟩ := Option.bind_eq_some_iff.1 h
    cases h
    exact Nat.max_le.2 ⟨hread item d hd, ih hrest⟩

theorem height_le_of_ofJson? {room : Nat} {value : Json} {d : ConditionDocument}
    (h : ofJson? room value = some d) : d.height ≤ room := by
  induction room using Nat.strongRecOn generalizing value d with
  | ind room ih =>
  match room with
  | 0 => cases h
  | 1 => cases h
  | room + 2 =>
    have hbounds : ∀ {fields : Fields} {start finish : Option DateFields},
        optionalField fields "start" (DateFields.ofJson? room) = some start →
        optionalField fields "end" (DateFields.ofJson? room) = some finish →
        max (boundHeight start) (boundHeight finish) + 2 ≤ room + 2 := fun hstart hfinish =>
      Nat.add_le_add_right (Nat.max_le.2 ⟨boundHeight_le_of_optionalField hstart,
        boundHeight_le_of_optionalField hfinish⟩) 2
    rw [ofJson?] at h
    obtain ⟨⟨name, content⟩, -, h⟩ := Option.bind_eq_some_iff.1 h
    dsimp only at h
    split at h
    -- both lists of conditions
    case h_1 | h_2 =>
      obtain ⟨fields, -, h⟩ := Option.bind_eq_some_iff.1 h
      cases room with
      | zero => cases h
      | succ room =>
        obtain ⟨items, -, h⟩ := Option.bind_eq_some_iff.1 h
        obtain ⟨members, hitems, h⟩ := Option.bind_eq_some_iff.1 h
        cases h
        have hheights := heights_le_of_mapM (fun _ _ => ih room (by omega)) hitems
        rw [height]
        exact Nat.add_le_add_right hheights 3
    -- negation
    case h_3 =>
      obtain ⟨fields, -, h⟩ := Option.bind_eq_some_iff.1 h
      obtain ⟨inner, hinner, h⟩ := Option.bind_eq_some_iff.1 h
      cases h
      obtain ⟨value, -, hvalue⟩ := Option.bind_eq_some_iff.1 hinner
      rw [height]
      exact Nat.add_le_add_right (ih room (by omega) hvalue) 2
    -- patterns for names
    case h_4 | h_5 =>
      obtain ⟨fields, -, h⟩ := Option.bind_eq_some_iff.1 h
      obtain ⟨text, -, h⟩ := Option.bind_eq_some_iff.1 h
      obtain ⟨option, -, h⟩ := Option.bind_eq_some_iff.1 h
      cases h
      rw [height]
      exact Nat.le_add_left 2 room
    -- ranges of the current time and of the date in a name
    case h_6 =>
      obtain ⟨fields, -, h⟩ := Option.bind_eq_some_iff.1 h
      obtain ⟨start, hstart, h⟩ := Option.bind_eq_some_iff.1 h
      obtain ⟨finish, hfinish, h⟩ := Option.bind_eq_some_iff.1 h
      cases h
      rw [height]
      exact hbounds hstart hfinish
    case h_7 =>
      obtain ⟨fields, -, h⟩ := Option.bind_eq_some_iff.1 h
      obtain ⟨start, hstart, h⟩ := Option.bind_eq_some_iff.1 h
      obtain ⟨finish, hfinish, h⟩ := Option.bind_eq_some_iff.1 h
      obtain ⟨pattern, -, h⟩ := Option.bind_eq_some_iff.1 h
      obtain ⟨format, -, h⟩ := Option.bind_eq_some_iff.1 h
      cases h
      rw [height]
      exact hbounds hstart hfinish
    case h_8 => cases h

end ConditionDocument

/-! ## Rules -/

namespace RuleDocument

/-- The height of a condition that may be missing. -/
def guardHeight : Option ConditionDocument → Nat
  | none => 0
  | some condition => condition.height

mutual

/-- How many arrays and objects stand inside each other in the value that states a rule. -/
def height : RuleDocument → Nat
  | default => 2
  | clips condition _ _ => max (guardHeight condition) 1 + 2
  | list rules condition => max (guardHeight condition) (heights rules + 1) + 2

/-- The height of the highest of some rules. -/
def heights : List RuleDocument → Nat
  | [] => 0
  | rule :: rest => max (height rule) (heights rest)

end

/-- A condition that may be missing can be stored. -/
def GuardStorable (condition : Option ConditionDocument) : Prop :=
  ∀ document ∈ condition, document.Storable

mutual

/-- The numbers in a rule are in the ranges that documents allow. -/
def Storable : RuleDocument → Prop
  | default => True
  | clips condition _ _ => GuardStorable condition
  | list rules condition => AllStorable rules ∧ GuardStorable condition

/-- The numbers in some rules are in these ranges. -/
def AllStorable : List RuleDocument → Prop
  | [] => True
  | rule :: rest => Storable rule ∧ AllStorable rest

end

/-! ### Written and read -/

theorem optionalField_guard {fields : Fields} {name : String}
    (condition : Option ConditionDocument)
    (hfield : fields.lookup name = some (ConditionDocument.optionalToJson condition))
    (h : GuardStorable condition) (room : Nat) :
    optionalField fields name (ConditionDocument.ofJson? room) =
      if guardHeight condition ≤ room then some condition else none := by
  unfold optionalField withDefault
  rw [hfield]
  cases condition with
  | none => simp [ConditionDocument.optionalToJson, nullable, guardHeight]
  | some d =>
    have hnullable : nullable (ConditionDocument.ofJson? room) d.toJson =
        (ConditionDocument.ofJson? room d.toJson).map some := by
      unfold nullable
      split
      · exact absurd ‹d.toJson = .null› d.toJson_ne_null
      · rfl
    simp only [ConditionDocument.optionalToJson, hnullable,
      ConditionDocument.ofJson?_toJson (h d rfl), guardHeight]
    by_cases hheight : d.height ≤ room <;> simp [hheight]

theorem textsOf_clipsToJson (room : Nat) (clips : List String) :
    textsOf room (clipsToJson clips) = if 1 ≤ room then some clips else none := by
  unfold textsOf clipsToJson
  simp only [itemsOf, Option.bind_some, mapM_textOf_map]
  by_cases hroom : room = 0
  · rw [if_pos hroom, if_neg (by omega)]
  · rw [if_neg hroom, if_pos (by omega)]

theorem two_le_height (d : RuleDocument) : 2 ≤ d.height := by
  cases d <;> rw [height] <;> omega

mutual

/-- A rule that can be stored is read from what was written, if there is room for it. -/
theorem ofJson?_toJson {d : RuleDocument} (h : d.Storable) (room : Nat) :
    ofJson? room d.toJson = if d.height ≤ room then some d else none := by
  have htwo := two_le_height d
  match room with
  | 0 =>
    rw [if_neg (by omega)]
    rfl
  | 1 =>
    rw [if_neg (by omega)]
    rfl
  | room + 2 =>
  cases d with
  | default =>
    rw [toJson, ConditionDocument.choice, ofJson?, height, if_pos (by omega)]
    simp [choiceOf, recordOf, fieldsOfMembers]
  | clips condition pre post =>
    rw [Storable] at h
    rw [toJson, ConditionDocument.choice, ofJson?, height]
    have hfields : recordOf ["matcher", "pre", "post"]
        (.object [(some "matcher", ConditionDocument.optionalToJson condition),
          (some "pre", clipsToJson pre), (some "post", clipsToJson post)]) =
        some [("matcher", ConditionDocument.optionalToJson condition),
          ("pre", clipsToJson pre), ("post", clipsToJson post)] := by
      simp [recordOf, fieldsOfMembers, List.lookup]
    simp only [choiceOf, Option.bind_eq_bind, Option.bind_some, hfields]
    rw [optionalField_guard condition (by simp [List.lookup]) h]
    by_cases hguard : guardHeight condition ≤ room <;> by_cases hroom : 1 ≤ room <;>
      simp [hguard, hroom, withDefault, List.lookup, textsOf_clipsToJson]
  | list rules condition =>
    rw [Storable] at h
    rw [toJson, ConditionDocument.choice, ofJson?, height]
    have hfields : recordOf ["rules", "cond"]
        (.object [(some "rules", .array (toJsons rules)),
          (some "cond", ConditionDocument.optionalToJson condition)]) =
        some [("rules", .array (toJsons rules)),
          ("cond", ConditionDocument.optionalToJson condition)] := by
      simp [recordOf, fieldsOfMembers, List.lookup]
    simp only [choiceOf, Option.bind_eq_bind, Option.bind_some, hfields]
    cases room with
    | zero => rw [if_neg (by omega)]
    | succ room =>
      simp only [required, List.lookup_cons_self, Option.bind_some, itemsOf,
        mapM_toJsons h.1 room]
      rw [optionalField_guard condition (by simp [List.lookup]) h.2]
      by_cases hrules : heights rules ≤ room <;>
        by_cases hguard : guardHeight condition ≤ room + 1 <;> simp [hrules, hguard]

theorem mapM_toJsons {rules : List RuleDocument} (h : AllStorable rules) (room : Nat) :
    (toJsons rules).mapM (ofJson? room) =
      if heights rules ≤ room then some rules else none := by
  cases rules with
  | nil =>
    rw [toJsons, heights, if_pos (Nat.zero_le room)]
    rfl
  | cons d rest =>
    rw [AllStorable] at h
    rw [toJsons, heights, List.mapM_cons, ofJson?_toJson h.1, mapM_toJsons h.2]
    by_cases hd : d.height ≤ room <;> by_cases hrest : heights rest ≤ room <;>
      simp [hd, hrest]

end

theorem spelled_optionalToJson (condition : Option ConditionDocument) :
    (ConditionDocument.optionalToJson condition).Spelled := by
  cases condition with
  | none => simp [ConditionDocument.optionalToJson, Json.Spelled]
  | some d => exact d.spelled_toJson

theorem spelled_clipsToJson (clips : List String) : (clipsToJson clips).Spelled := by
  rw [clipsToJson, Json.Spelled]
  induction clips with
  | nil => simp [Json.ItemsSpelled]
  | cons clip rest ih => simp [Json.ItemsSpelled, Json.Spelled, ih]

mutual

theorem spelled_toJson (d : RuleDocument) : d.toJson.Spelled := by
  cases d with
  | default => simp [toJson, ConditionDocument.choice, Json.Spelled, Json.MembersSpelled]
  | clips condition pre post =>
    simp [toJson, ConditionDocument.choice, Json.Spelled, Json.MembersSpelled,
      spelled_optionalToJson, spelled_clipsToJson]
  | list rules condition =>
    simp [toJson, ConditionDocument.choice, Json.Spelled, Json.MembersSpelled,
      spelled_optionalToJson, itemsSpelled_toJsons rules]

theorem itemsSpelled_toJsons (rules : List RuleDocument) :
    Json.ItemsSpelled (toJsons rules) := by
  cases rules with
  | nil => simp [toJsons, Json.ItemsSpelled]
  | cons d rest =>
    simp [toJsons, Json.ItemsSpelled, spelled_toJson d, itemsSpelled_toJsons rest]

end

/-- The document of a rule in its text. -/
theorem ofText?_toText_bind {d : RuleDocument} (h : d.Storable) (room : Nat) :
    (Json.ofText? d.toJson.toText).bind (ofJson? room) =
      if d.height ≤ room then some d else none := by
  rw [Json.ofText?_toText d.spelled_toJson, Option.bind_some, ofJson?_toJson h]

/-! ### Read in some room -/

theorem guardHeight_le_of_optionalField {fields : Fields} {name : String} {room : Nat}
    {condition : Option ConditionDocument}
    (h : optionalField fields name (ConditionDocument.ofJson? room) = some condition) :
    guardHeight condition ≤ room := by
  cases condition with
  | none => exact Nat.zero_le room
  | some d =>
    obtain ⟨value, hvalue⟩ := exists_of_optionalField h
    exact ConditionDocument.height_le_of_ofJson? hvalue

theorem heights_le_of_mapM {read : Json → Option RuleDocument} {room : Nat}
    (hread : ∀ value d, read value = some d → d.height ≤ room) {items : List Json}
    {rules : List RuleDocument} (h : items.mapM read = some rules) : heights rules ≤ room := by
  induction items generalizing rules with
  | nil =>
    cases h
    exact Nat.zero_le room
  | cons item items ih =>
    rw [List.mapM_cons] at h
    obtain ⟨d, hd, h⟩ := Option.bind_eq_some_iff.1 h
    obtain ⟨rest, hrest, h⟩ := Option.bind_eq_some_iff.1 h
    cases h
    exact Nat.max_le.2 ⟨hread item d hd, ih hrest⟩

/-- Rules stand where the room left is one more than a multiple of three, so that there is room
for the clips of a rule even where none were given. -/
theorem height_le_of_ofJson? {room : Nat} {value : Json} {d : RuleDocument}
    (hroom : room % 3 = 1) (h : ofJson? room value = some d) : d.height ≤ room := by
  induction room using Nat.strongRecOn generalizing value d with
  | ind room ih =>
  match room with
  | 0 => cases h
  | 1 => cases h
  | room + 2 =>
    rw [ofJson?] at h
    obtain ⟨⟨name, content⟩, -, h⟩ := Option.bind_eq_some_iff.1 h
    dsimp only at h
    split at h
    · obtain ⟨fields, -, h⟩ := Option.bind_eq_some_iff.1 h
      cases room with
      | zero => cases h
      | succ room =>
        obtain ⟨items, -, h⟩ := Option.bind_eq_some_iff.1 h
        obtain ⟨rules, hrules, h⟩ := Option.bind_eq_some_iff.1 h
        obtain ⟨condition, hcondition, h⟩ := Option.bind_eq_some_iff.1 h
        cases h
        have hheights := heights_le_of_mapM
          (fun value d hd => ih room (by omega) (by omega) hd) hrules
        have hguard := guardHeight_le_of_optionalField hcondition
        rw [height]
        omega
    · obtain ⟨fields, -, h⟩ := Option.bind_eq_some_iff.1 h
      cases h
      rw [height]
      omega
    · obtain ⟨fields, -, h⟩ := Option.bind_eq_some_iff.1 h
      obtain ⟨condition, hcondition, h⟩ := Option.bind_eq_some_iff.1 h
      obtain ⟨pre, -, h⟩ := Option.bind_eq_some_iff.1 h
      obtain ⟨post, -, h⟩ := Option.bind_eq_some_iff.1 h
      cases h
      have hguard := guardHeight_le_of_optionalField hcondition
      rw [height]
      omega
    · cases h

end RuleDocument

end ClipSplice
