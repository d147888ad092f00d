import ClipSplice.Proofs.WordReading
import ClipSplice.Rule.DatePattern

/-!
# Dates as templates write them

`DatePiece.write` is what stands for a piece of a template in the text of an instant. The date
format that is written for the template reads the text back, piece by piece: what is left of the
text is known up to blanks (`Text.UpToBlanks`), since a blank in a template skips all blanks in the
text, and the fields that were stated are those of the instant (`FieldSet.Records`). When the pieces
name a date, and either no time or a full one, these fields make up the instant again
(`DateFormat.parse?_write`).
-/

namespace ClipSplice

open RuleText (digitsOf length_digitsOf isDigit_of_mem_digitsOf ofDigitChars_digitsOf)

/-! ## Pieces -/

namespace DatePiece

/-- What stands for a piece in the text of an instant: its fields with zeros in front. -/
def write (t : Instant) : DatePiece → List Char
  | year => digitsOf 4 t.date.year.toNat
  | shortYear => digitsOf 2 (t.date.year % 100).toNat
  | month => digitsOf 2 t.date.month
  | day => digitsOf 2 t.date.day
  | hour => digitsOf 2 t.hour
  | minute => digitsOf 2 t.minute
  | noon => if t.hour < 12 then ['A', 'M'] else ['P', 'M']
  | clockHour => digitsOf 2 ((t.hour + 11) % 12 + 1)
  | literal c => [c]

/-- The item of a date format that reads a piece. -/
def item : DatePiece → FormatItem
  | year => .yearOf .year
  | shortYear => .digitsOf .yearOfCentury 2
  | month => .digitsOf .month 2
  | day => .digitsOf .day 2
  | hour => .number .hour
  | minute => .digitsOf .minute 2
  | noon => .halfDay
  | clockHour => .number .hourOfTwelve
  | literal c => if isBlank c then .blanks else .char c

/-- The fields that a piece states. -/
def fields : DatePiece → List DateField
  | year => [.year]
  | shortYear => [.yearOfCentury]
  | month => [.month]
  | day => [.day]
  | hour => [.halfDay, .hourOfHalf]
  | minute => [.minute]
  | noon => [.halfDay]
  | clockHour => [.hourOfHalf]
  | literal _ => []

/-- Whether a piece says something about the time of day. -/
def isTime : DatePiece → Bool
  | hour | minute | noon | clockHour => true
  | _ => false

end DatePiece

theorem FormatItem.itemsOf_directive_append (piece : DatePiece) (fuel : Nat) (rest : List Char) :
    itemsOf (fuel + 1) (piece.directive ++ rest) = piece.item :: itemsOf fuel rest := by
  cases piece with
  | literal c =>
    rw [DatePiece.directive, DatePiece.item]
    split
    · rename_i hpercent
      subst hpercent
      rfl
    · rename_i hplain
      rw [List.singleton_append, itemsOf]
      exact hplain
  | _ => rfl

/-- The directives of a template are read as one item for each piece. -/
theorem FormatItem.itemsOf_flatMap_directive (pieces : List DatePiece) {fuel : Nat}
    (hfuel : (pieces.flatMap DatePiece.directive).length ≤ fuel) :
    itemsOf fuel (pieces.flatMap DatePiece.directive) = pieces.map DatePiece.item := by
  induction pieces generalizing fuel with
  | nil => cases fuel <;> rfl
  | cons piece pieces ih =>
    have hpiece : 0 < piece.directive.length := by
      cases piece with
      | literal c =>
        rw [DatePiece.directive]
        split <;> simp
      | _ => simp [DatePiece.directive]
    rw [List.flatMap_cons, List.length_append] at hfuel
    obtain ⟨fuel, rfl⟩ : ∃ n, fuel = n + 1 := Nat.exists_eq_succ_of_ne_zero (by omega)
    rw [List.flatMap_cons, itemsOf_directive_append, List.map_cons, ih (by omega)]

/-! ## Fields of an instant -/

/-- The value that a field of a template has at an instant. -/
def DateField.valueAt (t : Instant) : DateField → Int
  | .year => t.date.year
  | .yearOfCentury => t.date.year % 100
  | .month => t.date.month
  | .day => t.date.day
  | .halfDay => t.hour / 12
  | .hourOfHalf => t.hour % 12
  | .minute => t.minute
  | _ => 0

theorem Date.year_bounds (d : Date) : firstYear ≤ d.year ∧ d.year ≤ lastYear := by
  have hdate := d.inCalendar
  simp only [isDate, Bool.and_eq_true, decide_eq_true_iff] at hdate
  exact hdate.1.1

theorem Instant.hour_lt (t : Instant) : t.hour < 24 := by
  have hsecond := t.second_lt
  simp only [secondsPerDay] at hsecond
  simp only [hour]
  omega

theorem Instant.minute_lt (t : Instant) : t.minute < 60 := by
  simp only [minute]
  omega

theorem Instant.eq_midnight {t : Instant} (hsecond : t.second = 0) (hnano : t.nano = 0) :
    t = midnight t.date := by
  obtain ⟨date, second, nano, hlt, hnanoLt⟩ := t
  obtain rfl : second = 0 := hsecond
  obtain rfl : nano = 0 := hnano
  rfl

/-- The fields of an instant are in range. -/
theorem DateField.valueAt_mem_range (t : Instant) (piece : DatePiece) {field : DateField}
    (hfield : field ∈ piece.fields) :
    field.range.1 ≤ field.valueAt t ∧ field.valueAt t ≤ field.range.2 := by
  have hmonth := t.date.month_bounds
  have hday := t.date.day_bounds
  have hyear := t.date.year_bounds
  have hhour := t.hour_lt
  have hminute := t.minute_lt
  simp only [firstYear, lastYear] at hyear
  cases piece <;> simp only [DatePiece.fields, List.mem_cons, List.not_mem_nil, or_false] at hfield
  case hour =>
    rcases hfield with rfl | rfl <;> simp only [range, valueAt] <;> omega
  all_goals
    subst hfield
    simp only [range, valueAt, largestYear]
    omega

/-- The fields that were given are stated, with their values at an instant. -/
def FieldSet.Records (fields : FieldSet) (t : Instant) (given : List DateField) : Prop :=
  ∀ field, fields.get? field = if field ∈ given then some (field.valueAt t) else none

theorem FieldSet.records_empty (t : Instant) : ({} : FieldSet).Records t [] := fun _ => rfl

theorem FieldSet.set_of_mem_range {fields : FieldSet} {field : DateField} {value : Int}
    (h : field.range.1 ≤ value ∧ value ≤ field.range.2) :
    fields.set field value =
      match fields.get? field with
      | none => some ⟨(field, value) :: fields.stated⟩
      | some earlier => if earlier = value then some fields else none := by
  have hin : ¬ (value < field.range.1 ∨ field.range.2 < value) := by omega
  unfold set
  exact if_neg hin

/-- A field of an instant can be stated, again as well as for the first time. -/
theorem FieldSet.Records.exists_set {fields : FieldSet} {t : Instant} {given : List DateField}
    {field : DateField} (h : fields.Records t given)
    (hrange : field.range.1 ≤ field.valueAt t ∧ field.valueAt t ≤ field.range.2) :
    ∃ more, fields.set field (field.valueAt t) = some more ∧ more.Records t (given ++ [field]) := by
  by_cases hgiven : field ∈ given
  · rw [set_of_mem_range hrange, h field, if_pos hgiven]
    refine ⟨fields, if_pos rfl, fun other => ?_⟩
    rw [h other]
    by_cases hother : other = field
    · simp [hother, hgiven]
    · simp [hother]
  · rw [set_of_mem_range hrange, h field, if_neg hgiven]
    refine ⟨_, rfl, fun other => ?_⟩
    rw [get?, List.lookup_cons]
    by_cases hother : other = field
    · simp [hother]
    · have hstated := h other
      rw [get?] at hstated
      simp [hother, beq_eq_false_iff_ne.2 hother, hstated]

/-! ## Reading -/

/-- What is left of a text, possibly without the blanks in front. -/
def Text.UpToBlanks (text left : List Char) : Prop := left = text ∨ left = trimStart text

namespace Text

variable {text left : List Char}

theorem trimStart_cons {c : Char} (hc : isBlank c = false) : trimStart (c :: text) = c :: text := by
  rw [trimStart, List.dropWhile_cons, hc]
  rfl

theorem UpToBlanks.eq_of_cons {c : Char} (h : UpToBlanks (c :: text) left)
    (hc : isBlank c = false) : left = c :: text := by
  rcases h with rfl | rfl
  · rfl
  · exact trimStart_cons hc

theorem UpToBlanks.trimStart_eq (h : UpToBlanks text left) :
    trimStart left = trimStart text := by
  rcases h with rfl | rfl
  · rfl
  · exact List.dropWhile_idempotent _ text

end Text

namespace DateReading

section

variable {t : Instant} {reading : DateReading} {given : List DateField} {more : List Char}

/-- A reading has come to the end of the text `more` and has stated the given fields of an
instant. -/
structure Reaches (reading : DateReading) (t : Instant) (more : List Char)
    (given : List DateField) : Prop where
  rest : Text.UpToBlanks more reading.rest
  fields : reading.fields.Records t given

theorem Reaches.exists_state {field : DateField} (h : reading.Reaches t more given)
    (hrange : field.range.1 ≤ field.valueAt t ∧ field.valueAt t ≤ field.range.2) :
    ∃ next, reading.state field (field.valueAt t) = some next ∧
      next.Reaches t more (given ++ [field]) := by
  obtain ⟨fields, hset, hfields⟩ := h.fields.exists_set hrange
  exact ⟨{ reading with fields }, by rw [state, hset]; rfl, h.rest, hfields⟩

theorem exists_digitsOf_eq_cons {width : Nat} (hwidth : 0 < width) (n : Nat) :
    ∃ d digits, digitsOf width n = d :: digits ∧ d.isDigit = true := by
  obtain ⟨d, digits, hcons⟩ : ∃ d digits, digitsOf width n = d :: digits := by
    apply List.exists_cons_of_length_pos
    rwa [length_digitsOf]
  exact ⟨d, digits, hcons, isDigit_of_mem_digitsOf (hcons ▸ List.mem_cons_self)⟩

theorem decimal_digitsOf {width n : Nat} (hn : n < 10 ^ width) :
    decimal (digitsOf width n) = n := by
  have hsame : (fun (n : Nat) (c : Char) => n * 10 + (c.toNat - '0'.toNat)) =
      fun n c => 10 * n + (c.toNat - '0'.toNat) := by
    funext n c
    rw [Nat.mul_comm]
  rw [decimal, hsame]
  exact ofDigitChars_digitsOf hn

theorem number?_digitsOf {width n : Nat} (hwidth : 0 < width) (hn : n < 10 ^ width)
    (more : List Char) : number? width (digitsOf width n ++ more) = some (n, width, more) := by
  have htake : ((digitsOf width n ++ more).take width).takeWhile Char.isDigit =
      digitsOf width n := by
    rw [List.take_left' (length_digitsOf width n)]
    exact List.takeWhile_eq_self_iff.2 fun _ hc => isDigit_of_mem_digitsOf hc
  have hempty : (digitsOf width n).isEmpty = false := by
    obtain ⟨d, digits, hcons, -⟩ := exists_digitsOf_eq_cons hwidth n
    rw [hcons]
    rfl
  simp only [number?, htake, hempty, decimal_digitsOf hn, length_digitsOf]
  rw [List.drop_left' (length_digitsOf width n)]
  rfl

/-- Digits in the usual width are read, and nothing behind them. -/
theorem shaped?_digitsOf {shape : NumberShape} {n : Nat} (hwidth : 0 < shape.width)
    (hn : n < 10 ^ shape.width) (more : List Char) :
    shaped? shape (digitsOf shape.width n ++ more) = some ((n : Int), more) := by
  obtain ⟨d, digits, hcons, hd⟩ := exists_digitsOf_eq_cons hwidth n
  have hread := number?_digitsOf hwidth hn more
  rw [hcons] at hread ⊢
  unfold shaped?
  dsimp only
  split
  · rename_i hsign
    obtain rfl := (List.cons.inj hsign).1
    exact absurd hd (by decide)
  · rename_i hsign
    obtain rfl := (List.cons.inj hsign).1
    exact absurd hd (by decide)
  · rw [hread]
    simp

/-- The digits of a number are read from behind any blanks. -/
theorem Reaches.shaped?_eq (shape : NumberShape) {n : Nat}
    (h : reading.Reaches t (digitsOf shape.width n ++ more) given) (hwidth : 0 < shape.width)
    (hn : n < 10 ^ shape.width) :
    shaped? shape (Text.trimStart reading.rest) = some ((n : Int), more) := by
  have htrim : Text.trimStart reading.rest = digitsOf shape.width n ++ more := by
    obtain ⟨d, digits, hcons, hd⟩ := exists_digitsOf_eq_cons hwidth n
    rw [h.rest.trimStart_eq, hcons]
    exact Text.trimStart_cons (RuleText.isBlank_of_isDigit hd)
  rw [htrim]
  exact shaped?_digitsOf hwidth hn more

theorem Reaches.behind (h : reading.Reaches t more given) (left : List Char) :
    Reaches { reading with rest := left } t left given := ⟨.inl rfl, h.fields⟩

/-- A number that is the value of a field is read and states the field. -/
theorem Reaches.exists_readItem_plain (piece : DatePiece) (shape : NumberShape) {field : DateField}
    {n : Nat} (h : reading.Reaches t (digitsOf shape.width n ++ more) given)
    (hwidth : 0 < shape.width) (hn : n < 10 ^ shape.width) (hvalue : field.valueAt t = n)
    (hfield : field ∈ piece.fields) :
    ∃ next, reading.readItem (.number (.plain field shape)) = some next ∧
      next.Reaches t more (given ++ [field]) := by
  obtain ⟨next, hnext, hreaches⟩ :=
    (h.behind more).exists_state (DateField.valueAt_mem_range t _ hfield)
  refine ⟨next, ?_, hreaches⟩
  rw [readItem, readNumber]
  simp only [h.shaped?_eq shape hwidth hn, Option.bind_eq_bind, Option.bind_some]
  rw [← hnext, hvalue]

/-- Half of the day and hour of the half, one after the other. -/
theorem Reaches.exists_state_hour (h : reading.Reaches t more given) :
    ∃ half next, reading.state .halfDay (DateField.halfDay.valueAt t) = some half ∧
      half.state .hourOfHalf (DateField.hourOfHalf.valueAt t) = some next ∧
      next.Reaches t more (given ++ [.halfDay, .hourOfHalf]) := by
  obtain ⟨half, hhalf, hreaches⟩ :=
    h.exists_state (DateField.valueAt_mem_range t .hour List.mem_cons_self)
  obtain ⟨next, hnext, hreaches⟩ := hreaches.exists_state
    (DateField.valueAt_mem_range t .clockHour List.mem_cons_self)
  rw [List.append_assoc] at hreaches
  exact ⟨half, next, hhalf, hnext, hreaches⟩

theorem Reaches.exists_readItem_hour
    (h : reading.Reaches t (DatePiece.hour.write t ++ more) given) :
    ∃ next, reading.readItem (.number .hour) = some next ∧
      next.Reaches t more (given ++ [.halfDay, .hourOfHalf]) := by
  have hhour := t.hour_lt
  have hread := h.shaped?_eq { width := 2 } (by decide) (show t.hour < 100 by omega)
  obtain ⟨half, next, hhalf, hnext, hreaches⟩ := (h.behind more).exists_state_hour
  simp only [DateField.valueAt] at hhalf hnext
  refine ⟨next, ?_, hreaches⟩
  rw [readItem, readNumber]
  simp only [hread, Option.bind_eq_bind, Option.bind_some, hhalf, hnext]

theorem Reaches.exists_readItem_clockHour
    (h : reading.Reaches t (DatePiece.clockHour.write t ++ more) given) :
    ∃ next, reading.readItem (.number .hourOfTwelve) = some next ∧
      next.Reaches t more (given ++ [.hourOfHalf]) := by
  have hread := h.shaped?_eq { width := 2 } (by decide)
    (show (t.hour + 11) % 12 + 1 < 100 by omega)
  have hclock : (1 : Int) ≤ ((t.hour + 11) % 12 + 1 : Nat) ∧
      (((t.hour + 11) % 12 + 1 : Nat) : Int) ≤ 12 := by omega
  have hvalue : (((t.hour + 11) % 12 + 1 : Nat) : Int) % 12 = DateField.hourOfHalf.valueAt t := by
    simp only [DateField.valueAt]
    omega
  obtain ⟨next, hnext, hreaches⟩ := (h.behind more).exists_state
    (DateField.valueAt_mem_range t .clockHour List.mem_cons_self)
  refine ⟨next, ?_, hreaches⟩
  rw [readItem, readNumber]
  simp only [hread, Option.bind_eq_bind, Option.bind_some]
  rw [if_pos hclock, hvalue, hnext]

theorem Reaches.exists_readItem_noon
    (h : reading.Reaches t (DatePiece.noon.write t ++ more) given) :
    ∃ next, reading.readItem .halfDay = some next ∧ next.Reaches t more (given ++ [.halfDay]) := by
  have hhour := t.hour_lt
  obtain ⟨next, hnext, hreaches⟩ := (h.behind more).exists_state
    (DateField.valueAt_mem_range t .noon List.mem_cons_self)
  refine ⟨next, ?_, hreaches⟩
  by_cases hbefore : t.hour < 12
  · have hvalue : DateField.halfDay.valueAt t = 0 := by
      simp only [DateField.valueAt]
      omega
    rw [DatePiece.write, if_pos hbefore] at h
    rw [readItem, h.rest.eq_of_cons (by decide), ← hnext, hvalue]
    rfl
  · have hvalue : DateField.halfDay.valueAt t = 1 := by
      simp only [DateField.valueAt]
      omega
    rw [DatePiece.write, if_neg hbefore] at h
    rw [readItem, h.rest.eq_of_cons (by decide), ← hnext, hvalue]
    rfl

theorem Reaches.exists_readItem_literal {c : Char} (h : reading.Reaches t (c :: more) given) :
    ∃ next, reading.readItem (DatePiece.literal c).item = some next ∧
      next.Reaches t more given := by
  rw [DatePiece.item]
  split
  · rename_i hblank
    have htrim : Text.trimStart reading.rest = Text.trimStart more := by
      rw [h.rest.trimStart_eq, Text.trimStart, List.dropWhile_cons, if_pos hblank]
      rfl
    exact ⟨_, rfl, .inr htrim, h.fields⟩
  · rename_i hblank
    have hrest := h.rest.eq_of_cons (by simpa using hblank)
    have hafter : Text.after? [c] (c :: more) = some more := Text.after?_eq_some_iff.2 rfl
    refine ⟨_, ?_, h.behind more⟩
    rw [FormatItem.char, readItem, hrest, hafter]
    rfl

/-- A piece of a template reads what it writes. -/
theorem Reaches.exists_readItem (piece : DatePiece) (hyear : 0 ≤ t.date.year ∧ t.date.year ≤ 9999)
    (h : reading.Reaches t (piece.write t ++ more) given) :
    ∃ next, reading.readItem piece.item = some next ∧
      next.Reaches t more (given ++ piece.fields) := by
  have hmonth := t.date.month_bounds
  have hday := t.date.day_bounds
  have hminute := t.minute_lt
  cases piece with
  | year =>
    exact h.exists_readItem_plain .year { width := 4, signed := true }
      (by decide) (show t.date.year.toNat < 10000 by omega)
      (by simp only [DateField.valueAt]; omega) List.mem_cons_self
  | shortYear =>
    exact h.exists_readItem_plain .shortYear { width := 2 }
      (by decide) (show (t.date.year % 100).toNat < 100 by omega)
      (by simp only [DateField.valueAt]; omega) List.mem_cons_self
  | month =>
    exact h.exists_readItem_plain .month { width := 2 }
      (by decide) (show t.date.month < 100 by omega) rfl List.mem_cons_self
  | day =>
    exact h.exists_readItem_plain .day { width := 2 }
      (by decide) (show t.date.day < 100 by omega) rfl List.mem_cons_self
  | minute =>
    exact h.exists_readItem_plain .minute { width := 2 }
      (by decide) (show t.minute < 100 by omega) rfl List.mem_cons_self
  | hour => exact h.exists_readItem_hour
  | noon => exact h.exists_readItem_noon
  | clockHour => exact h.exists_readItem_clockHour
  | literal c =>
    rw [DatePiece.fields, List.append_nil]
    exact h.exists_readItem_literal

/-- The items of a template read all that its pieces write. -/
theorem Reaches.exists_readItems {pieces : List DatePiece}
    (hyear : 0 ≤ t.date.year ∧ t.date.year ≤ 9999)
    (h : reading.Reaches t (pieces.flatMap (DatePiece.write t)) given) :
    ∃ last, reading.readItems (pieces.map DatePiece.item) = some last ∧
      last.Reaches t [] (given ++ pieces.flatMap DatePiece.fields) := by
  induction pieces generalizing reading given with
  | nil => exact ⟨reading, rfl, by rwa [List.flatMap_nil, List.append_nil]⟩
  | cons piece pieces ih =>
    obtain ⟨next, hnext, hreaches⟩ := h.exists_readItem piece hyear
    obtain ⟨last, hlast, hend⟩ := ih hreaches
    refine ⟨last, ?_, ?_⟩
    · rw [List.map_cons, readItems, hnext]
      exact hlast
    · rwa [List.flatMap_cons, ← List.append_assoc]

end

end DateReading

/-! ## The instant again -/

/-- The pieces of a template write an instant in full: its date with a year of four digits, or of
two in the hundred years around 2000, and its time of day, unless it is midnight. Seconds cannot be
written. -/
structure DatePiece.Specify (pieces : List DatePiece) (t : Instant) : Prop where
  year : .year ∈ pieces ∧ 0 ≤ t.date.year ∧ t.date.year ≤ 9999 ∨
    .shortYear ∈ pieces ∧ 1970 ≤ t.date.year ∧ t.date.year ≤ 2069
  month : .month ∈ pieces
  day : .day ∈ pieces
  time : (∀ piece ∈ pieces, piece.isTime = false) ∧ t.second = 0 ∨
    .hour ∈ pieces ∧ .minute ∈ pieces ∨
    .clockHour ∈ pieces ∧ .minute ∈ pieces ∧ .noon ∈ pieces
  second : t.secondOfMinute = 0
  nano : t.nano = 0

namespace FieldSet

variable {t : Instant} {fields : FieldSet} {pieces : List DatePiece}

theorem Records.get?_of_mem {piece : DatePiece} {field : DateField}
    (h : fields.Records t (pieces.flatMap DatePiece.fields)) (hpiece : piece ∈ pieces)
    (hfield : field ∈ piece.fields) : fields.get? field = some (field.valueAt t) := by
  rw [h field, if_pos (List.mem_flatMap.2 ⟨piece, hpiece, hfield⟩)]

theorem Records.get?_eq_none {field : DateField}
    (h : fields.Records t (pieces.flatMap DatePiece.fields))
    (hfield : ∀ piece ∈ pieces, field ∉ piece.fields) : fields.get? field = none := by
  rw [h field, if_neg]
  intro hmem
  obtain ⟨piece, hpiece, hmem⟩ := List.mem_flatMap.1 hmem
  exact hfield piece hpiece hmem

/-- Fields that no template states. -/
theorem Records.get?_of_foreign (field : DateField)
    (h : fields.Records t (pieces.flatMap DatePiece.fields))
    (hforeign : field ∉ [.year, .yearOfCentury, .month, .day, .halfDay, .hourOfHalf, .minute]) :
    fields.get? field = none := by
  refine h.get?_eq_none fun piece _ hmem => hforeign ?_
  cases piece <;> simp only [DatePiece.fields, List.mem_cons, List.not_mem_nil, or_false] at hmem ⊢
  case hour => rcases hmem with rfl | rfl <;> simp
  all_goals simp [hmem]

theorem Records.yearOf_eq (h : fields.Records t (pieces.flatMap DatePiece.fields))
    (hspecify : DatePiece.Specify pieces t) :
    yearOf (fields.get? .year) (fields.get? .century) (fields.get? .yearOfCentury) =
      .known t.date.year := by
  have hpositive : 0 ≤ t.date.year := by
    rcases hspecify.year with ⟨-, hyear⟩ | ⟨-, hyear⟩ <;> omega
  rw [h.get?_of_foreign .century (by decide), h .year, h .yearOfCentury]
  split
  · split
    · simp [yearOf, DateField.valueAt, hpositive]
    · rfl
  · rename_i hnone
    -- a year of two digits only
    have hyear := hspecify.year.resolve_left fun hyear =>
      hnone (List.mem_flatMap.2 ⟨DatePiece.year, hyear.1, List.mem_cons_self⟩)
    rw [if_pos (List.mem_flatMap.2 ⟨DatePiece.shortYear, hyear.1, List.mem_cons_self⟩)]
    change StatedYear.known (t.date.year % 100 + if t.date.year % 100 < 70 then 2000 else 1900) = _
    rw [StatedYear.known.injEq]
    split <;> omega

/-- Nothing that is stated stands against the date. -/
theorem Records.admits_eq (field : DateField)
    (h : fields.Records t (pieces.flatMap DatePiece.fields))
    (hforeign : field ∉ [.year, .yearOfCentury, .month, .day, .halfDay, .hourOfHalf, .minute])
    (value : Int) : fields.admits field value = true := by
  rw [admits, h.get?_of_foreign field hforeign]
  rfl

theorem Records.findDate_eq (h : fields.Records t (pieces.flatMap DatePiece.fields))
    (hspecify : DatePiece.Specify pieces t) : fields.findDate = .ok t.date := by
  have hmonth : (fields.get? .month).map Int.toNat = some t.date.month := by
    rw [h.get?_of_mem hspecify.month List.mem_cons_self]
    rfl
  have hday : (fields.get? .day).map Int.toNat = some t.date.day := by
    rw [h.get?_of_mem hspecify.day List.mem_cons_self]
    rfl
  have hiso : fields.admitsIsoWeek t.date = true := by
    simp only [admitsIsoWeek, h.admits_eq .isoYear (by decide),
      h.admits_eq .isoYearOfCentury (by decide),
      h.admits_eq .isoWeek (by decide), h.admits_eq .weekday (by decide),
      h.get?_of_foreign .isoYearOfCentury (by decide)]
    simp
  have hordinal : fields.admitsOrdinal t.date = true := by
    simp only [admitsOrdinal, h.admits_eq .ordinal (by decide),
      h.admits_eq .weekFromSunday (by decide),
      h.admits_eq .weekFromMonday (by decide), Bool.and_self]
  have hdate : fields.dateOf (.known t.date.year) .unknown = .ok t.date := by
    simp only [dateOf, hmonth, hday, Date.ofYmd?_self, checked, hiso, hordinal, Bool.and_self,
      if_true]
  rw [findDate, h.yearOf_eq hspecify, h.get?_of_foreign .isoYear (by decide),
    h.get?_of_foreign .isoYearOfCentury (by decide)]
  simp only [yearOf, hdate, bind, Except.bind,
    h.admits_eq .quarter (by decide), if_true]

theorem Records.timeOfDay_eq (h : fields.Records t (pieces.flatMap DatePiece.fields))
    (htime : .hour ∈ pieces ∧ .minute ∈ pieces ∨
      .clockHour ∈ pieces ∧ .minute ∈ pieces ∧ .noon ∈ pieces) :
    fields.timeOfDay = .ok (t.hour, t.minute, 0, 0) := by
  have hstated : fields.get? .halfDay = some (t.hour / 12 : Int) ∧
      fields.get? .hourOfHalf = some (t.hour % 12 : Int) ∧
      fields.get? .minute = some (t.minute : Int) := by
    rcases htime with ⟨hhour, hminute⟩ | ⟨hhour, hminute, hnoon⟩
    · exact ⟨h.get?_of_mem hhour (by decide), h.get?_of_mem hhour (by decide),
        h.get?_of_mem hminute (by decide)⟩
    · exact ⟨h.get?_of_mem hnoon (by decide), h.get?_of_mem hhour (by decide),
        h.get?_of_mem hminute (by decide)⟩
  obtain ⟨hhalf, hhour, hminute⟩ := hstated
  have hparts : (t.hour / 12 : Int).toNat * 12 + (t.hour % 12 : Int).toNat = t.hour := by omega
  simp only [timeOfDay, hhalf, hhour, hminute, Option.map_some,
    h.get?_of_foreign .second (by decide),
    h.get?_of_foreign .nanosecond (by decide)]
  simp [hparts]

theorem Records.timeOfDay_eq_error (h : fields.Records t (pieces.flatMap DatePiece.fields))
    (htime : ∀ piece ∈ pieces, piece.isTime = false) : fields.timeOfDay = .error .notEnough := by
  have hhalf : fields.get? .halfDay = none := by
    refine h.get?_eq_none fun piece hpiece hmem => ?_
    have hdate := htime piece hpiece
    cases piece <;> simp_all [DatePiece.fields, DatePiece.isTime]
  simp only [timeOfDay, hhalf, Option.map_none]

end FieldSet

namespace DateFormat

/-- What a template writes of an instant is read back as the instant. -/
theorem parse?_write {pieces : List DatePiece} {t : Instant}
    (hspecify : DatePiece.Specify pieces t) :
    parse? (.ofList (pieces.flatMap DatePiece.directive))
      (.ofList (pieces.flatMap (DatePiece.write t))) = some t := by
  have hyear : 0 ≤ t.date.year ∧ t.date.year ≤ 9999 := by
    rcases hspecify.year with ⟨-, hyear⟩ | ⟨-, hyear⟩ <;> omega
  have hstart : DateReading.Reaches ⟨pieces.flatMap (DatePiece.write t), {}⟩ t
      (pieces.flatMap (DatePiece.write t)) [] := ⟨.inl rfl, FieldSet.records_empty t⟩
  obtain ⟨last, hread, hrest, hfields⟩ := hstart.exists_readItems hyear
  have hend : last.rest = [] := by
    rcases hrest with hrest | hrest
    · exact hrest
    · exact hrest
  have hparse : fields? (.ofList (pieces.flatMap DatePiece.directive))
      (.ofList (pieces.flatMap (DatePiece.write t))) = some last.fields := by
    rw [fields?, String.toList_ofList, String.toList_ofList, String.length_ofList,
      FormatItem.itemsOf_flatMap_directive pieces le_rfl]
    simp [hread, hend]
  rw [List.nil_append] at hfields
  rw [parse?, hparse]
  simp only [Option.bind_eq_bind, Option.bind_some]
  rcases hspecify.time with ⟨hnone, hmidnight⟩ | htime
  · have hinstant : last.fields.instant? = none := by
      rw [FieldSet.instant?, hfields.findDate_eq hspecify, hfields.timeOfDay_eq_error hnone,
        hfields.get?_of_foreign .timestamp (by decide)]
    rw [hinstant, FieldSet.date?, hfields.findDate_eq hspecify]
    exact congrArg some (Instant.eq_midnight hmidnight hspecify.nano).symm
  · have hleap : t.LeapEndsMinute := by
      intro hfull
      rw [hspecify.nano] at hfull
      exact absurd hfull (by decide)
    have hself := Instant.ofTime?_self hleap
    rw [hspecify.second, hspecify.nano] at hself
    have hinstant : last.fields.instant? = some t := by
      rw [FieldSet.instant?, hfields.findDate_eq hspecify, hfields.timeOfDay_eq htime,
        hfields.get?_of_foreign .timestamp (by decide)]
      simp [FieldSet.instantAt?, hself]
    rw [hinstant]

end DateFormat

end ClipSplice
