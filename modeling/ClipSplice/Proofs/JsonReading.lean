import ClipSplice.Json.Reader
import ClipSplice.Json.Writer
import Mathlib

/-!
# Reading JSON that was written

Whatever is written is read back (`Json.ofText?_toText`): numbers, strings with any characters in
them, arrays and objects. The only values that are not are those with a string that names no text.
Behind a value stands the mark that ends it or its neighbour, never another digit, so that every
part of a value takes what belongs to it and leaves the rest.
-/

namespace ClipSplice.Json

/-! ## What stands behind a value -/

/-- What may stand behind a value inside an array or an object, or behind everything. -/
def EndsValue (text : List Char) : Prop :=
  ∀ c, text.head? = some c → c = ',' ∨ c = ']' ∨ c = '\x7d'

theorem EndsValue.takeWhile_isDigit {text : List Char} (h : EndsValue text) :
    text.takeWhile Char.isDigit = [] := by
  cases text with
  | nil => rfl
  | cons c rest =>
    have hc : c.isDigit = false := by
      rcases h c rfl with rfl | rfl | rfl <;> decide
    rw [List.takeWhile_cons, hc]
    rfl

theorem endsValue_cons {c : Char} (h : c = ',' ∨ c = ']' ∨ c = '\x7d') (rest : List Char) :
    EndsValue (c :: rest) := by
  rintro d ⟨⟩
  exact h

/-! ## Numbers -/

/-- Only zero is written with a zero in front. -/
theorem head?_toDigits_ne_zero {n : Nat} (hn : 0 < n) :
    (Nat.toDigits 10 n).head? ≠ some '0' := by
  have hdigit : ∀ n < 10, 0 < n → [Nat.digitChar n].head? ≠ some '0' := by decide
  induction n using Nat.strongRecOn with
  | ind n ih =>
    by_cases hlt : n < 10
    · rw [Nat.toDigits_of_lt_base hlt]
      exact hdigit n hlt hn
    · rw [Nat.toDigits_of_base_le (by decide) (by omega),
        List.head?_append, Option.or_of_isSome (by simp)]
      exact ih (n / 10) (by omega) (by omega)

theorem exists_toDigits_eq_cons (n : Nat) :
    ∃ d digits, Nat.toDigits 10 n = d :: digits ∧ d.isDigit = true := by
  obtain ⟨d, digits, hcons⟩ :=
    List.exists_cons_of_ne_nil (l := Nat.toDigits 10 n) Nat.toDigits_ne_nil
  have hmem : d ∈ Nat.toDigits 10 n := hcons ▸ List.mem_cons_self
  exact ⟨d, digits, hcons, Nat.isDigit_of_mem_toDigits (by decide) (by decide) hmem⟩

theorem readDigits_toDigits (n : Nat) {rest : List Char}
    (hrest : rest.takeWhile Char.isDigit = []) :
    readDigits (Nat.toDigits 10 n ++ rest) = some (Nat.toDigits 10 n, rest) := by
  have hdigits : ∀ c ∈ Nat.toDigits 10 n, c.isDigit = true := fun _ hc =>
    Nat.isDigit_of_mem_toDigits (by decide) (by decide) hc
  have htake : (Nat.toDigits 10 n ++ rest).takeWhile Char.isDigit = Nat.toDigits 10 n := by
    rw [List.takeWhile_append_of_pos hdigits, hrest, List.append_nil]
  have hdrop : (Nat.toDigits 10 n ++ rest).dropWhile Char.isDigit = rest := by
    have hall := List.takeWhile_append_dropWhile (p := Char.isDigit) (l := rest)
    rw [List.dropWhile_append_of_pos hdigits]
    rwa [hrest, List.nil_append] at hall
  obtain ⟨d, digits, hcons, -⟩ := exists_toDigits_eq_cons n
  unfold readDigits
  rw [htake, hdrop, hcons]

theorem readFraction_of_endsValue {rest : List Char} (h : EndsValue rest) :
    readFraction rest = some (none, rest) := by
  unfold readFraction
  split
  · exact absurd (h '.' rfl) (by decide)
  · rfl

theorem readExponent_of_endsValue {rest : List Char} (h : EndsValue rest) :
    readExponent rest = some (none, rest) := by
  cases rest with
  | nil => rfl
  | cons c rest =>
    have hc : ¬ (c = 'e' ∨ c = 'E') := by
      rcases h c rfl with rfl | rfl | rfl <;> decide
    simp only [readExponent]
    rw [if_neg hc]

theorem toList_toString (n : Int) :
    (toString n).toList = (if n < 0 then ['-'] else []) ++ Nat.toDigits 10 n.natAbs := by
  rw [Int.toString_eq_repr, Int.repr_eq_if]
  by_cases hn : n < 0
  · rw [if_neg (by omega), if_pos hn, String.toList_append, Nat.toList_repr,
      show (-n).toNat = n.natAbs by omega]
    rfl
  · rw [if_pos (by omega), if_neg hn, Nat.toList_repr, show n.toNat = n.natAbs by omega,
      List.nil_append]

theorem readSign_toString (n : Int) (rest : List Char) :
    readSign ((toString n).toList ++ rest) =
      (decide (n < 0), Nat.toDigits 10 n.natAbs ++ rest) := by
  rw [toList_toString]
  by_cases hn : n < 0
  · rw [if_pos hn, decide_eq_true hn]
    rfl
  · rw [if_neg hn, decide_eq_false hn]
    obtain ⟨d, digits, hcons, hd⟩ := exists_toDigits_eq_cons n.natAbs
    rw [hcons, List.nil_append, List.cons_append]
    unfold readSign
    split
    · rename_i heq
      rw [(List.cons.inj heq).1] at hd
      exact absurd hd (by decide)
    · rename_i heq
      rw [(List.cons.inj heq).1] at hd
      exact absurd hd (by decide)
    · rfl

theorem ite_natAbs (n : Int) :
    (if decide (n < 0) = true then -(n.natAbs : Int) else (n.natAbs : Int)) = n := by
  split <;> rename_i hn <;> rw [decide_eq_true_eq] at hn <;> omega

theorem readExponent_toString {e : Int} {rest : List Char} (h : EndsValue rest) :
    readExponent ('e' :: (toString e).toList ++ rest) = some (some e, rest) := by
  have hread := readDigits_toDigits e.natAbs h.takeWhile_isDigit
  rw [List.cons_append, readExponent]
  simp only [true_or, if_true, readSign_toString, hread, Option.bind_eq_bind, Option.bind_some,
    Nat.ofDigitChars_ten_toDigits, ite_natAbs]
  rfl

/-- Digits are no leading zero with something behind it. -/
theorem head?_toDigits_and_length (n : Nat) :
    ((Nat.toDigits 10 n).head? = some '0' && 1 < (Nat.toDigits 10 n).length) = false := by
  by_cases hn : 0 < n
  · simp [head?_toDigits_ne_zero hn]
  · obtain rfl : n = 0 := by omega
    decide

/-- Digits, perhaps behind a minus, with something behind them that is no fraction. -/
theorem readNumber_toDigits (negative : Bool) (n : Nat) {behind rest : List Char}
    {exponent : Option Int} (hbehind : behind.takeWhile Char.isDigit = [])
    (hfraction : readFraction behind = some (none, behind))
    (hexponent : readExponent behind = some (exponent, rest)) :
    readNumber ((if negative then ['-'] else []) ++ Nat.toDigits 10 n ++ behind) =
      some (if exponent.isSome || (negative && n = 0) then .decimal n (exponent.getD 0)
        else .integer (if negative then -n else n), rest) := by
  have hread := readDigits_toDigits n hbehind
  have hzero := head?_toDigits_and_length n
  have hminus : ∀ after, Nat.toDigits 10 n ++ behind ≠ '-' :: after := by
    intro after heq
    obtain ⟨d, digits, hcons, hd⟩ := exists_toDigits_eq_cons n
    rw [hcons, List.cons_append, List.cons.injEq] at heq
    rw [heq.1] at hd
    exact absurd hd (by decide)
  cases negative with
  | true =>
    simp only [readNumber, if_true, List.cons_append, List.nil_append, hread, hzero, hfraction,
      hexponent, Option.bind_eq_bind, Option.bind_some, Bool.false_eq_true, if_false,
      Option.getD_none, List.append_nil, Nat.ofDigitChars_ten_toDigits, List.length_nil,
      Option.isSome_none, Bool.false_or, Bool.true_and]
    split <;> simp
  | false =>
    show readNumber (Nat.toDigits 10 n ++ behind) = _
    unfold readNumber
    split
    rename_i negative text hsign
    split at hsign
    · exact absurd ‹_› (hminus _)
    obtain ⟨rfl, rfl⟩ := Prod.mk.inj hsign
    simp only [Bool.false_eq_true, if_false, hread, hzero, hfraction, hexponent,
      Option.bind_eq_bind, Option.bind_some, Option.getD_none, List.append_nil,
      Nat.ofDigitChars_ten_toDigits, List.length_nil, Option.isSome_none, Bool.false_or,
      Bool.false_and]
    split <;> simp

theorem readNumber_writeNumber (n : JsonNumber) {rest : List Char} (h : EndsValue rest) :
    readNumber (writeNumber n ++ rest) = some (n, rest) := by
  cases n with
  | integer n =>
    have hread := readNumber_toDigits (decide (n < 0)) n.natAbs h.takeWhile_isDigit
      (readFraction_of_endsValue h) (readExponent_of_endsValue h)
    have hinteger :
        ¬(((none : Option Int).isSome || (decide (n < 0) && n.natAbs = 0)) = true) := by
      rw [Option.isSome_none, Bool.false_or, Bool.and_eq_true, decide_eq_true_eq,
        decide_eq_true_eq]
      omega
    rw [if_neg hinteger, ite_natAbs] at hread
    rw [writeNumber, toList_toString]
    simpa only [decide_eq_true_eq] using hread
  | decimal significand e =>
    have hread := readNumber_toDigits false significand rfl rfl (readExponent_toString (e := e) h)
    rw [writeNumber, Nat.toString_eq_repr, Nat.toList_repr, List.append_assoc]
    exact hread

/-! ## Strings -/

private theorem hexUnit?_hexDigit :
    ∀ n < 32, hexUnit? '0' '0' (Text.hexDigit (n / 16)) (Text.hexDigit (n % 16)) = some n := by
  decide

/-- A short escape is read as the character that it stands for. -/
private theorem readPoints_backslash {letter c : Char} (h : escaped? letter = some c)
    (rest : List Char) :
    readPoints ('\\' :: letter :: rest) =
      (readPoints rest).map fun found => (c.toNat :: found.1, found.2) := by
  have hletter : letter ≠ 'u' := by
    rintro rfl
    cases h
  rw [readPoints, h]
  · cases readPoints rest <;> rfl
  · intro _ _ _ _ _ heq _
    exact absurd heq hletter

/-- A character inside a string is read back as its code point. -/
theorem readPoints_escape (c : Char) (rest : List Char) :
    readPoints (escape c ++ rest) =
      (readPoints rest).map fun found => (c.toNat :: found.1, found.2) := by
  unfold escape
  split_ifs with hquote hbackslash hback hfeed hline hreturn htab hcontrol
  · rw [hquote]
    exact readPoints_backslash rfl rest
  · rw [hbackslash]
    exact readPoints_backslash rfl rest
  · rw [hback]
    exact readPoints_backslash rfl rest
  · rw [hfeed]
    exact readPoints_backslash rfl rest
  · rw [hline]
    exact readPoints_backslash rfl rest
  · rw [hreturn]
    exact readPoints_backslash rfl rest
  · rw [htab]
    exact readPoints_backslash rfl rest
  · have hpoint := hexUnit?_hexDigit c.toNat hcontrol
    simp only [String.reduceToList, List.cons_append, List.nil_append, readPoints, hpoint]
    cases readPoints rest <;> rfl
  · rw [List.singleton_append, readPoints, if_neg hcontrol]
    · exact hquote
    · exact fun _ _ _ _ _ heq _ => hbackslash heq
    · exact fun _ _ heq _ => hbackslash heq

theorem readPoints_flatMap_escape (text rest : List Char) :
    readPoints (text.flatMap escape ++ '"' :: rest) = some (text.map Char.toNat, rest) := by
  induction text with
  | nil => rw [List.flatMap_nil, List.nil_append, readPoints, List.map_nil]
  | cons c text ih =>
    rw [List.flatMap_cons, List.append_assoc, readPoints_escape, ih]
    rfl

private theorem isHighSurrogate_toNat (c : Char) : isHighSurrogate c.toNat = false := by
  have hvalid : c.toNat < 0xD800 ∨ 0xDFFF < c.toNat ∧ c.toNat < 0x110000 := c.valid
  simp only [isHighSurrogate, Bool.and_eq_false_iff, decide_eq_false_iff_not]
  omega

private theorem isLowSurrogate_toNat (c : Char) : isLowSurrogate c.toNat = false := by
  have hvalid : c.toNat < 0xD800 ∨ 0xDFFF < c.toNat ∧ c.toNat < 0x110000 := c.valid
  simp only [isLowSurrogate, Bool.and_eq_false_iff, decide_eq_false_iff_not]
  omega

/-- The code points of characters name these characters, for none of them is a surrogate. -/
theorem decode_map_toNat (text : List Char) : decode (text.map Char.toNat) = some text := by
  induction text with
  | nil => rfl
  | cons c text ih =>
    cases text with
    | nil =>
      simp only [List.map_cons, List.map_nil, decode, isHighSurrogate_toNat, isLowSurrogate_toNat,
        Bool.or_self, Bool.false_eq_true, if_false, Char.ofNat_toNat]
    | cons d text =>
      rw [List.map_cons, List.map_cons, decode, isLowSurrogate_toNat, isHighSurrogate_toNat,
        ← List.map_cons, ih]
      simp only [Bool.false_eq_true, if_false, Option.map_some, Char.ofNat_toNat]

theorem readString_flatMap_escape (text : String) (rest : List Char) :
    readString (text.toList.flatMap escape ++ '"' :: rest) = some (some text, rest) := by
  simp only [readString, readPoints_flatMap_escape, Option.map_some, decode_map_toNat,
    String.ofList_toList]

/-! ## Values -/

mutual

/-- All strings in a value, the names of members included, are texts. -/
def Spelled : Json → Prop
  | null => True
  | bool _ => True
  | number _ => True
  | string text => text.isSome
  | array items => ItemsSpelled items
  | object members => MembersSpelled members

/-- All strings in the items of an array are texts. -/
def ItemsSpelled : List Json → Prop
  | [] => True
  | item :: rest => Spelled item ∧ ItemsSpelled rest

/-- All strings in the members of an object are texts. -/
def MembersSpelled : List (Option String × Json) → Prop
  | [] => True
  | (name, value) :: rest => name.isSome ∧ Spelled value ∧ MembersSpelled rest

end

theorem skipSpaces_cons {c : Char} (h : isSpace c = false) (rest : List Char) :
    skipSpaces (c :: rest) = c :: rest := by
  rw [skipSpaces, List.dropWhile_cons, h]
  rfl

theorem exists_writeNumber_eq_cons (n : JsonNumber) :
    ∃ c rest, writeNumber n = c :: rest ∧ (c = '-' ∨ c.isDigit = true) := by
  cases n with
  | integer n =>
    obtain ⟨d, digits, hcons, hd⟩ := exists_toDigits_eq_cons n.natAbs
    rw [writeNumber, toList_toString, hcons]
    by_cases hn : n < 0
    · rw [if_pos hn]
      exact ⟨'-', d :: digits, rfl, .inl rfl⟩
    · rw [if_neg hn]
      exact ⟨d, digits, rfl, .inr hd⟩
  | decimal significand e =>
    obtain ⟨d, digits, hcons, hd⟩ := exists_toDigits_eq_cons significand
    rw [writeNumber, Nat.toString_eq_repr, Nat.toList_repr, hcons]
    exact ⟨d, _, rfl, .inr hd⟩

private theorem isSpace_eq_false_of_isDigit {c : Char} (h : c = '-' ∨ c.isDigit = true) :
    isSpace c = false ∧ c ≠ ']' := by
  refine ⟨?_, ?_⟩
  · rcases h with rfl | h
    · rfl
    · simp only [isSpace, Bool.or_eq_false_iff, decide_eq_false_iff_not]
      refine ⟨⟨⟨?_, ?_⟩, ?_⟩, ?_⟩ <;> rintro rfl <;> exact absurd h (by decide)
  · rintro rfl
    exact absurd h (by decide)

/-- The first character of a value is no space and closes nothing. -/
theorem exists_write_eq_cons (json : Json) :
    ∃ c rest, write json = c :: rest ∧ isSpace c = false ∧ c ≠ ']' := by
  cases json with
  | null => exact ⟨'n', _, by rw [write]; rfl, by decide, by decide⟩
  | bool b => cases b <;> exact ⟨_, _, by rw [write]; rfl, by decide, by decide⟩
  | number n =>
    obtain ⟨c, rest, hcons, hc⟩ := exists_writeNumber_eq_cons n
    exact ⟨c, rest, by rw [write, hcons], isSpace_eq_false_of_isDigit hc⟩
  | string text => exact ⟨'"', _, by rw [write]; rfl, by decide, by decide⟩
  | array items => exact ⟨'[', _, by rw [write]; rfl, by decide, by decide⟩
  | object members => exact ⟨'\x7b', _, by rw [write]; rfl, by decide, by decide⟩

theorem readValue_number {fuel : Nat} (n : JsonNumber) {rest : List Char} (h : EndsValue rest) :
    readValue (fuel + 1) (writeNumber n ++ rest) = some (number n, rest) := by
  obtain ⟨c, behind, hcons, hc⟩ := exists_writeNumber_eq_cons n
  have hread := readNumber_writeNumber n h
  rw [hcons, List.cons_append] at hread ⊢
  rw [readValue, skipSpaces_cons (isSpace_eq_false_of_isDigit hc).1]
  -- no other value starts like a number
  split
  case h_7 => rw [hread]; rfl
  all_goals
    rename_i heq
    rw [(List.cons.inj heq).1] at hc
    exact absurd hc (by decide)

theorem readValue_quote (fuel : Nat) (text : List Char) :
    readValue (fuel + 1) ('"' :: text) =
      (readString text).map fun (text, after) => (string text, after) := by
  rw [readValue]
  rfl

/-- The array whose opening bracket was read. -/
def readArray (fuel : Nat) (text : List Char) : Option (Json × List Char) :=
  match skipSpaces text with
  | ']' :: after => some (array [], after)
  | rest => (readItems fuel rest).map fun (items, after) => (array items, after)

theorem readValue_bracket (fuel : Nat) {c : Char} (hspace : isSpace c = false) (hc : c ≠ ']')
    (text : List Char) :
    readValue (fuel + 1) ('[' :: c :: text) =
      (readItems fuel (c :: text)).map fun (items, after) => (array items, after) := by
  rw [readValue]
  show readArray fuel (c :: text) = _
  rw [readArray, skipSpaces_cons hspace]
  split
  · rename_i heq
    exact absurd (List.cons.inj heq).1 hc
  · rfl

theorem readValue_brace (fuel : Nat) (text : List Char) :
    readValue (fuel + 1) ('\x7b' :: '"' :: text) =
      (readMembers fuel ('"' :: text)).map fun (members, after) => (object members, after) := by
  rw [readValue]
  rfl

theorem writeItems_cons_cons (item next : Json) (items : List Json) :
    writeItems (item :: next :: items) = write item ++ ',' :: writeItems (next :: items) := by
  rw [writeItems]
  exact List.cons_ne_nil next items

theorem exists_writeItems_eq_cons (item : Json) (items : List Json) :
    ∃ c rest, writeItems (item :: items) = c :: rest ∧ isSpace c = false ∧ c ≠ ']' := by
  obtain ⟨c, behind, hwrite, hc⟩ := exists_write_eq_cons item
  cases items with
  | nil => exact ⟨c, behind, by rw [writeItems, hwrite], hc⟩
  | cons next items => exact ⟨c, _, by rw [writeItems_cons_cons, hwrite]; rfl, hc⟩

theorem writeMembers_cons_cons (name : Option String) (value : Json)
    (next : Option String × Json) (members : List (Option String × Json)) :
    writeMembers ((name, value) :: next :: members) =
      writeString (name.getD "") ++ ':' :: write value ++
        ',' :: writeMembers (next :: members) := by
  rw [writeMembers]
  exact List.cons_ne_nil next members

theorem exists_writeMembers_eq_cons (member : Option String × Json)
    (members : List (Option String × Json)) :
    ∃ rest, writeMembers (member :: members) = '"' :: rest := by
  obtain ⟨name, value⟩ := member
  cases members with
  | nil => exact ⟨_, by rw [writeMembers]; rfl⟩
  | cons next members => exact ⟨_, by rw [writeMembers_cons_cons]; rfl⟩

/-- The name of a member, and then its value. -/
theorem readMembers_name (fuel : Nat) (name : String) (text : List Char) :
    readMembers (fuel + 1) (writeString ((some name).getD "") ++ ':' :: text) =
      match readValue fuel text with
      | none => none
      | some (value, rest) =>
        match skipSpaces rest with
        | ',' :: rest =>
          (readMembers fuel rest).map fun (members, after) => ((some name, value) :: members, after)
        | '\x7d' :: after => some ([(some name, value)], after)
        | _ => none := by
  have hread := readString_flatMap_escape name (':' :: text)
  rw [Option.getD_some, writeString, List.append_assoc, List.cons_append, List.singleton_append,
    readMembers, skipSpaces_cons (by decide)]
  simp only [hread]
  rfl

mutual

/-- A value is read back from the text that it is written as. -/
theorem readValue_write (json : Json) (hspelled : json.Spelled) {fuel : Nat}
    (hfuel : 2 * (write json).length ≤ fuel) {rest : List Char} (hrest : EndsValue rest) :
    readValue fuel (write json ++ rest) = some (json, rest) := by
  obtain ⟨fuel, rfl⟩ : ∃ n, fuel = n + 1 := by
    obtain ⟨c, behind, hwrite, -⟩ := exists_write_eq_cons json
    rw [hwrite, List.length_cons] at hfuel
    exact ⟨fuel - 1, by omega⟩
  cases json with
  | null =>
    rw [write, readValue]
    rfl
  | bool b =>
    cases b <;> rw [write, readValue] <;> rfl
  | number n =>
    rw [write, readValue_number n hrest]
  | string text =>
    rw [Spelled] at hspelled
    obtain ⟨text, rfl⟩ := Option.isSome_iff_exists.1 hspelled
    rw [write, writeString, List.append_assoc, List.cons_append, readValue_quote,
      Option.getD_some, List.singleton_append, readString_flatMap_escape]
    rfl
  | array items =>
    rw [Spelled] at hspelled
    rw [write, List.cons_append, List.cons_append, List.append_assoc, List.singleton_append]
    rw [write, List.cons_append, List.length_cons, List.length_append,
      List.length_singleton] at hfuel
    cases items with
    | nil =>
      rw [readValue]
      rfl
    | cons item items =>
      obtain ⟨c, behind, hwrite, hspace, hc⟩ := exists_writeItems_eq_cons item items
      have hitems : 2 * (writeItems (item :: items)).length + 1 ≤ fuel := by omega
      have hread := readItems_writeItems (item :: items) (List.cons_ne_nil item items) hspelled
        hitems rest
      rw [hwrite, List.cons_append] at hread ⊢
      rw [readValue_bracket fuel hspace hc, hread]
      rfl
  | object members =>
    rw [Spelled] at hspelled
    rw [write, List.cons_append, List.cons_append, List.append_assoc, List.singleton_append]
    rw [write, List.cons_append, List.length_cons, List.length_append,
      List.length_singleton] at hfuel
    cases members with
    | nil =>
      rw [readValue]
      rfl
    | cons member members =>
      obtain ⟨behind, hwrite⟩ := exists_writeMembers_eq_cons member members
      have hmembers : 2 * (writeMembers (member :: members)).length + 1 ≤ fuel := by omega
      have hread := readMembers_writeMembers (member :: members)
        (List.cons_ne_nil member members) hspelled hmembers rest
      rw [hwrite, List.cons_append] at hread ⊢
      rw [readValue_brace, hread]
      rfl

/-- The items of an array are read back, up to its end. -/
theorem readItems_writeItems (items : List Json) (hne : items ≠ [])
    (hspelled : ItemsSpelled items) {fuel : Nat}
    (hfuel : 2 * (writeItems items).length + 1 ≤ fuel) (rest : List Char) :
    readItems fuel (writeItems items ++ ']' :: rest) = some (items, rest) := by
  obtain ⟨fuel, rfl⟩ : ∃ n, fuel = n + 1 := ⟨fuel - 1, by omega⟩
  match items with
  | [] => exact absurd rfl hne
  | [item] =>
    rw [ItemsSpelled] at hspelled
    rw [writeItems] at hfuel ⊢
    rw [readItems, readValue_write item hspelled.1 (by omega)
      (endsValue_cons (.inr (.inl rfl)) rest)]
    rfl
  | item :: next :: items =>
    rw [ItemsSpelled] at hspelled
    rw [writeItems_cons_cons, List.length_append, List.length_cons] at hfuel
    have hitems : 2 * (writeItems (next :: items)).length + 1 ≤ fuel := by omega
    have hread := readItems_writeItems (next :: items) (List.cons_ne_nil next items) hspelled.2
      hitems rest
    rw [writeItems_cons_cons, List.append_assoc, List.cons_append, readItems,
      readValue_write item hspelled.1 (by omega) (endsValue_cons (.inl rfl) _)]
    show (readItems fuel (writeItems (next :: items) ++ ']' :: rest)).map _ = _
    rw [hread]
    rfl

/-- The members of an object are read back, up to its end. -/
theorem readMembers_writeMembers (members : List (Option String × Json)) (hne : members ≠ [])
    (hspelled : MembersSpelled members) {fuel : Nat}
    (hfuel : 2 * (writeMembers members).length + 1 ≤ fuel) (rest : List Char) :
    readMembers fuel (writeMembers members ++ '\x7d' :: rest) = some (members, rest) := by
  obtain ⟨fuel, rfl⟩ : ∃ n, fuel = n + 1 := ⟨fuel - 1, by omega⟩
  match members with
  | [] => exact absurd rfl hne
  | [(name, value)] =>
    obtain ⟨hname, hvalue, -⟩ := hspelled
    obtain ⟨name, rfl⟩ := Option.isSome_iff_exists.1 hname
    rw [writeMembers, List.length_append, List.length_cons] at hfuel
    rw [writeMembers, List.append_assoc, List.cons_append, readMembers_name,
      readValue_write value hvalue (by omega) (endsValue_cons (.inr (.inr rfl)) rest)]
    rfl
  | (name, value) :: next :: members =>
    obtain ⟨hname, hvalue, hrest⟩ := hspelled
    obtain ⟨name, rfl⟩ := Option.isSome_iff_exists.1 hname
    rw [writeMembers_cons_cons, List.length_append, List.length_append, List.length_cons,
      List.length_cons] at hfuel
    have hmembers : 2 * (writeMembers (next :: members)).length + 1 ≤ fuel := by omega
    have hread := readMembers_writeMembers (next :: members) (List.cons_ne_nil next members) hrest
      hmembers rest
    rw [writeMembers_cons_cons, List.append_assoc, List.append_assoc, List.cons_append,
      List.cons_append, readMembers_name,
      readValue_write value hvalue (by omega) (endsValue_cons (.inl rfl) _)]
    show (readMembers fuel (writeMembers (next :: members) ++ '\x7d' :: rest)).map _ = _
    rw [hread]
    rfl

end

/-- A value whose strings are all texts is read back from the text that it is written as. -/
theorem ofText?_toText {json : Json} (hspelled : json.Spelled) :
    ofText? json.toText = some json := by
  have hfuel : 2 * (write json).length ≤ 2 * json.toText.length + 2 := by
    rw [toText, String.length_ofList]
    omega
  have hend : EndsValue [] := nofun
  have hread := readValue_write json hspelled hfuel hend
  rw [List.append_nil] at hread
  rw [ofText?, toText, String.toList_ofList, ← toText, hread]
  rfl

end ClipSplice.Json
