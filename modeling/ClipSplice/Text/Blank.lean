import ClipSplice.Unicode.RangeTable

/-!
# Blanks and lines

Blank characters are those with the property `White_Space`. Rule text is separated by blanks,
templates for dates skip them, and excerpts of a source are trimmed of them. A line ends at a line
feed; one carriage return before it belongs to the line end.
-/

namespace ClipSplice

/-- The code points with the property `White_Space`. -/
def blankTable : RangeTable :=
  ⟨[(0x9, 0xd), (0x20, 0x20), (0x85, 0x85), (0xa0, 0xa0), (0x1680, 0x1680), (0x2000, 0x200a),
    (0x2028, 0x2029), (0x202f, 0x202f), (0x205f, 0x205f), (0x3000, 0x3000)]⟩

/-- Whether a character is blank. -/
def isBlank (c : Char) : Bool := blankTable.contains c

theorem isBlank_iff {c : Char} :
    isBlank c = true ↔ ∃ r ∈ blankTable.ranges, r.1 ≤ c.toNat ∧ c.toNat ≤ r.2 :=
  RangeTable.search_eq_true_iff (by decide)

namespace Text

/-- The text without leading blanks. -/
def trimStart (text : List Char) : List Char := text.dropWhile isBlank

/-- The text without trailing blanks. -/
def trimEnd (text : List Char) : List Char := (trimStart text.reverse).reverse

/-- The text without leading and trailing blanks. -/
def trim (text : List Char) : List Char := trimEnd (trimStart text)

/-- The first line of a text, without its line end. -/
def firstLine (text : List Char) : List Char :=
  match text.span (· ≠ '\n') with
  | (line, []) => line
  | (line, _ :: _) => if line.getLast? = some '\r' then line.dropLast else line

/-- The length of a text in bytes when it is encoded as UTF-8. -/
def byteSize : List Char → Nat
  | [] => 0
  | c :: rest => c.utf8Size + byteSize rest

theorem byteSize_append (front back : List Char) :
    byteSize (front ++ back) = byteSize front + byteSize back := by
  induction front with
  | nil => simp [byteSize]
  | cons c rest ih => simp [byteSize, ih, Nat.add_assoc]

/-- The longest beginning of a text that fits into `n` bytes, and the rest. A text never splits
inside a character. -/
def splitAtByte : Nat → List Char → List Char × List Char
  | _, [] => ([], [])
  | n, c :: rest =>
    if c.utf8Size ≤ n then
      let (front, back) := splitAtByte (n - c.utf8Size) rest
      (c :: front, back)
    else ([], c :: rest)

@[simp] theorem splitAtByte_append (n : Nat) (text : List Char) :
    (splitAtByte n text).1 ++ (splitAtByte n text).2 = text := by
  induction text generalizing n with
  | nil => rfl
  | cons c rest ih => by_cases h : c.utf8Size ≤ n <;> simp [splitAtByte, h, ih]

/-- The part of `text` before the first occurrence of `mark` and the part after it. -/
def cut? (mark : Char) : List Char → Option (List Char × List Char)
  | [] => none
  | c :: rest =>
    if c = mark then some ([], rest)
    else (cut? mark rest).map fun (front, back) => (c :: front, back)

/-- Cutting loses nothing but the mark, and stops at its first occurrence. -/
theorem cut?_eq_some_iff {mark : Char} {text front back : List Char} :
    cut? mark text = some (front, back) ↔ text = front ++ mark :: back ∧ mark ∉ front := by
  induction text generalizing front with
  | nil => simp [cut?]
  | cons c rest ih =>
    by_cases h : c = mark
    · cases front with
      | nil => simp [cut?, h]
      | cons d front =>
        simp only [cut?, h, if_true, Option.some.injEq, Prod.mk.injEq, List.cons_append,
          List.cons.injEq, List.mem_cons, not_or]
        constructor
        · intro h'
          exact absurd h'.1 (by simp)
        · rintro ⟨⟨rfl, _⟩, h', _⟩
          exact absurd rfl h'
    · rw [cut?, if_neg h, Option.map_eq_some_iff]
      constructor
      · rintro ⟨⟨front', back'⟩, found, same⟩
        obtain ⟨rfl, rfl⟩ := Prod.mk.inj same
        obtain ⟨rfl, absent⟩ := ih.1 found
        exact ⟨rfl, by simpa [Ne.symm h] using absent⟩
      · rintro ⟨split, absent⟩
        cases front with
        | nil => exact absurd (List.cons.inj split).1 h
        | cons d front =>
          rw [List.cons_append, List.cons.injEq] at split
          obtain ⟨rfl, split⟩ := split
          exact ⟨(front, back), ih.2 ⟨split, fun h' => absent (List.mem_cons_of_mem _ h')⟩, rfl⟩

/-- The rest of `text` after `start`, when it begins so. -/
def after? : (start text : List Char) → Option (List Char)
  | [], text => some text
  | _ :: _, [] => none
  | s :: start, c :: text => if s = c then after? start text else none

theorem after?_eq_some_iff {start text rest : List Char} :
    after? start text = some rest ↔ text = start ++ rest := by
  induction start generalizing text with
  | nil => simp [after?]
  | cons s start ih =>
    cases text with
    | nil => simp [after?]
    | cons c text =>
      by_cases h : s = c
      · simp [after?, h, ih]
      · simp [after?, h, Ne.symm h]

end Text

end ClipSplice
