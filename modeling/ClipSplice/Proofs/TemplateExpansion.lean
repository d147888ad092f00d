import ClipSplice.Rule.Template

/-!
# What a written template expands to

A template can be put together from segments: texts that stand for themselves, in which dollar signs
and backslashes are doubled, and references to groups in one of the two spellings that close a key.
Such a template expands to what its segments stand for, one after the other
(`expandTemplate_flatMap_written`). Segments do not run into each other, because every segment is
read as a whole, whatever follows it (`piecesOf_written_append`). What a group took is copied and
never read as a template again.
-/

namespace ClipSplice

/-- The name or number of a group, as it can be written in a template. -/
structure GroupKey where
  chars : List Char
  ne_nil : chars ≠ []
  isKeyChar_of_mem : ∀ c ∈ chars, TemplatePiece.isKeyChar c = true

/-- What the group of a key took, if there is such a group and it took part in the match. A key of
digits is the number of a group, any other key is its name. -/
def GroupKey.taken? (found : Regex.Match) (key : GroupKey) : Option String :=
  if key.chars.all Char.isDigit then found.group? (Nat.ofDigitChars 10 key.chars 0)
  else found.named? (.ofList key.chars)

/-- The two spellings of a reference that close its key. -/
inductive ReferenceStyle where
  | dollar
  | backslash

namespace ReferenceStyle

/-- What stands in front of the key. -/
def opening : ReferenceStyle → List Char
  | dollar => ['$', '\x7b']
  | backslash => ['\\', 'g', '<']

/-- What stands behind the key. -/
def closing : ReferenceStyle → Char
  | dollar => '\x7d'
  | backslash => '>'

theorem isKeyChar_closing (style : ReferenceStyle) :
    TemplatePiece.isKeyChar style.closing = false := by
  cases style <;> rfl

end ReferenceStyle

/-- A part of a template as its author means it. -/
inductive TemplateSegment where
  /-- A text that stands for itself. -/
  | text (chars : List Char)
  /-- What a group took. -/
  | reference (style : ReferenceStyle) (key : GroupKey)

namespace TemplateSegment

/-- A character of a text: the two characters that begin references are doubled. -/
def escape (c : Char) : List Char := if c = '$' ∨ c = '\\' then [c, c] else [c]

/-- How a segment is written. -/
def written : TemplateSegment → List Char
  | text chars => chars.flatMap escape
  | reference style key => style.opening ++ key.chars ++ [style.closing]

/-- What a segment stands for: a text for itself, a reference for what its group took, or for itself
as it is written when the group took nothing. -/
def value (found : Regex.Match) : TemplateSegment → List Char
  | text chars => chars
  | reference style key =>
    match key.taken? found with
    | some taken => taken.toList
    | none => (reference style key).written

/-- The pieces as which a segment is read. -/
def pieces : TemplateSegment → List TemplatePiece
  | text chars => chars.map .literal
  | reference style key => [.reference key.chars (reference style key).written]

end TemplateSegment

namespace TemplatePiece

/-! ## Reading a segment -/

/-- Characters that a piece has taken are passed over. -/
theorem piecesOf_length_append (taken rest : List Char) :
    piecesOf taken.length (taken ++ rest) = piecesOf 0 rest := by
  induction taken with
  | nil => rfl
  | cons c taken ih => exact ih

theorem piecesOf_escape_append (c : Char) (rest : List Char) :
    piecesOf 0 (TemplateSegment.escape c ++ rest) = literal c :: piecesOf 0 rest := by
  rw [TemplateSegment.escape]
  split
  · rename_i hmark
    rcases hmark with rfl | rfl
    · rfl
    · rfl
  · rename_i hplain
    rw [not_or] at hplain
    change piecesOf 0 (c :: rest) = _
    rw [piecesOf, if_neg hplain.1, if_neg hplain.2]

/-- A key is read up to the character that closes it, which cannot stand in a key. -/
theorem closedKey?_append (style : ReferenceStyle) (key : GroupKey) (rest : List Char) :
    closedKey? style.closing (key.chars ++ style.closing :: rest) = some key.chars := by
  have hcut : Text.cut? style.closing (key.chars ++ style.closing :: rest) =
      some (key.chars, rest) := by
    refine Text.cut?_eq_some_iff.2 ⟨rfl, fun hmem => ?_⟩
    have hkeyChar := key.isKeyChar_of_mem _ hmem
    rw [style.isKeyChar_closing] at hkeyChar
    cases hkeyChar
  have hkey : (!key.chars.isEmpty && key.chars.all isKeyChar) = true := by
    rw [Bool.and_eq_true, Bool.not_eq_true', List.isEmpty_eq_false_iff, List.all_eq_true]
    exact ⟨key.ne_nil, key.isKeyChar_of_mem⟩
  rw [closedKey?, hcut]
  exact if_pos hkey

theorem ofDollar_append (key : GroupKey) (rest : List Char) :
    ofDollar ('\x7b' :: (key.chars ++ '\x7d' :: rest)) =
      (reference key.chars ('$' :: '\x7b' :: key.chars ++ ['\x7d']), key.chars.length + 2) := by
  have hclosed : closedKey? '\x7d' (key.chars ++ '\x7d' :: rest) = some key.chars :=
    closedKey?_append .dollar key rest
  rw [ofDollar, hclosed]

theorem ofBackslash_append (key : GroupKey) (rest : List Char) :
    ofBackslash ('g' :: '<' :: (key.chars ++ '>' :: rest)) =
      (reference key.chars ('\\' :: 'g' :: '<' :: key.chars ++ ['>']), key.chars.length + 3) := by
  have hclosed : closedKey? '>' (key.chars ++ '>' :: rest) = some key.chars :=
    closedKey?_append .backslash key rest
  rw [ofBackslash, hclosed]
  rfl

theorem piecesOf_reference_append (style : ReferenceStyle) (key : GroupKey) (rest : List Char) :
    piecesOf 0 (style.opening ++ key.chars ++ [style.closing] ++ rest) =
      reference key.chars (style.opening ++ key.chars ++ [style.closing]) :: piecesOf 0 rest := by
  -- the reader takes all of the reference but the character that announces it
  have htaken (front : List Char) :
      piecesOf (key.chars.length + 1 + front.length)
          (front ++ (key.chars ++ style.closing :: rest)) =
        piecesOf 0 rest := by
    have hpassed := piecesOf_length_append (front ++ key.chars ++ [style.closing]) rest
    have hlength : (front ++ key.chars ++ [style.closing]).length =
        key.chars.length + 1 + front.length := by
      simp only [List.length_append, List.length_singleton]
      omega
    rw [hlength, List.append_assoc, List.append_assoc] at hpassed
    exact hpassed
  rw [List.append_assoc, List.append_assoc]
  cases style with
  | dollar =>
    change (ofDollar ('\x7b' :: (key.chars ++ '\x7d' :: rest))).1 ::
      piecesOf (ofDollar ('\x7b' :: (key.chars ++ '\x7d' :: rest))).2 _ = _
    rw [ofDollar_append]
    exact congrArg _ (htaken ['\x7b'])
  | backslash =>
    change (ofBackslash ('g' :: '<' :: (key.chars ++ '>' :: rest))).1 ::
      piecesOf (ofBackslash ('g' :: '<' :: (key.chars ++ '>' :: rest))).2 _ = _
    rw [ofBackslash_append]
    exact congrArg _ (htaken ['g', '<'])

/-- A segment is read by itself, whatever follows it. -/
theorem piecesOf_written_append (segment : TemplateSegment) (rest : List Char) :
    piecesOf 0 (segment.written ++ rest) = segment.pieces ++ piecesOf 0 rest := by
  cases segment with
  | text chars =>
    induction chars with
    | nil => rfl
    | cons c chars ih =>
      change piecesOf 0 (TemplateSegment.escape c ++ chars.flatMap TemplateSegment.escape ++ rest) =
        literal c :: (chars.map literal ++ piecesOf 0 rest)
      rw [List.append_assoc, piecesOf_escape_append]
      exact congrArg (literal c :: ·) ih
  | reference style key => exact piecesOf_reference_append style key rest

theorem piecesOf_flatMap_written (segments : List TemplateSegment) :
    piecesOf 0 (segments.flatMap TemplateSegment.written) =
      segments.flatMap TemplateSegment.pieces := by
  induction segments with
  | nil => rfl
  | cons segment segments ih =>
    rw [List.flatMap_cons, piecesOf_written_append, ih, List.flatMap_cons]

/-! ## Filling in -/

theorem groupOf?_chars (found : Regex.Match) (key : GroupKey) :
    groupOf? found key.chars = key.taken? found := by
  simp only [groupOf?, GroupKey.taken?, List.all_eq_true]

theorem flatMap_expand_pieces (found : Regex.Match) (segment : TemplateSegment) :
    segment.pieces.flatMap (expand found) = segment.value found := by
  cases segment with
  | text chars =>
    induction chars with
    | nil => rfl
    | cons c chars ih => exact congrArg (c :: ·) ih
  | reference style key =>
    rw [TemplateSegment.pieces, List.flatMap_cons, List.flatMap_nil, List.append_nil, expand,
      groupOf?_chars, TemplateSegment.value]
    cases key.taken? found with
    | none => rfl
    | some taken => rfl

end TemplatePiece

/-- A template that is written segment by segment expands to what its segments stand for, one after
the other, for every match. -/
theorem expandTemplate_flatMap_written (found : Regex.Match) (segments : List TemplateSegment) :
    expandTemplate found (.ofList (segments.flatMap TemplateSegment.written)) =
      .ofList (segments.flatMap (TemplateSegment.value found)) := by
  rw [expandTemplate, String.toList_ofList, TemplatePiece.piecesOf_flatMap_written,
    List.flatMap_assoc]
  simp only [TemplatePiece.flatMap_expand_pieces]

/-- References beside each other and beside the characters that begin them: to a group that took
what looks like a reference, to a group by its name, and to a group that does not exist. -/
theorem expandTemplate_flatMap_written_beside :
    let found : Regex.Match :=
      ⟨"$\x7b2\x7dab".toList, [some 0, some 6, some 0, some 4, some 4, some 6], [("day", 2)]⟩
    let first : GroupKey := ⟨['1'], List.cons_ne_nil _ _, List.all_eq_true.1 rfl⟩
    let day : GroupKey := ⟨['d', 'a', 'y'], List.cons_ne_nil _ _, List.all_eq_true.1 rfl⟩
    let missing : GroupKey := ⟨['9'], List.cons_ne_nil _ _, List.all_eq_true.1 rfl⟩
    let segments : List TemplateSegment :=
      [.text ['$'], .reference .dollar first, .reference .backslash day, .text ['\\'],
        .reference .dollar missing]
    let template := "$$$\x7b1\x7d\\g<day>\\\\$\x7b9\x7d"
    String.ofList (segments.flatMap TemplateSegment.written) = template ∧
      expandTemplate found template = "$$\x7b2\x7dab\\$\x7b9\x7d" := by
  intro found first day missing segments template
  have hwritten : String.ofList (segments.flatMap TemplateSegment.written) = template := by decide
  refine ⟨hwritten, ?_⟩
  rw [← hwritten, expandTemplate_flatMap_written]
  decide

/-- A dollar sign in front of a reference, to a group that took another reference. -/
example :
    expandTemplate ⟨"$0".toList, [some 0, some 2, some 0, some 2], []⟩ "$$$\x7b1\x7d$\x7b2\x7d" =
      "$$0$\x7b2\x7d" := by
  decide

end ClipSplice
