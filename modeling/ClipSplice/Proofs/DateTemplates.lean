import ClipSplice.Proofs.MatchPlace
import ClipSplice.Proofs.WrittenDate

/-!
# Dates under a template

The pattern that is written for a template takes texts of one length only, whatever the template
(`Node.Measures`), and among them what the template writes of an instant. Where no match begins
earlier, a search therefore finds just the text that was written, which the format reads back
(`DatePattern.extract?_written`).
-/

namespace ClipSplice

open Regex
open RuleText (digitsOf length_digitsOf isDigit_of_mem_digitsOf)

namespace Regex

/-! ## Patterns of one length -/

/-- A node takes texts of one length only, and `word` is one of them. -/
def Node.Measures (node : Node) (word : List Char) : Prop :=
  ∃ L, node.Denotes L ∧ word ∈ L ∧ ∀ text ∈ L, text.length = word.length

namespace Node

variable {a b : Node} {word more : List Char} {K L : Language Char}

theorem measures_empty : Node.empty.Measures [] :=
  ⟨1, denotes_empty, rfl, fun _ htext => congrArg List.length htext⟩

theorem measures_one {number : Nat} {set : CharClass} {c : Char} (hc : set.contains c = true) :
    (Node.one number set).Measures [c] := by
  refine ⟨set.language, denotes_one number set, ⟨c, hc, rfl⟩, ?_⟩
  rintro _ ⟨d, -, rfl⟩
  rfl

theorem Measures.concat (ha : a.Measures word) (hb : b.Measures more) :
    (Node.concat a b).Measures (word ++ more) := by
  obtain ⟨K, hK, hword, hlength⟩ := ha
  obtain ⟨L, hL, hmore, hlengths⟩ := hb
  refine ⟨K * L, hK.concat hL, Language.append_mem_mul hword hmore, ?_⟩
  intro text htext
  obtain ⟨front, hfront, back, hback, rfl⟩ := Language.mem_mul.1 htext
  rw [List.length_append, List.length_append, hlength front hfront, hlengths back hback]

/-- Either of two nodes takes texts of one length when both take texts of the same length. -/
theorem Measures.either (ha : a.Measures word) (hb : b.Measures more)
    (hsame : word.length = more.length) :
    (Node.either a b).Measures word ∧ (Node.either a b).Measures more := by
  obtain ⟨K, hK, hword, hlength⟩ := ha
  obtain ⟨L, hL, hmore, hlengths⟩ := hb
  have hall : ∀ text ∈ K + L, text.length = word.length := by
    rintro text (htext | htext)
    · exact hlength text htext
    · rw [hlengths text htext, hsame]
  exact ⟨⟨K + L, hK.either hL, .inl hword, hall⟩, ⟨K + L, hK.either hL, .inr hmore, hsame ▸ hall⟩⟩

end Node

/-- A tree is understood as a node that takes texts of one length only. -/
def Tree.Measures (tree : Tree) (word : List Char) : Prop :=
  ∃ measured, tree.toNode? {} = some (measured, {}) ∧ measured.node.Measures word

/-- Pieces in a row take the texts of all of them, one after the other. -/
theorem Tree.Measures.ofPieces {trees : List Tree} {words : List (List Char)}
    (h : List.Forall₂ Tree.Measures trees words) :
    (Tree.ofPieces trees).Measures words.flatten := by
  induction h with
  | nil => exact ⟨.empty, rfl, Node.measures_empty⟩
  | @cons tree word trees words htree htrees ih =>
    obtain ⟨a, ha, hword⟩ := htree
    cases htrees with
    | nil =>
      rw [List.flatten_cons, List.flatten_nil, List.append_nil]
      exact ⟨a, ha, hword⟩
    | cons =>
      obtain ⟨b, hb, hwords⟩ := ih
      exact ⟨a.concat b, Tree.toNode?_concat ha hb, hword.concat hwords⟩

end Regex

/-! ## Pieces of templates -/

namespace DatePiece

/-- A digit as a tree. -/
def digit : Tree := .letter .digit false

/-- Half of the day as a tree: either of two words. -/
def halfDay : Tree :=
  .group [] (.alternation (.concat (.literal ⟨'A', false⟩) (.literal ⟨'M', false⟩))
    (.concat (.literal ⟨'P', false⟩) (.literal ⟨'M', false⟩)))

/-- The trees as which a piece of a template is read. -/
def trees : DatePiece → List Tree
  | year => [.repetition 4 (some 4) true digit]
  | noon => [halfDay]
  | literal c => [.literal ⟨c, false⟩]
  | _ => [digit, digit]

theorem contains_digit {c : Char} (hc : c.isDigit = true) :
    (CharClass.named .digit).contains c = true := by
  have hbounds : 48 ≤ c.toNat ∧ c.toNat ≤ 57 := Char.isDigit_iff_toNat.1 hc
  have hall : ∀ n < 58, 48 ≤ n → (CharClass.named .digit).contains (Char.ofNat n) = true := by
    decide +kernel
  rw [← c.ofNat_toNat]
  exact hall c.toNat (by omega) hbounds.1

theorem measures_digit {c : Char} (hc : c.isDigit = true) : digit.Measures [c] :=
  ⟨.one (.named .digit), rfl, Node.measures_one (contains_digit hc)⟩

theorem measures_literal (c : Char) : (Tree.literal ⟨c, false⟩).Measures [c] :=
  ⟨.one (.single c), rfl, Node.measures_one (CharClass.contains_single.2 rfl)⟩

/-- Four digits, with the room that they take. -/
def fourDigits : Measured :=
  ⟨.copies (.one 0 (.named .digit)) (.one 0 (.named .digit)) 3, ⟨5920, 20464⟩, some 4⟩

theorem repeated?_digit :
    (Measured.one (.named .digit)).repeated? 4 (some 4) true = some fourDigits := by
  decide +kernel

theorem measures_fourDigits {digits : List Char} (hlength : digits.length = 4)
    (hdigits : ∀ c ∈ digits, c.isDigit = true) :
    (Tree.repetition 4 (some 4) true digit).Measures digits := by
  refine ⟨fourDigits, ?_, ?_⟩
  · have hdigit : digit.toNode? {} = some (.one (.named .digit), {}) := rfl
    simp only [Tree.toNode?, hdigit, Option.bind_eq_bind, Option.bind_some, Bool.bne_false,
      repeated?_digit]
    rfl
  · obtain ⟨a, b, c, d, rfl⟩ : ∃ a b c d, digits = [a, b, c, d] := List.length_eq_four.1 hlength
    have hone : ∀ e ∈ [a, b, c, d], (Node.one 0 (.named .digit)).Measures [e] :=
      fun e he => Node.measures_one (contains_digit (hdigits e he))
    simp only [List.forall_mem_cons] at hone
    obtain ⟨ha, hb, hc, hd, -⟩ := hone
    exact ha.concat (hb.concat (hc.concat hd))

theorem measures_halfDay : halfDay.Measures ['A', 'M'] ∧ halfDay.Measures ['P', 'M'] := by
  have hone (c : Char) : (Node.one 0 (.single c)).Measures [c] :=
    Node.measures_one (CharClass.contains_single.2 rfl)
  obtain ⟨hmorning, hevening⟩ :=
    ((hone 'A').concat (hone 'M')).either ((hone 'P').concat (hone 'M')) rfl
  exact ⟨⟨_, rfl, hmorning⟩, ⟨_, rfl, hevening⟩⟩

/-- The trees of a piece take what the piece writes. -/
theorem exists_words (piece : DatePiece) (t : Instant) :
    ∃ words, List.Forall₂ Tree.Measures piece.trees words ∧ words.flatten = piece.write t := by
  have htwo : ∀ n, ∃ words, List.Forall₂ Tree.Measures [digit, digit] words ∧
      words.flatten = digitsOf 2 n := by
    intro n
    obtain ⟨a, b, hdigits⟩ : ∃ a b, digitsOf 2 n = [a, b] :=
      List.length_eq_two.1 (length_digitsOf 2 n)
    have hall : ∀ c ∈ [a, b], c.isDigit = true := fun c hc =>
      isDigit_of_mem_digitsOf (hdigits ▸ hc)
    simp only [List.forall_mem_cons] at hall
    obtain ⟨ha, hb, -⟩ := hall
    exact ⟨[[a], [b]], .cons (measures_digit ha) (.cons (measures_digit hb) .nil), hdigits.symm⟩
  cases piece with
  | year =>
    refine ⟨[digitsOf 4 t.date.year.toNat], .cons ?_ .nil, by simp [write]⟩
    exact measures_fourDigits (length_digitsOf _ _) fun _ => isDigit_of_mem_digitsOf
  | noon =>
    rw [write]
    split
    · exact ⟨[['A', 'M']], .cons measures_halfDay.1 .nil, rfl⟩
    · exact ⟨[['P', 'M']], .cons measures_halfDay.2 .nil, rfl⟩
  | literal c => exact ⟨[[c]], .cons (measures_literal c) .nil, rfl⟩
  | shortYear => exact htwo _
  | month => exact htwo _
  | day => exact htwo _
  | hour => exact htwo _
  | minute => exact htwo _
  | clockHour => exact htwo _

/-! ### Reading -/

open PatternReader

theorem writes_digit : Writes ['\\', 'd'] [digit] := by
  rintro ⟨free, captures, names, pieces, alternatives, groups⟩ rest hfree -
  obtain rfl : free = false := hfree
  exact advances_of_readPiece rfl rfl (by simp)

theorem writes_twoDigits : Writes ['\\', 'd', '\\', 'd'] [digit, digit] :=
  writes_digit.append writes_digit fun _ _ => by simp

theorem writes_fourDigits :
    Writes ['\\', 'd', '\x7b', '4', '\x7d'] [.repetition 4 (some 4) true digit] := by
  rintro ⟨free, captures, names, pieces, alternatives, groups⟩ rest hfree hrest
  obtain rfl : free = false := hfree
  have hbounds : readBounds false ('4' :: '\x7d' :: rest) = some (4, some 4, rest) := rfl
  refine (writes_digit _ ('\x7b' :: '4' :: '\x7d' :: rest) rfl (by simp)).trans
    (advances_of_readPiece rfl ?_ (by simp; omega))
  rw [readPiece, hbounds]
  simp only [skip, Bool.false_eq_true, if_false, readGreed_eq hrest]
  rw [repeatLast?_eq rfl (by simp [digit])]
  rfl

theorem writes_halfDay :
    Writes ['(', '?', ':', 'A', 'M', '|', 'P', 'M', ')'] [halfDay] := by
  rintro ⟨free, captures, names, pieces, alternatives, groups⟩ rest hfree -
  obtain rfl : free = false := hfree
  let outside : PatternReader := ⟨false, captures, names, pieces, alternatives, groups⟩
  let inside : PatternReader := outside.openGroup (.plain []) false
  let second : PatternReader := (((inside.push (.literal ⟨'A', false⟩)).push
    (.literal ⟨'M', false⟩))).alternate
  have hopen : outside.Advances
      ('(' :: '?' :: ':' :: 'A' :: 'M' :: '|' :: 'P' :: 'M' :: ')' :: rest)
      inside ('A' :: 'M' :: '|' :: 'P' :: 'M' :: ')' :: rest) :=
    advances_of_readPiece rfl rfl (by simp)
  have hfirst : inside.Advances ('A' :: 'M' :: '|' :: 'P' :: 'M' :: ')' :: rest) second
      ('P' :: 'M' :: ')' :: rest) :=
    ((advances_literal rfl rfl).trans (advances_literal rfl rfl)).trans
      (advances_of_readPiece rfl rfl le_rfl)
  have hclose : second.Advances ('P' :: 'M' :: ')' :: rest)
      { outside with pieces := halfDay :: pieces } rest :=
    ((advances_literal rfl rfl).trans (advances_literal rfl rfl)).trans
      (advances_of_readPiece rfl rfl le_rfl)
  exact (hopen.trans hfirst).trans hclose

theorem writes_trees (piece : DatePiece) : Writes piece.pattern piece.trees := by
  cases piece with
  | year => exact writes_fourDigits
  | noon => exact writes_halfDay
  | literal c => exact fun _ _ hfree _ => advances_escapeChar c hfree
  | shortYear => exact writes_twoDigits
  | month => exact writes_twoDigits
  | day => exact writes_twoDigits
  | hour => exact writes_twoDigits
  | minute => exact writes_twoDigits
  | clockHour => exact writes_twoDigits

/-! ### Whole templates -/

/-- No piece begins with a question mark, which would change how the piece in front is repeated. -/
theorem head?_pattern_append (piece : DatePiece) (rest : List Char) :
    (piece.pattern ++ rest).head? ≠ some '?' := by
  cases piece with
  | literal c => exact head?_escapeChar_append c rest
  | _ => exact fun h => absurd (Option.some.inj h) (by decide)

theorem head?_flatMap_pattern_append (pieces : List DatePiece) {rest : List Char}
    (hrest : rest.head? ≠ some '?') : (pieces.flatMap pattern ++ rest).head? ≠ some '?' := by
  cases pieces with
  | nil => exact hrest
  | cons piece pieces =>
    rw [List.flatMap_cons, List.append_assoc]
    exact head?_pattern_append piece _

theorem writes_flatMap (pieces : List DatePiece) :
    Writes (pieces.flatMap pattern) (pieces.flatMap trees) := by
  induction pieces with
  | nil => exact writes_nil
  | cons piece pieces ih =>
    rw [List.flatMap_cons, List.flatMap_cons]
    exact (writes_trees piece).append ih fun _ => head?_flatMap_pattern_append pieces

theorem exists_words_flatMap (pieces : List DatePiece) (t : Instant) :
    ∃ words, List.Forall₂ Tree.Measures (pieces.flatMap trees) words ∧
      words.flatten = pieces.flatMap (write t) := by
  induction pieces with
  | nil => exact ⟨[], .nil, rfl⟩
  | cons piece pieces ih =>
    obtain ⟨first, hfirst, hwrite⟩ := piece.exists_words t
    obtain ⟨others, hothers, hwrites⟩ := ih
    refine ⟨first ++ others, List.rel_append hfirst hothers, ?_⟩
    rw [List.flatten_append, hwrite, hwrites, List.flatMap_cons]

end DatePiece

/-- The first match of a pattern of one length is found where its text stands, unless a match begins
earlier. -/
theorem Regex.exists_find?_of_measures {pattern text : String} {caseInsensitive : Bool}
    {regex : Regex} {before word after : List Char}
    (hregex : ofPattern? pattern caseInsensitive = some regex)
    (hmeasures : regex.program.Measures word) (htext : text.toList = before ++ word ++ after)
    (hfirst : ∀ front back, before = front ++ back → back ≠ [] →
      ¬ regex.BeginsAt front (back ++ word ++ after)) :
    ∃ m, regex.find? text = some m ∧ m.text = .ofList word := by
  obtain ⟨L, hdenotes, hword, hlength⟩ := hmeasures
  have hbegins : regex.BeginsAt before (word ++ after) := by
    obtain ⟨q, hq, -⟩ := (hdenotes ⟨before.getLast?, word ++ after⟩ after).2 ⟨word, hword, rfl⟩
    exact ⟨q, hq⟩
  have hmatch : regex.isMatch text = true := by
    obtain ⟨q, hq⟩ := hbegins
    exact isMatch_iff.2 ⟨before, word ++ after, q, by rw [htext, List.append_assoc], hq⟩
  obtain ⟨m, hm⟩ := Option.isSome_iff_exists.1 hmatch
  obtain ⟨front, taken, back, hsplit, hlies⟩ := exists_lies hregex hm
  obtain ⟨q, rfl, htakes⟩ := hlies.takes
  obtain ⟨found, hfound, hahead⟩ := (hdenotes _ _).1 ⟨q, htakes, rfl⟩
  obtain rfl : taken = found := List.append_cancel_right hahead
  have hwhole : front ++ (taken ++ q.ahead) = before ++ (word ++ after) := by
    rw [← List.append_assoc, ← List.append_assoc, ← hsplit, htext]
  refine ⟨m, hm, ?_⟩
  -- a match in front of the text is excluded, and one behind it would not be the first
  rcases lt_trichotomy front.length before.length with hshort | hsame | hlong
  · obtain ⟨later, rfl, hlater⟩ : ∃ later, before = front ++ later ∧
        taken ++ q.ahead = later ++ (word ++ after) := by
      rcases List.append_eq_append_iff.1 hwhole with ⟨later, hbefore, hrest⟩ | ⟨later, hfront, -⟩
      · exact ⟨later, hbefore, hrest⟩
      · rw [hfront, List.length_append] at hshort
        omega
    have hne : later ≠ [] := by
      rintro rfl
      simp at hshort
    refine absurd ⟨q, ?_⟩ (hfirst front later rfl hne)
    rwa [List.append_assoc, ← hlater]
  · obtain ⟨-, hbehind⟩ := List.append_inj hwhole hsame
    rw [hlies.text, (List.append_inj hbehind (hlength taken hfound)).1]
  · exact absurd hbegins (hlies.first before (word ++ after)
      (by rw [List.append_assoc, hwhole]) hlong)

namespace DatePattern

theorem ofTemplate?_eq_some {template : String} {pattern : DatePattern}
    (h : ofTemplate? template = some pattern) :
    pattern.pattern.toList =
        (DatePiece.ofTemplate template.toList).flatMap DatePiece.pattern ∧
      pattern.format =
        .ofList ((DatePiece.ofTemplate template.toList).flatMap DatePiece.directive) := by
  unfold ofTemplate? new? at h
  dsimp only at h
  split at h
  · cases h
    exact ⟨String.toList_ofList, rfl⟩
  · cases h

theorem measures_program {template : String} {pattern : DatePattern}
    (hpattern : ofTemplate? template = some pattern) (t : Instant) :
    pattern.regex.program.Measures
      ((DatePiece.ofTemplate template.toList).flatMap (DatePiece.write t)) := by
  obtain ⟨read, measured, flags, hread, hnode, hprogram⟩ :=
    exists_of_ofPattern?_eq_some pattern.regex_eq
  rw [(ofTemplate?_eq_some hpattern).1] at hread
  have hadvances := DatePiece.writes_flatMap (DatePiece.ofTemplate template.toList) {} [] rfl
    (by decide)
  rw [List.append_nil] at hadvances
  obtain ⟨words, hwords, hflatten⟩ :=
    DatePiece.exists_words_flatMap (DatePiece.ofTemplate template.toList) t
  obtain ⟨inner, hinner, L, hdenotes, hword, hlength⟩ := Tree.Measures.ofPieces hwords
  have htree : read.tree =
      Tree.ofPieces ((DatePiece.ofTemplate template.toList).flatMap DatePiece.trees) := by
    rw [hadvances.tree_eq hread]
    simp [PatternReader.inner, Tree.ofAlternatives]
  rw [htree, Tree.toNode?_capture hinner] at hnode
  cases hnode
  have htakes : pattern.regex.program.Takes = inner.node.Takes :=
    hprogram.trans inner.node.takes_whole
  refine ⟨L, ?_, hflatten ▸ hword, hflatten ▸ hlength⟩
  rwa [Node.Denotes, htakes]

/-- The date that a template writes into a name is found there and read back, whatever stands in
front of it and behind it, provided that no match begins earlier. -/
theorem extract?_written (template before after : String) (pattern : DatePattern) (t : Instant)
    (hpattern : ofTemplate? template = some pattern)
    (hspecify : DatePiece.Specify (DatePiece.ofTemplate template.toList) t)
    (hfirst : ∀ front back, before.toList = front ++ back → back ≠ [] →
      ¬ pattern.regex.BeginsAt front
        (back ++ (DatePiece.ofTemplate template.toList).flatMap (DatePiece.write t) ++
          after.toList)) :
    pattern.extract? (before ++
      .ofList ((DatePiece.ofTemplate template.toList).flatMap (DatePiece.write t)) ++ after) =
        some t := by
  have hsplit : (before ++ .ofList
        ((DatePiece.ofTemplate template.toList).flatMap (DatePiece.write t)) ++ after).toList =
      before.toList ++ (DatePiece.ofTemplate template.toList).flatMap (DatePiece.write t) ++
        after.toList := by simp
  obtain ⟨m, hfind, htext⟩ := Regex.exists_find?_of_measures pattern.regex_eq
    (measures_program hpattern t) hsplit hfirst
  rw [extract?, hfind, Option.bind_some, htext, (ofTemplate?_eq_some hpattern).2]
  exact DateFormat.parse?_write hspecify

/-- A time on a clock face and characters with a meaning in formats, between digits that belong to
no date. -/
theorem extract?_written_afternoon :
    ∃ pattern, ofTemplate? "hh.mmPM DD%MM%YYYY" = some pattern ∧
      pattern.extract? ("ep 1" ++ "02.30PM 01%12%2005" ++ "0.mp3") =
        some ⟨⟨2005, 12, 1, by decide⟩, 52200, 0, by decide, by decide⟩ := by
  let t : Instant := ⟨⟨2005, 12, 1, by decide⟩, 52200, 0, by decide, by decide⟩
  have hstart : (ofTemplate? "hh.mmPM DD%MM%YYYY").bind (fun pattern =>
      (pattern.regex.find? "ep 102.30PM 01%12%20050.mp3").bind fun m => m.marks[0]?) =
        some (some 4) := by
    decide +kernel
  obtain ⟨pattern, hpattern, hstart⟩ := Option.bind_eq_some_iff.1 hstart
  obtain ⟨m, hfind, hstart⟩ := Option.bind_eq_some_iff.1 hstart
  have hspecify : DatePiece.Specify (DatePiece.ofTemplate "hh.mmPM DD%MM%YYYY".toList) t :=
    ⟨by decide, by decide, by decide, by decide, by decide, by decide⟩
  have hwritten : "02.30PM 01%12%2005" =
      .ofList ((DatePiece.ofTemplate "hh.mmPM DD%MM%YYYY".toList).flatMap (DatePiece.write t)) := by
    decide +kernel
  refine ⟨pattern, hpattern, ?_⟩
  rw [hwritten]
  refine extract?_written _ "ep 1" "0.mp3" pattern t hpattern hspecify ?_
  intro front back hsplit hback
  have hlength : front.length + back.length = 4 := by
    rw [← List.length_append, ← hsplit]
    rfl
  have hpos : 0 < back.length := List.length_pos_iff.2 hback
  refine not_beginsAt_of_find? pattern.regex_eq hfind hstart ?_ (by omega)
  rw [← List.append_assoc, ← List.append_assoc, ← hsplit]
  decide +kernel

end DatePattern

end ClipSplice
