import ClipSplice.Proofs.GlobMatching
import ClipSplice.Proofs.SetReading

/-!
# Globs of one bracket

A glob that is one bracket lists characters and ranges of characters; `Glob.lists` reads the list
from left to right. The pattern that is written for the glob spells the list out as a set of regular
expressions (`Spells`), which is read item by item (`readOpenSet_spelled`). The condition then holds
for the characters that the glob lists or, if it is negated, for all others
(`Condition.holds_bracket`).
-/

namespace ClipSplice

open Regex

/-- An item between the brackets of a glob. -/
inductive BracketItem where
  | single (c : Char)
  /-- All characters from one up to another. -/
  | range (low high : Char)
deriving Repr, DecidableEq

namespace BracketItem

/-- Whether an item lists a character. -/
def contains : BracketItem → Char → Bool
  | single d, c => d = c
  | range low high, c => low ≤ c && c ≤ high

/-- What stands between brackets, from left to right. A hyphen between two characters makes a range
of them; any other character stands for itself. -/
def listOf : List Char → List BracketItem
  | low :: '-' :: high :: rest => range low high :: listOf rest
  | c :: rest => single c :: listOf rest
  | [] => []

/-- Whether a range is written from the lower to the higher end. -/
def isOrdered : BracketItem → Bool
  | single _ => true
  | range low high => low ≤ high

/-- The set as which an item is read. -/
def tree : BracketItem → SetTree
  | single c => .literal ⟨c, false⟩
  | range low high => .range ⟨low, false⟩ ⟨high, false⟩

end BracketItem

/-- What can stand between the brackets of a glob: not nothing, and a closing bracket only at the
start. -/
structure BracketItem.IsList (body : List Char) : Prop where
  ne_nil : body ≠ []
  bracket : ']' ∉ body.tail

/-- A list whose hyphens mean the same in patterns: no two of them stand in a row, and none makes a
range from a closing bracket at the start. -/
structure BracketItem.IsPlainList (body : List Char) : Prop extends BracketItem.IsList body where
  hyphens : ¬ ['-', '-'] <:+: body
  range : ∀ high more, body ≠ ']' :: '-' :: high :: more

/-- Whether a bracket with the given text between its ends lists a character. -/
def Glob.lists (body : List Char) (c : Char) : Bool :=
  (BracketItem.listOf body).any fun item => item.contains c

namespace BracketItem

/-! ## Spelling -/

/-- How one character of a set is spelled in a pattern. -/
inductive Spelling : Char → List Char → Prop
  | plain {c : Char} (hc : c ∉ ['\\', '[', '&', '~']) : Spelling c [c]
  | escaped {c : Char} (hc : c ∈ ['\\', '[', '&', '~', '^']) : Spelling c ['\\', c]

/-- A text spells the characters of a set in a pattern, one after the other. -/
inductive Spells : List Char → List Char → Prop
  | nil : Spells [] []
  | cons {c : Char} {first body text : List Char} (hfirst : Spelling c first)
    (h : Spells body text) : Spells (c :: body) (first ++ text)

theorem spelling_setChar (c : Char) : Spelling c (GlobPiece.setChar c) := by
  rw [GlobPiece.setChar]
  split
  · rename_i hspecial
    refine .escaped ?_
    simp only [Bool.or_eq_true, decide_eq_true_eq] at hspecial
    rcases hspecial with ((rfl | rfl) | rfl) | rfl <;> decide
  · rename_i hplain
    refine .plain ?_
    simpa [not_or, and_assoc] using hplain

theorem spells_flatMap_setChar (body : List Char) :
    Spells body (body.flatMap GlobPiece.setChar) := by
  induction body with
  | nil => exact .nil
  | cons c body ih => exact .cons (spelling_setChar c) ih

section

variable {c d : Char} {first second body text rest : List Char}

theorem Spelling.read (h : Spelling c first) (rest : List Char) :
    readSetAtom false (first ++ rest) = some (.literal ⟨c, false⟩, rest) := by
  cases h with
  | plain hc =>
    have hslash : c ≠ '\\' := fun heq => hc (heq ▸ List.mem_cons_self)
    exact if_neg hslash
  | escaped hc =>
    simp only [List.mem_cons, List.not_mem_nil, or_false] at hc
    rcases hc with rfl | rfl | rfl | rfl | rfl <;> rfl

/-- No spelling begins with a character that has a meaning between brackets. -/
theorem Spelling.head?_ne (h : Spelling c first) (rest : List Char)
    (hd : d ∈ ['[', '&', '~'] ∨ d ≠ '\\' ∧ d ≠ c) : (first ++ rest).head? ≠ some d := by
  intro heq
  cases h with
  | plain hc =>
    obtain rfl : c = d := Option.some.inj heq
    rcases hd with hd | hd
    · exact hc (List.mem_cons_of_mem _ hd)
    · exact hd.2 rfl
  | escaped hc =>
    obtain rfl : '\\' = d := Option.some.inj heq
    rcases hd with hd | hd
    · exact absurd hd (by decide)
    · exact hd.1 rfl

theorem Spelling.ne_nil (h : Spelling c first) : first ≠ [] := by
  cases h <;> exact List.cons_ne_nil _ _

/-- A character without a meaning between brackets is spelled as it is. -/
theorem Spelling.eq_of_plain (h : Spelling c first) (hc : c ∉ ['\\', '[', '&', '~', '^']) :
    first = [c] := by
  cases h with
  | plain _ => rfl
  | escaped hc' => exact absurd hc' hc

/-- In front of the end of a set, a hyphen comes from the list. -/
theorem Spells.of_head?_append (h : Spells body text)
    (hhead : (text ++ ']' :: rest).head? = some '-') :
    ∃ body' text', body = '-' :: body' ∧ text = '-' :: text' ∧ Spells body' text' := by
  cases h with
  | nil => cases hhead
  | @cons c first body text hfirst h =>
    rw [List.append_assoc] at hhead
    by_cases hc : c = '-'
    · subst hc
      obtain rfl := hfirst.eq_of_plain (by decide)
      exact ⟨body, text, rfl, rfl, h⟩
    · exact absurd hhead (hfirst.head?_ne _ (.inr ⟨by decide, Ne.symm hc⟩))

/-! ## Reading items -/

theorem readSetItem_single (rest : List Char) (h : Spelling c first) (hrest : rest ≠ [])
    (hhyphen : ∀ after, rest = '-' :: after → after.head? = some ']') :
    readSetItem false (first ++ rest) = some (.literal ⟨c, false⟩, rest) := by
  rw [readSetItem, h.read]
  simp only [skip, Bool.false_eq_true, if_false, Option.bind_eq_bind, Option.bind_some]
  split
  · exact absurd rfl hrest
  · rename_i after
    have hplain : isPlainHyphen false after = true := by
      simp [isPlainHyphen, hhyphen after rfl]
    rw [if_pos hplain]
    rfl
  · rfl

theorem readSetItem_range (rest : List Char) (hlow : Spelling c first) (hhigh : Spelling d second)
    (hd : d ≠ ']') (hd' : d ≠ '-') :
    readSetItem false (first ++ '-' :: (second ++ rest)) =
      if c ≤ d then some (.range ⟨c, false⟩ ⟨d, false⟩, rest) else none := by
  have hhyphen : isPlainHyphen false (second ++ rest) = false := by
    have hclose := hhigh.head?_ne rest (.inr ⟨by decide, hd.symm⟩)
    have hagain := hhigh.head?_ne rest (.inr ⟨by decide, hd'.symm⟩)
    rw [isPlainHyphen, Bool.or_eq_false_iff, decide_eq_false_iff_not, decide_eq_false_iff_not]
    exact ⟨hclose, hagain⟩
  rw [readSetItem, hlow.read]
  simp only [skip, Bool.false_eq_true, if_false, Option.bind_eq_bind, Option.bind_some, hhyphen,
    hhigh.read, rangeOf?]
  split_ifs <;> rfl

/-- An item is read from where no bracket and no operation begins. -/
theorem readOpenSet_spelling {set : OpenSet} {outer : List OpenSet} {fuel : Nat}
    (h : Spelling c first) (hclose : c ≠ ']') (hhyphen : c = '-' → rest.head? ≠ some '-') :
    readOpenSet false set outer (fuel + 1) (first ++ rest) =
      (readSetItem false (first ++ rest)).bind fun (item, after) =>
        readOpenSet false (set.push item) outer fuel after := by
  cases h with
  | plain hc =>
    simp only [List.mem_cons, List.not_mem_nil, or_false, not_or] at hc
    refine readOpenSet_item rfl hc.2.1 hclose fun hop => ?_
    simp only [List.mem_cons, List.not_mem_nil, or_false] at hop
    rcases hop with rfl | rfl | rfl
    · exact absurd rfl hc.2.2.1
    · exact hhyphen rfl
    · exact absurd rfl hc.2.2.2
  | escaped _ =>
    exact readOpenSet_item rfl (by decide) (by decide) fun hop => absurd hop (by decide)

theorem readOpenSet_range {set : OpenSet} {outer : List OpenSet} {fuel : Nat}
    (hlow : Spelling c first) (hhigh : Spelling d second) (hc : c ≠ ']' ∧ c ≠ '-')
    (hd : d ≠ ']' ∧ d ≠ '-') :
    readOpenSet false set outer (fuel + 1) (first ++ '-' :: (second ++ rest)) =
      if c ≤ d then readOpenSet false (set.push (tree (range c d))) outer fuel rest else none := by
  rw [readOpenSet_spelling hlow hc.1 fun heq => absurd heq hc.2,
    readSetItem_range rest hlow hhigh hd.1 hd.2]
  split_ifs <;> rfl

theorem readOpenSet_single {set : OpenSet} {outer : List OpenSet} {fuel : Nat}
    (h : Spelling c first) (hclose : c ≠ ']') (hhyphen : c = '-' → rest.head? ≠ some '-')
    (hrest : rest ≠ []) (hlast : ∀ after, rest = '-' :: after → after.head? = some ']') :
    readOpenSet false set outer (fuel + 1) (first ++ rest) =
      readOpenSet false (set.push (tree (single c))) outer fuel rest := by
  rw [readOpenSet_spelling h hclose hhyphen, readSetItem_single rest h hrest hlast]
  rfl

/-- A list without closing bracket and without two hyphens in a row is read item by item, if its
ranges are in order. -/
theorem readOpenSet_spelled (h : Spells body text) (hbracket : ']' ∉ body)
    (hhyphens : ¬ ['-', '-'] <:+: body) (set : OpenSet) {fuel : Nat} (hfuel : text.length < fuel) :
    readOpenSet false set [] fuel (text ++ ']' :: rest) =
      if (listOf body).all isOrdered then
        some ({ set with items := ((listOf body).map tree).reverse ++ set.items }, rest)
      else none := by
  obtain ⟨fuel, rfl⟩ := Nat.exists_eq_succ_of_ne_zero (Nat.ne_zero_of_lt hfuel)
  induction body using listOf.induct generalizing text set fuel with
  | case1 low high more ih =>
    cases h with
    | @cons _ first _ _ hlow h =>
    cases h with
    | @cons _ hyphen _ _ hhyphen h =>
    cases h with
    | @cons _ second _ last hhigh hmore =>
    obtain rfl := hhyphen.eq_of_plain (by decide)
    obtain ⟨hlow', -, hhigh', hmore'⟩ : low ≠ ']' ∧ '-' ≠ ']' ∧ high ≠ ']' ∧ ']' ∉ more := by
      simpa [not_or, eq_comm] using hbracket
    have hlow'' : low ≠ '-' := by
      rintro rfl
      exact hhyphens ⟨[], high :: more, rfl⟩
    have hhigh'' : high ≠ '-' := by
      rintro rfl
      exact hhyphens ⟨[low], more, rfl⟩
    have hmore'' : ¬ ['-', '-'] <:+: more := fun hpair =>
      hhyphens (List.infix_cons (List.infix_cons (List.infix_cons hpair)))
    have hlength : last.length < fuel := by
      simp only [List.length_append, List.length_singleton] at hfuel
      omega
    obtain ⟨fuel, rfl⟩ := Nat.exists_eq_succ_of_ne_zero (Nat.ne_zero_of_lt hlength)
    simp only [List.append_assoc, List.cons_append, List.nil_append]
    rw [readOpenSet_range hlow hhigh ⟨hlow', hlow''⟩ ⟨hhigh', hhigh''⟩, listOf,
      ih hmore hmore' hmore'' _ _ hlength]
    by_cases horder : low ≤ high
    · simp [isOrdered, horder, OpenSet.push]
    · simp [isOrdered, horder]
  | case2 c more hnot ih =>
    cases h with
    | @cons _ first _ last hc hmore =>
    obtain ⟨hc', hmore'⟩ : c ≠ ']' ∧ ']' ∉ more := by
      simpa [not_or, eq_comm] using hbracket
    have hmore'' : ¬ ['-', '-'] <:+: more := fun hpair => hhyphens (List.infix_cons hpair)
    have hlength : last.length < fuel := by
      have hfirst := List.length_pos_of_ne_nil hc.ne_nil
      simp only [List.length_append] at hfuel
      omega
    obtain ⟨fuel, rfl⟩ := Nat.exists_eq_succ_of_ne_zero (Nat.ne_zero_of_lt hlength)
    -- a hyphen behind the character is the last one of the list, or it would make a range
    have hlast : ∀ after, last ++ ']' :: rest = '-' :: after → after.head? = some ']' := by
      intro after heq
      obtain ⟨further, ending, rfl, rfl, hfurther⟩ := hmore.of_head?_append (congrArg _ heq)
      cases hfurther with
      | nil => rw [← (List.cons.inj heq).2]; rfl
      | cons _ _ => exact absurd rfl (hnot _ _)
    have hhead : c = '-' → (last ++ ']' :: rest).head? ≠ some '-' := by
      rintro rfl heq
      obtain ⟨further, -, rfl, -⟩ := hmore.of_head?_append heq
      exact hhyphens ⟨[], further, rfl⟩
    have hlist : listOf (c :: more) = single c :: listOf more := by
      rw [listOf]
      exact hnot
    rw [List.append_assoc, readOpenSet_single hc hc' hhead (by simp) hlast, hlist,
      ih hmore hmore' hmore'' _ _ hlength]
    simp [isOrdered, OpenSet.push]
  | case3 =>
    cases h
    rfl

theorem takeHyphens_of_head?_ne (h : text.head? ≠ some '-') :
    takeHyphens false false text = ([], text) := by
  cases text with
  | nil => rfl
  | cons c text =>
    have hc : c ≠ '-' := fun heq => h (congrArg some heq)
    simp [takeHyphens, hc]

/-- The beginning of a set behind the mark that asks for all other characters. -/
theorem openSet_eq (negated : Bool) (hcaret : negated = true ∨ text.head? ≠ some '^') :
    openSet false ((if negated then ['^'] else []) ++ text) =
      openBehind false negated (takeHyphens false false text) := by
  cases negated with
  | true => exact openSet_eq_of_mark rfl
  | false => exact openSet_eq_of_head? (hcaret.resolve_left Bool.false_ne_true)

theorem openSet_hyphens (negated : Bool) {hyphens : List SetTree} {after : List Char}
    (hcaret : negated = true ∨ text.head? ≠ some '^')
    (htake : takeHyphens false false text = (hyphens, after)) (hafter : after ≠ [])
    (hopen : hyphens = [] → after.head? ≠ some ']') :
    openSet false ((if negated then ['^'] else []) ++ text) =
      some (⟨negated, hyphens.reverse, none⟩, after) := by
  rw [openSet_eq negated hcaret, htake]
  exact openBehind_eq_some hafter hopen

/-- A closing bracket or a hyphen at the start of a list belongs to the beginning of the set. -/
structure Opening (body front back : List Char) : Prop where
  split : body = front ++ back
  listOf_eq : listOf body = front.map single ++ listOf back
  bracket : ']' ∉ back

theorem openSet_spelled (negated : Bool) (h : Spells body text) (hlist : IsPlainList body)
    (hcaret : negated = true ∨ (text ++ ']' :: rest).head? ≠ some '^') :
    ∃ front back last, Opening body front back ∧ Spells back last ∧
      openSet false ((if negated then ['^'] else []) ++ (text ++ ']' :: rest)) =
        some (⟨negated, (front.map fun c => .literal ⟨c, false⟩).reverse, none⟩,
          last ++ ']' :: rest) := by
  cases h with
  | nil => exact absurd rfl hlist.ne_nil
  | @cons c first body last hfirst h =>
  have hbracket : ']' ∉ body := hlist.bracket
  -- what belongs to the beginning of the set must not be the lower end of a range
  have hnext : c = ']' ∨ c = '-' → listOf (c :: body) = single c :: listOf body := by
    intro hc
    rw [listOf]
    rintro high more rfl
    rcases hc with rfl | rfl
    · exact hlist.range _ _ rfl
    · exact hlist.hyphens ⟨[], high :: more, rfl⟩
  by_cases hclose : c = ']'
  · subst hclose
    obtain rfl := hfirst.eq_of_plain (by decide)
    refine ⟨[']'], body, last, ⟨rfl, hnext (.inl rfl), hbracket⟩, h, ?_⟩
    rw [openSet_eq negated hcaret]
    change (if (last ++ ']' :: rest).isEmpty then none else _) = _
    rw [if_neg (by simp)]
    rfl
  by_cases hhyphen : c = '-'
  · subst hhyphen
    obtain rfl := hfirst.eq_of_plain (by decide)
    refine ⟨['-'], body, last, ⟨rfl, hnext (.inr rfl), hbracket⟩, h, ?_⟩
    have hhead : (last ++ ']' :: rest).head? ≠ some '-' := by
      intro heq
      obtain ⟨more, -, rfl, -⟩ := h.of_head?_append heq
      exact hlist.hyphens ⟨[], more, rfl⟩
    have htake : takeHyphens false false (['-'] ++ last ++ ']' :: rest) =
        ([.literal ⟨'-', false⟩], last ++ ']' :: rest) := by
      change takeHyphens false false ('-' :: (last ++ ']' :: rest)) = _
      rw [takeHyphens, takeHyphens_of_head?_ne hhead]
      simp
    exact openSet_hyphens negated hcaret htake (by simp) nofun
  · have hbracket' : ']' ∉ c :: body := by
      simp [Ne.symm hclose, hbracket]
    refine ⟨[], c :: body, first ++ last, ⟨rfl, rfl, hbracket'⟩, .cons hfirst h, ?_⟩
    have hhead := hfirst.head?_ne (last ++ ']' :: rest) (d := '-')
      (.inr ⟨by decide, Ne.symm hhyphen⟩)
    have hhead' := hfirst.head?_ne (last ++ ']' :: rest) (d := ']')
      (.inr ⟨by decide, Ne.symm hclose⟩)
    rw [← List.append_assoc] at hhead hhead'
    exact openSet_hyphens negated hcaret (takeHyphens_of_head?_ne hhead) (by simp) fun _ => hhead'

/-- A set that lists characters and ranges is read when its ranges are in order. -/
theorem readSet_spelled (negated : Bool) (h : Spells body text) (hlist : IsPlainList body)
    (hcaret : negated = true ∨ (text ++ ']' :: rest).head? ≠ some '^') :
    readSet false ((if negated then ['^'] else []) ++ (text ++ ']' :: rest)) =
      if (listOf body).all isOrdered then
        some (⟨negated, ((listOf body).map tree).reverse, none⟩, rest)
      else none := by
  obtain ⟨front, back, last, hopening, hlast, hopen⟩ :=
    openSet_spelled negated h hlist hcaret
  have hback : ¬ ['-', '-'] <:+: back := by
    have hhyphens := hlist.hyphens
    rw [hopening.split] at hhyphens
    exact fun hpair => hhyphens (hpair.trans (List.suffix_append _ _).isInfix)
  have hread : readOpenSet false ⟨negated, (front.map fun c => .literal ⟨c, false⟩).reverse, none⟩
      [] ((last ++ ']' :: rest).length + 1) (last ++ ']' :: rest) = _ :=
    readOpenSet_spelled hlast hopening.bracket hback _ (by
      rw [List.length_append]
      omega)
  have hfront : (front.map single).all isOrdered = true := by
    simp [isOrdered]
  rw [readSet, hopen]
  simp only []
  rw [hread, hopening.listOf_eq, List.all_append, hfront, Bool.true_and, List.map_append,
    List.reverse_append, List.map_map]
  rfl

end

/-! ## Meaning -/

/-- The set as which a list is read contains what the list lists. -/
theorem exists_toClass?_ofItems {flags : Flags} (hunicode : flags.unicode = true)
    (items : List BracketItem) :
    ∃ set, (SetTree.ofItems (items.map tree)).toClass? flags = some set ∧
      ∀ c, set.contains c = items.any fun item => item.contains c := by
  have hchar (l : Literal) : flags.setChar? l = some l.char := by
    rw [Flags.setChar?, hunicode]
    rfl
  have hitem (item : BracketItem) : ∃ set, item.tree.toClass? flags = some set ∧
      ∀ c, set.contains c = item.contains c := by
    cases item with
    | single d =>
      refine ⟨.single d, ?_, fun c => ?_⟩
      · rw [tree, SetTree.toClass?, hchar]
        rfl
      · rw [Bool.eq_iff_iff, CharClass.contains_single, contains, decide_eq_true_iff, eq_comm]
    | range low high =>
      refine ⟨.range low high, ?_, fun c => rfl⟩
      rw [tree, SetTree.toClass?, hchar, hchar]
      rfl
  induction items with
  | nil => exact ⟨.none, rfl, fun c => rfl⟩
  | cons item items ih =>
    obtain ⟨first, hfirst, hcontains⟩ := hitem item
    obtain ⟨others, hothers, hcontains'⟩ := ih
    cases items with
    | nil =>
      refine ⟨first, hfirst, fun c => ?_⟩
      rw [hcontains, List.any_cons, List.any_nil, Bool.or_false]
    | cons next items =>
      refine ⟨.union first others, ?_, fun c => ?_⟩
      · change ((SetTree.union item.tree _).toClass? flags) = _
        rw [SetTree.toClass?, hfirst]
        exact congrArg (·.bind fun set => some (first.union set)) hothers
      · rw [CharClass.contains, hcontains, hcontains']
        rfl

end BracketItem

namespace GlobPiece

open BracketItem

/-- The mark in front of a list that asks for all other characters. -/
def mark (negated : Bool) : List Char := if negated then ['!'] else []

/-- The tree as which a bracket is read. -/
def bracketTree (negated : Bool) (body : List Char) : Tree :=
  .bracket negated (SetTree.ofItems ((listOf body).map tree))

theorem exists_means_bracketTree (negated : Bool) (body : List Char) :
    ∃ set : CharClass, (bracketTree negated body).Means flags set.language ∧
      ∀ c, set.contains c = (Glob.lists body c != negated) := by
  obtain ⟨set, hset, hcontains⟩ := exists_toClass?_ofItems (show flags.unicode = true from rfl)
    (listOf body)
  cases negated with
  | true =>
    refine ⟨.complement set, ⟨.one (.complement set), ?_, Node.denotes_one 0 _⟩, fun c => ?_⟩
    · rw [bracketTree, Tree.toNode?, hset]
      rfl
    · rw [CharClass.contains, hcontains, Glob.lists, Bool.bne_true]
  | false =>
    refine ⟨set, ⟨.one set, ?_, Node.denotes_one 0 _⟩, fun c => ?_⟩
    · rw [bracketTree, Tree.toNode?, hset]
      rfl
    · rw [hcontains, Glob.lists, Bool.bne_false]

/-! ## One bracket -/

theorem piecesOf_length (passed : List Char) : piecesOf passed.length passed = [] := by
  induction passed with
  | nil => rfl
  | cons c passed ih => exact ih

theorem cut?_append {mark : Char} {front : List Char} (h : mark ∉ front) :
    Text.cut? mark (front ++ [mark]) = some (front, []) :=
  Text.cut?_eq_some_iff.2 ⟨rfl, h⟩

/-- A bracket reaches up to the first closing bracket that is not at the start of the list. -/
theorem setBody?_append {negated : Bool} {body : List Char} (hlist : IsList body)
    (hmark : negated = true ∨ body.head? ≠ some '!') :
    setBody? (mark negated ++ body ++ [']']) = some (mark negated ++ body) := by
  obtain ⟨c, body, rfl⟩ := List.exists_cons_of_ne_nil hlist.ne_nil
  have hbracket : ']' ∉ body := hlist.bracket
  have hcut := cut?_append hbracket
  by_cases hc : c = ']'
  · subst hc
    cases negated with
    | true => exact congrArg (Option.map _) hcut
    | false => exact congrArg (Option.map _) hcut
  · have hwhole : ']' ∉ mark negated ++ c :: body := by
      cases negated <;> simp_all [mark, eq_comm]
    have hcut' := congrArg (Option.map Prod.fst) (cut?_append hwhole)
    rw [setBody?]
    · exact hcut'
    · intro rest heq
      cases negated with
      | true => exact hc (List.cons.inj (List.cons.inj heq).2).1
      | false =>
        obtain rfl : c = '!' := (List.cons.inj heq).1
        exact hmark.resolve_left nofun rfl
    · intro rest heq
      cases negated with
      | true => exact absurd (List.cons.inj heq).1 (by decide)
      | false => exact hc (List.cons.inj heq).1

theorem piecesOf_opening (rest : List Char) :
    piecesOf 0 ('[' :: rest) =
      match setBody? rest with
      | some inner => set inner :: piecesOf (inner.length + 1) rest
      | none => literal '[' :: piecesOf 0 rest := rfl

theorem piecesOf_bracket {negated : Bool} {body : List Char} (hlist : IsList body)
    (hmark : negated = true ∨ body.head? ≠ some '!') :
    piecesOf 0 ('[' :: (mark negated ++ body ++ [']'])) = [set (mark negated ++ body)] := by
  have hpassed := piecesOf_length (mark negated ++ body ++ [']'])
  rw [List.length_append, List.length_singleton] at hpassed
  rw [piecesOf_opening, setBody?_append hlist hmark]
  exact congrArg _ hpassed

/-- The pattern of a bracket spells out its list. -/
theorem exists_pattern_set {negated : Bool} {body : List Char}
    (hmark : negated = true ∨ body.head? ≠ some '!') :
    ∃ text, Spells body text ∧
      (set (mark negated ++ body)).pattern =
        '[' :: ((if negated then ['^'] else []) ++ text ++ [']']) ∧
      ∀ rest, negated = true ∨ (text ++ ']' :: rest).head? ≠ some '^' := by
  cases negated with
  | true => exact ⟨_, spells_flatMap_setChar body, rfl, fun _ => .inl rfl⟩
  | false =>
    cases body with
    | nil => exact ⟨[], .nil, rfl, fun rest => .inr (by simp)⟩
    | cons c body =>
      have hc : c ≠ '!' := fun heq => hmark.resolve_left nofun (congrArg some heq)
      by_cases hcaret : c = '^'
      · subst hcaret
        refine ⟨_, .cons (.escaped (by decide)) (spells_flatMap_setChar body), rfl, ?_⟩
        exact fun rest => .inr (by simp)
      · refine ⟨_, spells_flatMap_setChar (c :: body), ?_, fun rest => .inr ?_⟩
        · simp only [mark, Bool.false_eq_true, if_false, List.nil_append]
          rw [pattern]
          · rfl
          · intro more heq
            exact hc (List.cons.inj heq).1
          · intro more heq
            exact hcaret (List.cons.inj heq).1
        · rw [List.flatMap_cons, List.append_assoc]
          exact (spelling_setChar c).head?_ne _ (.inr ⟨by decide, Ne.symm hcaret⟩)

/-- A pattern cannot be read when a piece of it cannot. -/
theorem ofText?_eq_none {r : PatternReader} {text rest : List Char} {c : Char}
    (h : PatternReader.Advances {} text r (c :: rest)) (hfree : r.free = false)
    (hread : readPiece r c rest = none) : Pattern.ofText? text = none := by
  obtain ⟨fuel, hfuel, heq⟩ := h text.length le_rfl
  obtain ⟨fuel, rfl⟩ := Nat.exists_eq_succ_of_ne_zero (Nat.ne_zero_of_lt hfuel)
  have hnone : readPieces r (fuel + 1) (c :: rest) = none := by
    rw [readPieces, skip, hfree]
    simp [hread]
  rw [Pattern.ofText?, heq, hnone]
  rfl

/-- A bracket is read as a piece of a pattern when its ranges are in order. -/
theorem readPiece_bracket {r : PatternReader} {negated : Bool} {body text rest : List Char}
    (hfree : r.free = false) (hlist : IsPlainList body) (hspells : Spells body text)
    (hcaret : negated = true ∨ (text ++ ']' :: rest).head? ≠ some '^') :
    readPiece r '[' ((if negated then ['^'] else []) ++ (text ++ ']' :: rest)) =
      if (listOf body).all isOrdered then some (r.push (bracketTree negated body), rest)
      else none := by
  have hread := readSet_spelled negated hspells hlist hcaret
  change (readSet r.free _).map _ = _
  rw [hfree, hread]
  split
  · simp [OpenSet.inner, bracketTree]
  · rfl

theorem writes_bracket {negated : Bool} {body : List Char} (hlist : IsPlainList body)
    (hmark : negated = true ∨ body.head? ≠ some '!')
    (hordered : (listOf body).all isOrdered = true) :
    PatternReader.Writes (set (mark negated ++ body)).pattern [bracketTree negated body] := by
  intro r rest hfree _
  obtain ⟨text, hspells, hpattern, hcaret⟩ := exists_pattern_set hmark
  have hread := readPiece_bracket hfree hlist hspells (hcaret rest)
  rw [if_pos hordered] at hread
  rw [hpattern, List.cons_append, List.append_assoc, List.append_assoc, List.singleton_append]
  exact PatternReader.advances_of_readPiece hfree hread (by simp; omega)

/-- The whole pattern of a bracket cannot be read when a range in it is not in order. -/
theorem ofText?_bracket_eq_none {negated : Bool} {body : List Char} (hlist : IsPlainList body)
    (hmark : negated = true ∨ body.head? ≠ some '!')
    (hordered : (listOf body).all isOrdered = false) (behind : List Char) :
    Pattern.ofText? ("^(?s:".toList ++ ((set (mark negated ++ body)).pattern ++ behind)) =
      none := by
  obtain ⟨text, hspells, hpattern, hcaret⟩ := exists_pattern_set hmark
  have hread := readPiece_bracket (r := insideGroup) rfl hlist hspells (hcaret behind)
  simp only [hordered, Bool.false_eq_true, if_false] at hread
  rw [hpattern, List.cons_append, List.append_assoc, List.append_assoc, List.singleton_append]
  exact ofText?_eq_none (advances_insideGroup _) rfl hread

end GlobPiece

/-- The glob that is one bracket. -/
def Glob.bracket (negated : Bool) (body : List Char) : String :=
  .ofList ('[' :: (GlobPiece.mark negated ++ body ++ [']']))

namespace Glob

open BracketItem

theorem piecesOf_bracket {negated : Bool} {body : List Char} (hlist : IsList body)
    (hmark : negated = true ∨ body.head? ≠ some '!') :
    GlobPiece.piecesOf 0 (bracket negated body).toList =
      [.set (GlobPiece.mark negated ++ body)] := by
  rw [bracket, String.toList_ofList]
  exact GlobPiece.piecesOf_bracket hlist hmark

theorem isOrdered_of_new? {negated : Bool} {body : List Char} {glob : Glob}
    (hlist : IsPlainList body) (hmark : negated = true ∨ body.head? ≠ some '!')
    (hglob : new? (bracket negated body) true = some glob) :
    (listOf body).all isOrdered = true := by
  by_contra hordered
  rw [Bool.not_eq_true] at hordered
  have hnone := GlobPiece.ofText?_bracket_eq_none hlist hmark hordered ")\\z".toList
  obtain ⟨read, -, -, hread, -⟩ := exists_of_ofPattern?_eq_some glob.regex_eq
  rw [(new?_eq_some hglob).1, toList_patternOf, piecesOf_bracket hlist.toIsList hmark,
    List.flatMap_singleton, List.append_assoc, hnone] at hread
  cases hread

end Glob

theorem Condition.holds_glob (glob : Glob) (name : String) (now : Instant) :
    (Condition.glob glob).holds name now = glob.isMatch name := by
  rw [holds, check]
  cases glob.isMatch name <;> rfl

/-- A glob of one bracket that tells letters apart by their case holds for the characters that the
bracket lists, or for all others behind a `!`. Lists are excepted in which two hyphens stand in a
row, or in which a range begins with a closing bracket. -/
theorem Condition.holds_bracket (negated : Bool) (body : List Char)
    (hlist : BracketItem.IsPlainList body) (hmark : negated = true ∨ body.head? ≠ some '!')
    (glob : Glob) (hglob : Glob.new? (Glob.bracket negated body) true = some glob) (c : Char)
    (now : Instant) :
    (Condition.glob glob).holds (.singleton c) now = (Glob.lists body c != negated) := by
  obtain ⟨htext, hcase⟩ := Glob.new?_eq_some hglob
  have hordered := Glob.isOrdered_of_new? hlist hmark hglob
  obtain ⟨set, hmeans, hcontains⟩ := GlobPiece.exists_means_bracketTree negated body
  have hpieces : GlobPiece.AllStandFor (GlobPiece.piecesOf 0 glob.text.toList)
      [GlobPiece.bracketTree negated body] (set.language * 1) := by
    rw [htext, Glob.piecesOf_bracket hlist.toIsList hmark]
    exact GlobPiece.StandsFor.cons ⟨GlobPiece.writes_bracket hlist hmark hordered, hmeans⟩
      GlobPiece.allStandFor_nil
  rw [holds_glob, ← hcontains, Bool.eq_iff_iff,
    Glob.isMatch_iff_of_allStandFor hcase hpieces, mul_one, String.toList_singleton]
  constructor
  · rintro ⟨d, hd, heq⟩
    rwa [(List.cons.inj heq).1]
  · intro hc
    exact ⟨c, hc, rfl⟩

/-- A list with a bracket at its start, characters with a meaning in patterns, a range and a hyphen
at its end. -/
theorem Condition.holds_bracket_meaningful :
    BracketItem.IsPlainList "]&&[:a-f\\^-".toList ∧
      ∃ glob, Glob.new? (Glob.bracket true "]&&[:a-f\\^-".toList) true = some glob ∧
        (Condition.glob glob).holds "&" .first = false ∧
        (Condition.glob glob).holds "-" .first = false ∧
        (Condition.glob glob).holds "g" .first = true := by
  have hlist : BracketItem.IsPlainList "]&&[:a-f\\^-".toList := by
    refine ⟨⟨by decide, by decide⟩, by decide, ?_⟩
    intro high more heq
    exact absurd (List.cons.inj (List.cons.inj heq).2).1 (by decide)
  have hsome : (Glob.new? (Glob.bracket true "]&&[:a-f\\^-".toList) true).isSome = true := by
    decide +kernel
  obtain ⟨glob, hglob⟩ := Option.isSome_iff_exists.1 hsome
  have hholds := fun c => holds_bracket true _ hlist (.inl rfl) glob hglob c .first
  exact ⟨hlist, glob, hglob, hholds '&', hholds '-', hholds 'g'⟩

/-- Two hyphens in a row take away what stands behind them, so that `[a-c--b]` does not hold for a
letter between a and c; and `]-a` at the start is no range, so that `[]-a]` does not hold for the
character between the bracket and a. -/
theorem Condition.holds_bracket_lost :
    (Glob.lists "a-c--b".toList 'b' = true ∧
      (Glob.new? (Glob.bracket false "a-c--b".toList) true).map
        (fun glob => (Condition.glob glob).holds "b" .first) = some false) ∧
    (Glob.lists "]-a".toList '^' = true ∧
      (Glob.new? (Glob.bracket false "]-a".toList) true).map
        (fun glob => (Condition.glob glob).holds "^" .first) = some false) := by
  simp only [holds_glob]
  decide +kernel

end ClipSplice
