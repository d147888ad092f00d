import ClipSplice.Proofs.PatternSearch
import Mathlib.Computability.Language

/-!
# What a pattern means

A pattern without conditions on what stands around it means a language: it takes the texts of the
language, wherever they stand (`Node.Denotes`, `Tree.Means`). Pieces in a row mean the product of
what each of them means. `PatternReader.Advances` follows the reading of a pattern from place to
place, so that the tree of a longer pattern is found piece by piece.
-/

namespace ClipSplice.Regex

open Computability

/-! ## Languages of nodes -/

/-- The texts of one character of a set. -/
def CharClass.language (set : CharClass) : Language Char :=
  {text | ∃ c, set.contains c = true ∧ text = [c]}

theorem CharClass.contains_single {c d : Char} : (single c).contains d = true ↔ d = c := by
  rw [single, contains, Bool.and_eq_true, decide_eq_true_iff, decide_eq_true_iff]
  constructor
  · rintro ⟨hlow, hhigh⟩
    exact Char.le_antisymm hhigh hlow
  · rintro rfl
    exact ⟨Char.le_refl d, Char.le_refl d⟩

theorem CharClass.language_single (c : Char) : (single c).language = {[c]} := by
  ext text
  constructor
  · rintro ⟨d, hd, rfl⟩
    rw [contains_single.1 hd]
    rfl
  · rintro rfl
    exact ⟨c, contains_single.2 rfl, rfl⟩

/-- The texts that a node takes are those of a language, wherever they stand. -/
def Node.Denotes (node : Node) (L : Language Char) : Prop :=
  ∀ p rest, (∃ q, node.Takes p q ∧ q.ahead = rest) ↔ ∃ taken ∈ L, p.ahead = taken ++ rest

namespace Node

variable {a b : Node} {K L : Language Char}

theorem Denotes.unique (hK : a.Denotes K) (hL : a.Denotes L) : K = L := by
  ext text
  have h := (hK ⟨none, text⟩ []).symm.trans (hL ⟨none, text⟩ [])
  simpa using h

theorem denotes_empty : Node.empty.Denotes 1 := by
  intro p rest
  simp [Takes, Language.mem_one]

theorem denotes_one (number : Nat) (set : CharClass) :
    (Node.one number set).Denotes set.language := by
  intro p rest
  constructor
  · rintro ⟨q, ⟨c, after, hahead, hc, rfl⟩, rfl⟩
    exact ⟨[c], ⟨c, hc, rfl⟩, hahead⟩
  · rintro ⟨_, ⟨c, hc, rfl⟩, hahead⟩
    exact ⟨⟨some c, rest⟩, ⟨c, rest, hahead, hc, rfl⟩, rfl⟩

theorem Denotes.concat (ha : a.Denotes K) (hb : b.Denotes L) :
    (Node.concat a b).Denotes (K * L) := by
  intro p rest
  constructor
  · rintro ⟨q, ⟨u, hu, hq⟩, hrest⟩
    obtain ⟨last, hlast, hmiddle⟩ := (hb u rest).1 ⟨q, hq, hrest⟩
    obtain ⟨front, hfront, hstart⟩ := (ha p u.ahead).1 ⟨u, hu, rfl⟩
    exact ⟨front ++ last, Language.append_mem_mul hfront hlast, by simp [hstart, hmiddle]⟩
  · rintro ⟨taken, htaken, hstart⟩
    obtain ⟨front, hfront, last, hlast, rfl⟩ := Language.mem_mul.1 htaken
    rw [List.append_assoc] at hstart
    obtain ⟨u, hu, hmiddle⟩ := (ha p (last ++ rest)).2 ⟨front, hfront, hstart⟩
    obtain ⟨q, hq, hrest⟩ := (hb u rest).2 ⟨last, hlast, hmiddle⟩
    exact ⟨q, ⟨u, hu, hq⟩, hrest⟩

theorem Denotes.either (ha : a.Denotes K) (hb : b.Denotes L) :
    (Node.either a b).Denotes (K + L) := by
  intro p rest
  constructor
  · rintro ⟨q, hq | hq, hrest⟩
    · obtain ⟨taken, htaken, hahead⟩ := (ha p rest).1 ⟨q, hq, hrest⟩
      exact ⟨taken, .inl htaken, hahead⟩
    · obtain ⟨taken, htaken, hahead⟩ := (hb p rest).1 ⟨q, hq, hrest⟩
      exact ⟨taken, .inr htaken, hahead⟩
  · rintro ⟨taken, htaken | htaken, hahead⟩
    · obtain ⟨q, hq, hrest⟩ := (ha p rest).2 ⟨taken, htaken, hahead⟩
      exact ⟨q, .inl hq, hrest⟩
    · obtain ⟨q, hq, hrest⟩ := (hb p rest).2 ⟨taken, htaken, hahead⟩
      exact ⟨q, .inr hq, hrest⟩

theorem Denotes.star (greedy : Bool) (ha : a.Denotes L) : (Node.star greedy a).Denotes L∗ := by
  intro p rest
  constructor
  · rintro ⟨q, hq, rfl⟩
    change Relation.ReflTransGen a.Takes p q at hq
    induction hq using Relation.ReflTransGen.head_induction_on with
    | refl => exact ⟨[], Language.nil_mem_kstar L, rfl⟩
    | @head p u hround _ ih =>
      obtain ⟨more, hmore, hmiddle⟩ := ih
      obtain ⟨front, hfront, hstart⟩ := (ha p u.ahead).1 ⟨u, hround, rfl⟩
      refine ⟨front ++ more, ?_, by simp [hstart, hmiddle]⟩
      exact Set.mem_of_mem_of_subset (Language.append_mem_mul hfront hmore)
        (mul_kstar_le_kstar (a := L))
  · rintro ⟨taken, htaken, hstart⟩
    obtain ⟨rounds, rfl, hrounds⟩ := Language.mem_kstar.1 htaken
    clear htaken
    induction rounds generalizing p with
    | nil => exact ⟨p, Relation.ReflTransGen.refl, hstart⟩
    | cons front rounds ih =>
      rw [List.flatten_cons, List.append_assoc] at hstart
      obtain ⟨u, hu, hmiddle⟩ := (ha p _).2 ⟨front, hrounds front List.mem_cons_self, hstart⟩
      obtain ⟨q, hq, hrest⟩ := ih u (fun y hy => hrounds y (List.mem_cons_of_mem _ hy)) hmiddle
      exact ⟨q, Relation.ReflTransGen.head hu hq, hrest⟩

end Node

/-! ## Languages of trees -/

/-- A tree means a language under some flags, and leaves the flags as they are. -/
def Tree.Means (flags : Flags) (tree : Tree) (L : Language Char) : Prop :=
  ∃ measured, tree.toNode? flags = some (measured, flags) ∧ measured.node.Denotes L

namespace Tree

variable {flags : Flags} {K L : Language Char}

theorem toNode?_concat {first rest : Tree} {a b : Measured} {inner after : Flags}
    (hfirst : first.toNode? flags = some (a, inner))
    (hrest : rest.toNode? inner = some (b, after)) :
    (Tree.concat first rest).toNode? flags = some (a.concat b, after) := by
  rw [toNode?, hfirst]
  simp [hrest]

theorem toNode?_group {changes : FlagChanges} {inner : Tree} {a : Measured} {after : Flags}
    (hinner : inner.toNode? (flags.change changes) = some (a, after)) :
    (Tree.group changes inner).toNode? flags = some (a, flags) := by
  rw [toNode?, hinner]
  rfl

theorem toNode?_capture {index : Nat} {inner : Tree} {a : Measured} {after : Flags}
    (hinner : inner.toNode? flags = some (a, after)) :
    (Tree.capture index inner).toNode? flags = some (a.capture index, flags) := by
  rw [toNode?, hinner]
  rfl

theorem means_empty : Tree.empty.Means flags 1 := ⟨.empty, rfl, Node.denotes_empty⟩

theorem Means.concat {first rest : Tree} (hfirst : first.Means flags K)
    (hrest : rest.Means flags L) : (Tree.concat first rest).Means flags (K * L) := by
  obtain ⟨a, ha, hK⟩ := hfirst
  obtain ⟨b, hb, hL⟩ := hrest
  exact ⟨a.concat b, toNode?_concat ha hb, hK.concat hL⟩

/-- Pieces in a row mean what the first of them and the others mean, one behind the other. -/
theorem Means.cons {tree : Tree} {trees : List Tree} (htree : tree.Means flags K)
    (htrees : (ofPieces trees).Means flags L) :
    (ofPieces (tree :: trees)).Means flags (K * L) := by
  cases trees with
  | nil =>
    obtain ⟨_, hnone, hL⟩ := htrees
    cases hnone
    rwa [hL.unique Node.denotes_empty, mul_one]
  | cons next trees => exact htree.concat htrees

end Tree

/-! ## Reading -/

namespace PatternReader

/-- Reading a pattern leads from one place in it to another, whenever there is fuel for the text. -/
def Advances (r : PatternReader) (text : List Char) (r' : PatternReader) (rest : List Char) :
    Prop :=
  ∀ fuel, text.length ≤ fuel →
    ∃ fuel', rest.length ≤ fuel' ∧ readPieces r fuel text = readPieces r' fuel' rest

variable {r r' r'' : PatternReader} {text text' text'' : List Char}

theorem Advances.refl (r : PatternReader) (text : List Char) : r.Advances text r text :=
  fun fuel hfuel => ⟨fuel, hfuel, rfl⟩

theorem Advances.trans (h : r.Advances text r' text') (h' : r'.Advances text' r'' text'') :
    r.Advances text r'' text'' := by
  intro fuel hfuel
  obtain ⟨fuel', hfuel', heq⟩ := h fuel hfuel
  obtain ⟨fuel'', hfuel'', heq'⟩ := h' fuel' hfuel'
  exact ⟨fuel'', hfuel'', heq.trans heq'⟩

/-- One step of reading, when spacing is not free. -/
theorem advances_of_readPiece {c : Char} (hfree : r.free = false)
    (hread : readPiece r c text = some (r', text')) (hshort : text'.length ≤ text.length) :
    r.Advances (c :: text) r' text' := by
  intro fuel hfuel
  cases fuel with
  | zero => cases hfuel
  | succ fuel =>
    refine ⟨fuel, hshort.trans (Nat.le_of_succ_le_succ hfuel), ?_⟩
    rw [readPieces, skip, hfree]
    simp [hread]

theorem advances_dot (hfree : r.free = false) : r.Advances ('.' :: text) (r.push .dot) text :=
  advances_of_readPiece hfree rfl le_rfl

/-- A character without a meaning of its own stands for itself. -/
theorem advances_literal {c : Char} (hfree : r.free = false) (hplain : isMeta c = false) :
    r.Advances (c :: text) (r.push (.literal ⟨c, false⟩)) text := by
  refine advances_of_readPiece hfree ?_ le_rfl
  unfold readPiece
  -- all cases but the last are of characters with a meaning
  split <;> first | rfl | exact absurd hplain (by decide)

/-- A character with a meaning of its own stands for itself behind a backslash. -/
theorem advances_escaped {c : Char} (hfree : r.free = false) (hmeta : isMeta c = true) :
    r.Advances ('\\' :: c :: text) (r.push (.literal ⟨c, false⟩)) text := by
  have hescape : readEscape r.free (c :: text) = some (.literal ⟨c, false⟩, text) := by
    simp only [readEscape]
    -- all cases but the last are of letters and angle brackets
    split <;> first | exact absurd hmeta (by decide) | simp [isEscapable, hmeta]
  refine advances_of_readPiece hfree ?_ (by simp)
  change (readEscape r.free (c :: text)).map _ = _
  rw [hescape]
  rfl

theorem advances_escapeChar (c : Char) (hfree : r.free = false) :
    r.Advances (escapeChar c ++ text) (r.push (.literal ⟨c, false⟩)) text := by
  rw [escapeChar]
  split
  · rename_i hmeta
    exact advances_escaped hfree hmeta
  · rename_i hplain
    exact advances_literal hfree (by simpa using hplain)

/-- No character is escaped as a text that begins with a question mark. -/
theorem head?_escapeChar_append (c : Char) (rest : List Char) :
    (escapeChar c ++ rest).head? ≠ some '?' := by
  rw [escapeChar]
  split
  · simp
  · rename_i hplain
    have hc : c ≠ '?' := by
      rintro rfl
      exact hplain (by decide)
    simp [hc]

theorem readGreed_eq (hgreedy : text.head? ≠ some '?') : readGreed text = (true, text) := by
  unfold readGreed
  split
  · exact absurd rfl hgreedy
  · rfl

theorem repeatLast?_eq {least : Nat} {most : Option Nat} {greedy : Bool} {piece : Tree}
    {pieces : List Tree} (hpieces : r.pieces = piece :: pieces)
    (hflags : ∀ changes, piece ≠ .flags changes) :
    r.repeatLast? least most greedy =
      some { r with pieces := .repetition least most greedy piece :: pieces } := by
  rw [repeatLast?, hpieces]
  split
  · contradiction
  · rename_i heq
    exact absurd (List.cons.inj heq).1 (hflags _)
  · rename_i heq
    cases heq
    rfl

/-- A star repeats the last piece, greedily unless a question mark follows. -/
theorem advances_star {piece : Tree} {pieces : List Tree} (hfree : r.free = false)
    (hpieces : r.pieces = piece :: pieces) (hflags : ∀ changes, piece ≠ .flags changes)
    (hgreedy : text.head? ≠ some '?') :
    r.Advances ('*' :: text) { r with pieces := .repetition 0 none true piece :: pieces } text := by
  refine advances_of_readPiece hfree ?_ le_rfl
  simp [readPiece, readGreed_eq hgreedy, repeatLast?_eq hpieces hflags]

/-- A text is read as some pieces, wherever it stands without free spacing. What follows it may not
be a question mark, which would change how the last piece is repeated. -/
def Writes (text : List Char) (trees : List Tree) : Prop :=
  ∀ (r : PatternReader) (rest : List Char), r.free = false → rest.head? ≠ some '?' →
    r.Advances (text ++ rest) { r with pieces := trees.reverse ++ r.pieces } rest

theorem writes_nil : Writes [] [] := fun r rest _ _ => .refl r rest

theorem Writes.append {trees trees' : List Tree} (h : Writes text trees) (h' : Writes text' trees')
    (hstart : ∀ rest, rest.head? ≠ some '?' → (text' ++ rest).head? ≠ some '?') :
    Writes (text ++ text') (trees ++ trees') := by
  intro r rest hfree hrest
  rw [List.append_assoc]
  have hfirst := h r (text' ++ rest) hfree (hstart rest hrest)
  have hsecond := h' { r with pieces := trees.reverse ++ r.pieces } rest hfree hrest
  simpa using hfirst.trans hsecond

/-- A pattern is what has been read at its end, unless a group is left open or it is too deep. -/
theorem Advances.ofText?_eq (h : PatternReader.Advances {} text r []) :
    Pattern.ofText? text =
      if !r.groups.isEmpty || r.inner.depth > depthLimit then none
      else some ⟨r.inner, r.captures, r.names.reverse⟩ := by
  obtain ⟨fuel, -, hend⟩ := h text.length le_rfl
  have hdone : readPieces r fuel [] = some r := by
    unfold readPieces
    simp [skip, skipSpacing]
  rw [Pattern.ofText?, hend, hdone]
  rfl

theorem Advances.tree_eq {read : Pattern} (h : PatternReader.Advances {} text r [])
    (hread : Pattern.ofText? text = some read) : read.tree = r.inner := by
  rw [h.ofText?_eq] at hread
  split at hread
  · cases hread
  · cases hread
    rfl

end PatternReader

/-! ## Compiling -/

/-- The program of a regular expression is what the tree of its pattern means as a whole. -/
theorem exists_of_ofPattern?_eq_some {pattern : String} {caseInsensitive : Bool} {regex : Regex}
    (h : ofPattern? pattern caseInsensitive = some regex) :
    ∃ read measured flags, Pattern.ofText? pattern.toList = some read ∧
      (Tree.capture 0 read.tree).toNode? { caseInsensitive } = some (measured, flags) ∧
      regex.program.Takes = measured.node.Takes := by
  rw [ofPattern?] at h
  obtain ⟨read, hread, h⟩ := Option.bind_eq_some_iff.1 h
  obtain ⟨⟨measured, flags⟩, hnode, h⟩ := Option.bind_eq_some_iff.1 h
  refine ⟨read, measured, flags, hread, hnode, ?_⟩
  simp only [] at h
  split at h
  · cases h
  · cases h
    exact measured.node.takes_numbered 0

theorem isSome_ofPattern? {pattern : String} {caseInsensitive : Bool} {read : Pattern}
    {measured : Measured} {flags : Flags} (hread : Pattern.ofText? pattern.toList = some read)
    (hmeasured : (Tree.capture 0 read.tree).toNode? { caseInsensitive } = some (measured, flags))
    (hfits : (measured.size + .frame).fits = true) :
    (ofPattern? pattern caseInsensitive).isSome = true := by
  rw [ofPattern?, hread]
  simp [hmeasured, hfits]

end ClipSplice.Regex
