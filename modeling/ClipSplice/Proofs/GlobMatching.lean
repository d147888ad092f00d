import ClipSplice.Proofs.PatternLimits
import ClipSplice.Rule.Condition

/-!
# Globs without brackets

`Glob.covers` is what a shell does with a glob without brackets: the glob covers the whole name, a
star stands for any characters, a question mark for one, and every other character for itself. A
condition does the same (`Condition.holds_glob_eq_covers`), by way of the regular expression that is
written for the glob. Each piece of a glob stands for a language (`GlobPiece.StandsFor`): it is read
as a tree that means the language. For the glob as a whole this makes it the language of the names
that it covers (`GlobPiece.allStandFor_piecesOf`). The trees are small and flat, so that only very
long globs are refused (`Glob.isSome_new?_of_length_le`).
-/

namespace ClipSplice

open Computability Regex

namespace Glob

/-- Whether a glob without brackets covers a name. -/
def covers : (pattern name : List Char) → Bool
  | [], name => name.isEmpty
  | p :: pattern, name =>
    if p = '*' then name.tails.any (covers pattern)
    else
      match name with
      | [] => false
      | c :: rest => (p = '?' || p = c) && covers pattern rest

/-- The names that a glob without brackets covers. -/
def language (pattern : List Char) : Language Char := {name | covers pattern name = true}

/-- The texts of one character. -/
def oneChar : Language Char := {text | ∃ c, text = [c]}

variable {pattern : List Char}

theorem language_nil : language [] = 1 := by
  ext name
  exact List.isEmpty_iff

theorem language_star : language ('*' :: pattern) = ⊤ * language pattern := by
  ext name
  change name.tails.any (covers pattern) = true ↔ _
  rw [List.any_eq_true, Language.mem_mul]
  constructor
  · rintro ⟨rest, hrest, hcovers⟩
    obtain ⟨front, rfl⟩ := (List.mem_tails _ _).1 hrest
    exact ⟨front, trivial, rest, hcovers, rfl⟩
  · rintro ⟨front, -, rest, hcovers, rfl⟩
    exact ⟨rest, (List.mem_tails _ _).2 (List.suffix_append _ _), hcovers⟩

theorem top_mul_top : (⊤ : Language Char) * ⊤ = ⊤ := by
  ext text
  exact iff_of_true (Language.mem_mul.2 ⟨[], trivial, text, trivial, rfl⟩) trivial

/-- Stars in a row cover what one of them covers. -/
theorem language_star_star : language ('*' :: '*' :: pattern) = language ('*' :: pattern) := by
  rw [language_star, language_star, ← mul_assoc, top_mul_top]

theorem mem_language_cons {p : Char} (hp : p ≠ '*') {name : List Char} :
    name ∈ language (p :: pattern) ↔
      ∃ c rest, name = c :: rest ∧ (p = '?' ∨ p = c) ∧ rest ∈ language pattern := by
  change covers (p :: pattern) name = true ↔ _
  cases name with
  | nil => simp [covers, hp]
  | cons c rest =>
    simp only [covers, hp, if_false, Bool.and_eq_true, Bool.or_eq_true, decide_eq_true_iff]
    constructor
    · rintro ⟨hc, hrest⟩
      exact ⟨c, rest, rfl, hc, hrest⟩
    · rintro ⟨_, _, heq, hc, hrest⟩
      cases heq
      exact ⟨hc, hrest⟩

theorem language_anyChar : language ('?' :: pattern) = oneChar * language pattern := by
  ext name
  rw [mem_language_cons (by decide), Language.mem_mul]
  constructor
  · rintro ⟨c, rest, rfl, -, hrest⟩
    exact ⟨[c], ⟨c, rfl⟩, rest, hrest, rfl⟩
  · rintro ⟨_, ⟨c, rfl⟩, rest, hrest, rfl⟩
    exact ⟨c, rest, rfl, .inl rfl, hrest⟩

theorem language_literal {c : Char} (hstar : c ≠ '*') (hany : c ≠ '?') :
    language (c :: pattern) = ({[c]} : Language Char) * language pattern := by
  ext name
  rw [mem_language_cons hstar, Language.mem_mul]
  constructor
  · rintro ⟨d, rest, rfl, hd, hrest⟩
    obtain rfl := hd.resolve_left hany
    exact ⟨[c], rfl, rest, hrest, rfl⟩
  · rintro ⟨_, rfl, rest, hrest, rfl⟩
    exact ⟨c, rest, rfl, .inr rfl, hrest⟩

end Glob

/-! ## Pieces -/

namespace GlobPiece

/-- The changes of flags around the pieces of a glob. -/
def changes : FlagChanges := [(.dotMatchesNewLine, true)]

/-- The flags under which the pieces of a glob are understood, where letters are told apart by their
case. -/
def flags : Flags := ({} : Flags).change changes

/-- A piece is read as a tree that means a language. -/
structure StandsFor (piece : GlobPiece) (tree : Tree) (L : Language Char) : Prop where
  writes : PatternReader.Writes piece.pattern [tree]
  means : tree.Means flags L

/-- Pieces in a row are read as trees that mean a language together. -/
structure AllStandFor (pieces : List GlobPiece) (trees : List Tree) (L : Language Char) :
    Prop where
  writes : PatternReader.Writes (pieces.flatMap pattern) trees
  means : (Tree.ofPieces trees).Means flags L

variable {K L : Language Char}

/-- No piece begins with a question mark, which would change how the piece in front is repeated. -/
theorem head?_pattern_append (piece : GlobPiece) (rest : List Char) :
    (piece.pattern ++ rest).head? ≠ some '?' := by
  unfold pattern
  split
  · simp
  · simp
  · simp
  · simp
  · simp
  · exact PatternReader.head?_escapeChar_append _ rest

theorem allStandFor_nil : AllStandFor [] [] 1 := ⟨PatternReader.writes_nil, Tree.means_empty⟩

theorem StandsFor.cons {piece : GlobPiece} {tree : Tree} {pieces : List GlobPiece}
    {trees : List Tree} (h : piece.StandsFor tree K) (hs : AllStandFor pieces trees L) :
    AllStandFor (piece :: pieces) (tree :: trees) (K * L) := by
  refine ⟨h.writes.append hs.writes fun rest hrest => ?_, h.means.cons hs.means⟩
  cases pieces with
  | nil => exact hrest
  | cons next pieces =>
    change (next.pattern ++ pieces.flatMap pattern ++ rest).head? ≠ some '?'
    rw [List.append_assoc]
    exact head?_pattern_append next _

/-! ## Pieces without brackets -/

/-- The trees as which pieces without brackets are read. -/
inductive IsPlain : Tree → Prop
  | anything : IsPlain (.repetition 0 none true .dot)
  | anyChar : IsPlain .dot
  | literal (c : Char) : IsPlain (.literal ⟨c, false⟩)

theorem language_any : CharClass.any.language = Glob.oneChar := by
  ext text
  constructor
  · rintro ⟨c, -, hc⟩
    exact ⟨c, hc⟩
  · rintro ⟨c, hc⟩
    exact ⟨c, rfl, hc⟩

theorem denotes_any (number : Nat) : (Node.one number .any).Denotes Glob.oneChar :=
  language_any ▸ Node.denotes_one number .any

theorem standsFor_anyChar : anyChar.StandsFor .dot Glob.oneChar :=
  ⟨fun _ _ hfree _ => PatternReader.advances_dot hfree, .one .any, rfl, denotes_any 0⟩

theorem kstar_oneChar : Glob.oneChar∗ = ⊤ := by
  ext text
  refine iff_of_true (Language.mem_kstar.2 ⟨text.map fun c => [c], ?_, ?_⟩) trivial
  · simp [← List.flatMap_def]
  · intro part hpart
    obtain ⟨c, -, rfl⟩ := List.mem_map.1 hpart
    exact ⟨c, rfl⟩

/-- Any characters, with the room that they take. -/
def anyText : Measured := ⟨.star true (.one 0 .any), ⟨400, 1004⟩, some 0⟩

theorem repeated?_any : (Measured.one .any).repeated? 0 none true = some anyText := by
  decide +kernel

theorem toNode?_anything :
    (Tree.repetition 0 none true .dot).toNode? flags = some (anyText, flags) := by
  change ((Measured.one .any).repeated? 0 none true).bind (fun m => some (m, flags)) = _
  rw [repeated?_any]
  rfl

theorem standsFor_anything : anything.StandsFor (.repetition 0 none true .dot) ⊤ := by
  refine ⟨fun r rest hfree hrest => ?_, anyText, toNode?_anything, ?_⟩
  · exact (PatternReader.advances_dot hfree).trans
      (PatternReader.advances_star hfree rfl nofun hrest)
  · rw [← kstar_oneChar]
    exact (denotes_any 0).star true

theorem standsFor_literal (c : Char) : (literal c).StandsFor (.literal ⟨c, false⟩) {[c]} := by
  refine ⟨fun r rest hfree _ => ?_, .one (.single c), rfl, ?_⟩
  · exact PatternReader.advances_escapeChar c hfree
  · exact CharClass.language_single c ▸ Node.denotes_one 0 (.single c)

/-- The pieces of a glob without brackets stand for the names that the glob covers. -/
theorem allStandFor_piecesOf {text : List Char} (hplain : '[' ∉ text) :
    ∃ trees, AllStandFor (piecesOf 0 text) trees (Glob.language text) ∧
      trees.length ≤ text.length ∧ ∀ tree ∈ trees, IsPlain tree := by
  induction text with
  | nil => exact ⟨[], Glob.language_nil ▸ allStandFor_nil, le_rfl, nofun⟩
  | cons c rest ih =>
    obtain ⟨trees, hstand, hlength, htrees⟩ := ih fun hmem => hplain (List.mem_cons_of_mem _ hmem)
    have hc : c ≠ '[' := fun h => hplain (h ▸ List.mem_cons_self)
    have hlength' : trees.length + 1 ≤ (c :: rest).length := Nat.succ_le_succ hlength
    rw [piecesOf]
    split_ifs with hstar htwice hany
    · subst hstar
      obtain ⟨more, rfl⟩ : ∃ more, rest = '*' :: more := List.head?_eq_some_iff.1 htwice
      rw [Glob.language_star_star]
      exact ⟨trees, hstand, Nat.le_of_succ_le hlength', htrees⟩
    · subst hstar
      exact ⟨_ :: trees, Glob.language_star ▸ standsFor_anything.cons hstand, hlength',
        List.forall_mem_cons.2 ⟨.anything, htrees⟩⟩
    · subst hany
      exact ⟨_ :: trees, Glob.language_anyChar ▸ standsFor_anyChar.cons hstand, hlength',
        List.forall_mem_cons.2 ⟨.anyChar, htrees⟩⟩
    · exact ⟨_ :: trees, Glob.language_literal hstar hany ▸ (standsFor_literal c).cons hstand,
        hlength', List.forall_mem_cons.2 ⟨.literal c, htrees⟩⟩

theorem IsPlain.depth_le {tree : Tree} (h : IsPlain tree) : tree.depth ≤ 1 := by
  cases h <;> simp [Tree.depth]

/-- The star takes more room than any other piece. -/
theorem IsPlain.exists_within {tree : Tree} (h : IsPlain tree) :
    ∃ m, tree.toNode? flags = some (m, flags) ∧ m.size.Within 1004 := by
  cases h with
  | anything => exact ⟨anyText, toNode?_anything, by decide, by decide⟩
  | anyChar => exact ⟨.one .any, rfl, by decide +kernel, by decide +kernel⟩
  | literal c =>
    obtain ⟨hforward, hbackward⟩ := within_one_single c
    exact ⟨.one (.single c), rfl, by omega, by omega⟩

/-! ## Whole globs -/

/-- A glob as a tree: its pieces between the two ends of the text. -/
def wholeTree (tree : Tree) : Tree :=
  .concat (.anchor .lineStart) (.concat (.group changes tree) (.anchor .textEnd))

/-- The program of a glob: that of its pieces between the two ends of the text. -/
def whole (inner : Measured) : Measured :=
  ((Measured.look .textStart).concat (inner.concat (.look .textEnd))).capture 0

/-- How far reading has come inside the group around the pieces. -/
def insideGroup : PatternReader :=
  (({} : PatternReader).push (.anchor .lineStart)).openGroup (.plain changes) false

theorem advances_insideGroup (body : List Char) :
    PatternReader.Advances {} ("^(?s:".toList ++ body) insideGroup body := by
  let start : PatternReader := ({} : PatternReader).push (.anchor .lineStart)
  have hopen : readPiece start '(' ('?' :: 's' :: ':' :: body) = some (insideGroup, body) := rfl
  have hstart : PatternReader.Advances {} ('^' :: '(' :: '?' :: 's' :: ':' :: body) start
      ('(' :: '?' :: 's' :: ':' :: body) := PatternReader.advances_of_readPiece rfl rfl le_rfl
  exact hstart.trans (PatternReader.advances_of_readPiece rfl hopen (by simp; omega))

theorem advances_whole {text : List Char} {trees : List Tree}
    (hwrites : PatternReader.Writes text trees) :
    ∃ r : PatternReader,
      PatternReader.Advances {} ("^(?s:".toList ++ text ++ ")\\z".toList) r [] ∧
      r.inner = wholeTree (.ofPieces trees) ∧ r.groups = [] := by
  let behind : PatternReader :=
    (({} : PatternReader).push (.anchor .lineStart)).push (.group changes (.ofPieces trees))
  have hclose : readPiece { insideGroup with pieces := trees.reverse ++ [] } ')' ['\\', 'z'] =
      some (behind, ['\\', 'z']) := by
    simp [readPiece, PatternReader.closeGroup?, PatternReader.inner, Tree.ofAlternatives,
      insideGroup, behind, PatternReader.openGroup, PatternReader.push]
  refine ⟨behind.push (.anchor .textEnd), ?_, rfl, rfl⟩
  rw [List.append_assoc]
  have hbody := hwrites insideGroup [')', '\\', 'z'] rfl (by decide)
  have hbehind := PatternReader.advances_of_readPiece rfl hclose le_rfl
  have hend : behind.Advances ['\\', 'z'] (behind.push (.anchor .textEnd)) [] :=
    PatternReader.advances_of_readPiece rfl rfl (by simp)
  exact (((advances_insideGroup _).trans hbody).trans hbehind).trans hend

theorem toNode?_whole {tree : Tree} {inner : Measured}
    (h : tree.toNode? flags = some (inner, flags)) :
    (Tree.capture 0 (wholeTree tree)).toNode? {} = some (whole inner, {}) := by
  have hgroup : (Tree.group changes tree).toNode? {} = some (inner, {}) := Tree.toNode?_group h
  have hend : (Tree.anchor .textEnd).toNode? {} = some (.look .textEnd, {}) := rfl
  exact Tree.toNode?_capture (Tree.toNode?_concat rfl (Tree.toNode?_concat hgroup hend))

theorem depth_wholeTree (tree : Tree) : (wholeTree tree).depth = tree.depth + 2 := by
  simp [wholeTree, Tree.depth]

theorem within_whole {n : Nat} {inner : Measured} (h : inner.size.Within n) :
    ((whole inner).size + .frame).Within (n + 200) := by
  obtain ⟨hforward, hbackward⟩ := h
  constructor
  · change 32 + (inner.size.forward + 32) + 64 + 64 ≤ n + 200
    omega
  · change 32 + (inner.size.backward + 32) + 0 + 136 ≤ n + 200
    omega

/-- The program of a glob takes whole texts only. -/
theorem takes_whole {inner : Measured} (h : inner.node.Denotes L) {p : Place} :
    (∃ q, (whole inner).node.Takes p q) ↔ p.before = none ∧ p.ahead ∈ L := by
  have hinner : (∃ q, inner.node.Takes p q ∧ q.ahead = []) ↔ p.ahead ∈ L := by
    rw [h p []]
    simp
  rw [← hinner]
  constructor
  · rintro ⟨_, _, rfl, _, ⟨_, ⟨hstart, rfl⟩, u, hu, hend, rfl⟩, rfl⟩
    exact ⟨Option.isNone_iff_eq_none.1 hstart, u, hu,
      List.head?_eq_none_iff.1 (Option.isNone_iff_eq_none.1 hend)⟩
  · rintro ⟨hstart, u, hu, hend⟩
    exact ⟨u, p, rfl, u, ⟨p, ⟨Option.isNone_iff_eq_none.2 hstart, rfl⟩, u, hu,
      Option.isNone_iff_eq_none.2 (List.head?_eq_none_iff.2 hend), rfl⟩, rfl⟩

end GlobPiece

namespace Glob

theorem toList_patternOf (text : String) :
    (patternOf text).toList = "^(?s:".toList ++
      (GlobPiece.piecesOf 0 text.toList).flatMap GlobPiece.pattern ++ ")\\z".toList :=
  String.toList_ofList

/-- A glob matches the names that its pieces stand for. -/
theorem isMatch_iff_of_allStandFor {glob : Glob} {trees : List Tree} {L : Language Char}
    (hcase : glob.caseSensitive = true)
    (hpieces : GlobPiece.AllStandFor (GlobPiece.piecesOf 0 glob.text.toList) trees L)
    {name : String} : glob.isMatch name = true ↔ name.toList ∈ L := by
  obtain ⟨inner, hinner, hdenotes⟩ := hpieces.means
  obtain ⟨r, hadvances, htree, -⟩ := GlobPiece.advances_whole hpieces.writes
  obtain ⟨read, measured, flags, htext, hmeasured, hprogram⟩ :=
    exists_of_ofPattern?_eq_some glob.regex_eq
  rw [toList_patternOf] at htext
  rw [hadvances.tree_eq htext, htree, hcase, Bool.not_true, GlobPiece.toNode?_whole hinner]
    at hmeasured
  cases hmeasured
  have htakes := fun p => @GlobPiece.takes_whole L inner hdenotes p
  rw [isMatch, Regex.isMatch_iff, hprogram]
  constructor
  · rintro ⟨front, back, q, hsplit, hq⟩
    -- the program takes nothing behind the start of the text
    obtain ⟨hfront, hmem⟩ := (htakes _).1 ⟨q, hq⟩
    obtain rfl := List.getLast?_eq_none_iff.1 hfront
    exact hsplit ▸ hmem
  · intro hmem
    obtain ⟨q, hq⟩ := (htakes ⟨none, name.toList⟩).2 ⟨rfl, hmem⟩
    exact ⟨[], name.toList, q, rfl, hq⟩

theorem new?_eq_some {text : String} {caseSensitive : Bool} {glob : Glob}
    (h : new? text caseSensitive = some glob) :
    glob.text = text ∧ glob.caseSensitive = caseSensitive := by
  unfold new? at h
  split at h
  · cases h
    exact ⟨rfl, rfl⟩
  · cases h

/-- There is room for every glob without brackets that is not very long. -/
theorem isSome_new?_of_length_le {text : String} (hplain : '[' ∉ text.toList)
    (hshort : text.toList.length ≤ 10000) : (new? text true).isSome = true := by
  obtain ⟨trees, hstand, hlength, htrees⟩ := GlobPiece.allStandFor_piecesOf hplain
  obtain ⟨r, hadvances, htree, hgroups⟩ := GlobPiece.advances_whole hstand.writes
  obtain ⟨inner, hinner, hsize⟩ :=
    Tree.exists_within_ofPieces fun tree h => (htrees tree h).exists_within
  have hdepth := Tree.depth_ofPieces_le fun tree h => (htrees tree h).depth_le
  have hread : Pattern.ofText? (patternOf text).toList =
      some ⟨r.inner, r.captures, r.names.reverse⟩ := by
    have hflat : ¬ r.inner.depth > depthLimit := by
      rw [htree, GlobPiece.depth_wholeTree, depthLimit]
      omega
    rw [toList_patternOf, hadvances.ofText?_eq, hgroups, decide_eq_false hflat]
    rfl
  have hfits : ((GlobPiece.whole inner).size + .frame).fits = true := by
    have hroom : trees.length * 1004 + 200 ≤ 10040200 := by omega
    exact (GlobPiece.within_whole hsize).fits (hroom.trans (by decide))
  have hregex := isSome_ofPattern? hread (htree ▸ GlobPiece.toNode?_whole hinner) hfits
  unfold new?
  split
  · rfl
  · rename_i hnone
    rw [Bool.not_true] at hnone
    rw [hnone] at hregex
    cases hregex

end Glob

/-- A glob without brackets that tells letters apart by their case holds for the names that it
covers, and for no other. Such a glob is refused only when its program takes more room than there
is, which takes more than 10000 characters. -/
theorem Condition.holds_glob_eq_covers (text : String) (hplain : '[' ∉ text.toList) :
    (∀ glob, Glob.new? text true = some glob → ∀ name now,
      (Condition.glob glob).holds name now = Glob.covers text.toList name.toList) ∧
    (text.toList.length ≤ 10000 → (Glob.new? text true).isSome = true) := by
  refine ⟨fun glob hglob name now => ?_, Glob.isSome_new?_of_length_le hplain⟩
  obtain ⟨rfl, hcase⟩ := Glob.new?_eq_some hglob
  obtain ⟨trees, hstand, -⟩ := GlobPiece.allStandFor_piecesOf hplain
  have hmatch : glob.isMatch name = true ↔ Glob.covers glob.text.toList name.toList = true :=
    Glob.isMatch_iff_of_allStandFor hcase hstand
  have hholds : (Condition.glob glob).holds name now = glob.isMatch name := by
    rw [holds, check]
    cases glob.isMatch name <;> rfl
  rw [hholds, Bool.eq_iff_iff]
  exact hmatch

/-- Stars in a row, a character with a meaning in patterns, and a line break. -/
theorem Condition.holds_glob_eq_covers_two_stars :
    '[' ∉ "**]?.*".toList ∧
      ∃ glob, Glob.new? "**]?.*" true = some glob ∧
        (Condition.glob glob).holds "/a\n]\n.mp3" .first = true ∧
        (Condition.glob glob).holds "/a\n].mp3" .first = false := by
  have hplain : '[' ∉ "**]?.*".toList := by decide
  obtain ⟨hcovers, hsome⟩ := holds_glob_eq_covers "**]?.*" hplain
  obtain ⟨glob, hglob⟩ := Option.isSome_iff_exists.1 (hsome (by decide))
  refine ⟨hplain, glob, hglob, ?_, ?_⟩
  · rw [hcovers glob hglob]
    decide
  · rw [hcovers glob hglob]
    decide

end ClipSplice
