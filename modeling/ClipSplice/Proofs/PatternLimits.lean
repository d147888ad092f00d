import ClipSplice.Proofs.PatternMeaning

/-!
# Limits of patterns

A pattern is refused when it is nested too deeply or when its program takes too much room. Pieces in
a row are one level deeper than the deepest of them (`Tree.depth_ofPieces_le`) and take as much room
as all of them together (`Tree.exists_within_ofPieces`). A set of one character is one interval
(`CharClass.intervals_single`), so a character takes little room.
-/

namespace ClipSplice.Regex

namespace CharClass

theorem pairwise_insertCut (n : Nat) {cuts : List Nat} (h : cuts.Pairwise (· < ·)) :
    (insertCut n cuts).Pairwise (· < ·) := by
  induction cuts with
  | nil => exact List.pairwise_singleton _ _
  | cons m rest ih =>
    obtain ⟨hm, hrest⟩ := List.pairwise_cons.1 h
    rw [insertCut]
    split_ifs with hless hsame
    · refine List.pairwise_cons.2 ⟨fun k hk => ?_, h⟩
      rcases List.mem_cons.1 hk with rfl | hk
      · exact hless
      · exact Nat.lt_trans hless (hm k hk)
    · exact h
    · refine List.pairwise_cons.2 ⟨fun k hk => ?_, ih hrest⟩
      rcases mem_insertCut.1 hk with rfl | hk
      · omega
      · exact hm k hk

variable {inside : Nat → Bool} {cuts : List Nat} {n : Nat}

theorem joinCells_of_forall_not (h : ∀ m ∈ cuts, inside m = false) :
    joinCells inside cuts = [] := by
  induction cuts with
  | nil => rfl
  | cons low rest ih =>
    cases rest with
    | nil => rfl
    | cons next rest =>
      rw [joinCells, h low List.mem_cons_self]
      exact ih fun m hm => h m (List.mem_cons_of_mem _ hm)

theorem next_eq_of_mem {low next : Nat} {rest : List Nat}
    (hsorted : (low :: next :: rest).Pairwise (· < ·)) (hmem : low + 1 ∈ next :: rest) :
    next = low + 1 := by
  obtain ⟨hlow, hrest⟩ := List.pairwise_cons.1 hsorted
  rcases List.mem_cons.1 hmem with h | h
  · exact h.symm
  · have hbelow := (List.pairwise_cons.1 hrest).1 _ h
    have habove := hlow next List.mem_cons_self
    omega

/-- One number alone is a cell of its own. -/
theorem joinCells_single (hsorted : cuts.Pairwise (· < ·)) (hlow : n ∈ cuts) (hhigh : n + 1 ∈ cuts)
    (hinside : ∀ m, inside m = true ↔ m = n) : joinCells inside cuts = [(n, n)] := by
  have houtside : ∀ m, m ≠ n → inside m = false := by
    intro m hm
    rw [← Bool.not_eq_true, hinside]
    exact hm
  induction cuts with
  | nil => cases hlow
  | cons low rest ih =>
    obtain ⟨hfirst, hrest⟩ := List.pairwise_cons.1 hsorted
    by_cases hn : low = n
    · subst hn
      have hnext : low + 1 ∈ rest := by
        simpa using hhigh
      cases rest with
      | nil => cases hnext
      | cons next rest =>
        obtain rfl := next_eq_of_mem hsorted hnext
        have hlater : joinCells inside ((low + 1) :: rest) = [] := by
          refine joinCells_of_forall_not fun m hm => houtside m ?_
          exact Nat.ne_of_gt (hfirst m hm)
        rw [joinCells, hlater, (hinside low).2 rfl]
        rfl
    · have hlow' : n ∈ rest := List.mem_of_ne_of_mem (Ne.symm hn) hlow
      have hhigh' : n + 1 ∈ rest := by
        have hbelow := hfirst n hlow'
        exact List.mem_of_ne_of_mem (by omega) hhigh
      cases rest with
      | nil => cases hlow'
      | cons next rest =>
        rw [joinCells, houtside low hn]
        exact ih hrest hlow' hhigh'

theorem toNat_ofNat {m : Nat} (hvalid : m.isValidChar) : (Char.ofNat m).toNat = m := by
  rw [Char.ofNat, dif_pos hvalid]
  rfl

theorem intervals_single (c : Char) : (single c).intervals = [(c.toNat, c.toNat)] := by
  have hmem : ∀ m, m ∈ (single c).cuts.foldr insertCut [0, 0xd800, 0xe000, 0x110000] ↔
      m = c.toNat ∨ m = c.toNat + 1 ∨ m ∈ [0, 0xd800, 0xe000, 0x110000] := by
    intro m
    change m ∈ insertCut c.toNat (insertCut (c.toNat + 1) [0, 0xd800, 0xe000, 0x110000]) ↔ _
    rw [mem_insertCut, mem_insertCut]
  refine joinCells_single ?_ ((hmem _).2 (.inl rfl)) ((hmem _).2 (.inr (.inl rfl))) fun m => ?_
  · exact pairwise_insertCut _ (pairwise_insertCut _ (by decide))
  · rw [Bool.and_eq_true, decide_eq_true_iff, contains_single]
    constructor
    · rintro ⟨hvalid, rfl⟩
      exact (toNat_ofNat hvalid).symm
    · rintro rfl
      exact ⟨c.valid, c.ofNat_toNat⟩

end CharClass

/-! ## Room -/

/-- There is no more than `n` bytes of room in either direction. -/
def Size.Within (n : Nat) (a : Size) : Prop := a.forward ≤ n ∧ a.backward ≤ n

theorem Size.Within.add {m n : Nat} {a b : Size} (ha : a.Within m) (hb : b.Within n) :
    (a + b).Within (m + n) := ⟨Nat.add_le_add ha.1 hb.1, Nat.add_le_add ha.2 hb.2⟩

theorem Size.Within.fits {n : Nat} {a : Size} (h : a.Within n) (hn : n ≤ limit) :
    a.fits = true := by
  rw [Size.fits, Bool.and_eq_true, decide_eq_true_iff, decide_eq_true_iff]
  exact ⟨h.1.trans hn, h.2.trans hn⟩

theorem within_one_single (c : Char) : (Measured.one (.single c)).size.Within 128 := by
  have hbytes := c.utf8Size_le_four
  have hsize : (Measured.one (.single c)).size = .both (32 * c.utf8Size) := by
    simp [Measured.one, CharClass.intervals_single, Size.ofIntervals]
  rw [hsize]
  exact ⟨by simp only [Size.both]; omega, by simp only [Size.both]; omega⟩

namespace Tree

theorem exists_within_ofPieces {flags : Flags} {n : Nat} {trees : List Tree}
    (h : ∀ tree ∈ trees, ∃ m, tree.toNode? flags = some (m, flags) ∧ m.size.Within n) :
    ∃ m, (ofPieces trees).toNode? flags = some (m, flags) ∧ m.size.Within (trees.length * n) := by
  induction trees with
  | nil => exact ⟨.empty, rfl, Nat.zero_le _, Nat.zero_le _⟩
  | cons tree trees ih =>
    obtain ⟨a, ha, hsize⟩ := h tree List.mem_cons_self
    obtain ⟨b, hb, hsizes⟩ := ih fun t ht => h t (List.mem_cons_of_mem _ ht)
    rw [List.length_cons, Nat.succ_mul, Nat.add_comm]
    cases trees with
    | nil =>
      exact ⟨a, ha, hsize.1.trans (Nat.le_add_right _ _), hsize.2.trans (Nat.le_add_right _ _)⟩
    | cons next trees => exact ⟨a.concat b, toNode?_concat ha hb, hsize.add hsizes⟩

/-! ## Depth -/

/-- A piece in front of others in a row makes the row no deeper than it is with the piece alone. -/
theorem depth_concat_le {n : Nat} {a b : Tree} (ha : a.depth ≤ n) (hb : b.depth ≤ n + 1)
    (hrow : b.depth ≤ n ∨ ∃ c d, b = .concat c d) : (Tree.concat a b).depth ≤ n + 1 := by
  rcases hrow with hflat | ⟨c, d, rfl⟩
  · cases b <;> simp only [depth] at * <;> omega
  · rw [depth]
    omega

theorem depth_ofPieces_le {n : Nat} {trees : List Tree} (h : ∀ tree ∈ trees, tree.depth ≤ n) :
    (ofPieces trees).depth ≤ n + 1 := by
  induction trees with
  | nil => exact Nat.zero_le _
  | cons tree trees ih =>
    have htree := h tree List.mem_cons_self
    have htrees : ∀ t ∈ trees, t.depth ≤ n := fun t ht => h t (List.mem_cons_of_mem _ ht)
    match trees with
    | [] => exact Nat.le_succ_of_le htree
    | [last] => exact depth_concat_le htree (ih htrees) (.inl (htrees last List.mem_cons_self))
    | next :: _ :: _ => exact depth_concat_le htree (ih htrees) (.inr ⟨next, _, rfl⟩)

end Tree

end ClipSplice.Regex
