import ClipSplice.Proofs.PatternMeaning

/-!
# Where a match lies

The marks 0 and 1 stand around the whole match. Groups use marks from 2 on (`Node.SparesWhole`,
which a pattern that was read always has), so that what a search gives as the whole match is a part
of the text that the program takes, and no match begins in front of it (`exists_foundAt`). Threads
carry this through a run: each is on its way from where its match began, or has come to its end
(`Thread.Traces`).
-/

namespace ClipSplice.Regex

/-! ## Marks of groups -/

/-- No mark of a node is one of those around the whole match. -/
def Node.SparesWhole : Node → Prop
  | empty => True
  | one _ _ => True
  | look _ => True
  | mark slot => 2 ≤ slot
  | concat a b => a.SparesWhole ∧ b.SparesWhole
  | either a b => a.SparesWhole ∧ b.SparesWhole
  | star _ a => a.SparesWhole
  | rounds _ a => a.SparesWhole
  | again _ a => a.SparesWhole

namespace Node

variable {a b : Node}

theorem sparesWhole_numbered (n : Nat) : (a.numbered n).1.SparesWhole ↔ a.SparesWhole := by
  induction a generalizing n with
  | empty => rfl
  | one _ _ => rfl
  | look _ => rfl
  | mark _ => rfl
  | concat a b iha ihb => exact and_congr (iha n) (ihb _)
  | either a b iha ihb => exact and_congr (iha n) (ihb _)
  | star _ a iha => exact iha n
  | rounds _ a iha => exact iha n
  | again _ a iha => exact iha n

theorem SparesWhole.optional (greedy : Bool) (ha : a.SparesWhole) :
    (optional greedy a).SparesWhole := by
  rw [Node.optional]
  split
  · exact ⟨ha, trivial⟩
  · exact ⟨trivial, ha⟩

theorem SparesWhole.copies (n : Nat) (ha : a.SparesWhole) (hb : b.SparesWhole) :
    (copies a b n).SparesWhole := by
  induction n with
  | zero => exact hb
  | succ n ih => exact ⟨ha, ih⟩

theorem SparesWhole.upTo (greedy : Bool) (n : Nat) (ha : a.SparesWhole) :
    (upTo greedy a n).SparesWhole := by
  induction n with
  | zero => trivial
  | succ n ih => exact .optional greedy ⟨ha, ih⟩

theorem SparesWhole.repeated (least : Nat) (most : Option Nat) (greedy solid : Bool)
    (ha : a.SparesWhole) : (repeated least most greedy solid a).SparesWhole := by
  unfold Node.repeated
  split
  · split
    · exact ha.copies _ ha
    · exact ha.copies _ (ha.upTo greedy _)
  · split
    · exact ha
    · exact .optional greedy ha
  · exact ha.copies _ ha

end Node

/-- No group of a tree is the whole match. -/
def Tree.SparesWhole : Tree → Prop
  | repetition _ _ _ inner => inner.SparesWhole
  | group _ inner => inner.SparesWhole
  | capture index inner => 0 < index ∧ inner.SparesWhole
  | concat first rest => first.SparesWhole ∧ rest.SparesWhole
  | alternation first rest => first.SparesWhole ∧ rest.SparesWhole
  | _ => True

theorem Measured.sparesWhole_repeated? {least : Nat} {most : Option Nat} {greedy : Bool}
    {a b : Measured} (ha : a.node.SparesWhole) (h : a.repeated? least most greedy = some b) :
    b.node.SparesWhole := by
  rw [repeated?] at h
  generalize (if a.node.takesNothing then _ else _ : Nat × Option Nat) = bounds at h
  obtain ⟨least, most⟩ := bounds
  dsimp only at h
  split at h
  · cases h
    trivial
  · cases h
    exact ha
  · split at h
    · cases h
      exact ha.repeated _ _ _ _
    · cases h

theorem Tree.SparesWhole.toNode? {tree : Tree} {flags after : Flags} {measured : Measured}
    (htree : tree.SparesWhole) (h : tree.toNode? flags = some (measured, after)) :
    measured.node.SparesWhole := by
  induction tree generalizing flags after measured with
  | empty => cases h; trivial
  | flags changes => cases h; trivial
  | literal l =>
    obtain ⟨set, -, heq⟩ := Option.map_eq_some_iff.1 h
    cases heq
    trivial
  | dot =>
    obtain ⟨set, -, heq⟩ := Option.map_eq_some_iff.1 h
    cases heq
    trivial
  | anchor a => cases h; trivial
  | letter set negated =>
    obtain ⟨set, -, heq⟩ := Option.map_eq_some_iff.1 h
    cases heq
    trivial
  | property query negated =>
    obtain ⟨set, -, heq⟩ := Option.map_eq_some_iff.1 h
    cases heq
    trivial
  | bracket negated inner =>
    obtain ⟨_, -, h⟩ := Option.bind_eq_some_iff.1 h
    obtain ⟨set, -, heq⟩ := Option.bind_eq_some_iff.1 h
    cases heq
    trivial
  | repetition least most greedy inner ih =>
    obtain ⟨⟨a, inside⟩, ha, h⟩ := Option.bind_eq_some_iff.1 h
    obtain ⟨b, hb, heq⟩ := Option.bind_eq_some_iff.1 h
    cases heq
    exact Measured.sparesWhole_repeated? (ih htree ha) hb
  | group changes inner ih =>
    obtain ⟨⟨a, inside⟩, ha, heq⟩ := Option.bind_eq_some_iff.1 h
    cases heq
    exact ih htree ha
  | capture index inner ih =>
    obtain ⟨⟨a, inside⟩, ha, heq⟩ := Option.bind_eq_some_iff.1 h
    cases heq
    have hindex : 0 < index := htree.1
    exact ⟨Nat.mul_le_mul_left 2 hindex, ih htree.2 ha,
      Nat.le_succ_of_le (Nat.mul_le_mul_left 2 hindex)⟩
  | concat first rest ihfirst ihrest =>
    obtain ⟨⟨a, inside⟩, ha, h⟩ := Option.bind_eq_some_iff.1 h
    obtain ⟨⟨b, inside'⟩, hb, heq⟩ := Option.bind_eq_some_iff.1 h
    cases heq
    exact ⟨ihfirst htree.1 ha, ihrest htree.2 hb⟩
  | alternation first rest ihfirst ihrest =>
    obtain ⟨⟨a, inside⟩, ha, h⟩ := Option.bind_eq_some_iff.1 h
    obtain ⟨⟨b, inside'⟩, hb, heq⟩ := Option.bind_eq_some_iff.1 h
    cases heq
    exact ⟨ihfirst htree.1 ha, ihrest htree.2 hb⟩

/-! ## Reading -/

/-- No group of some trees is the whole match. -/
def Tree.AllSpareWhole (trees : List Tree) : Prop := ∀ tree ∈ trees, tree.SparesWhole

namespace Tree

variable {trees : List Tree}

theorem AllSpareWhole.cons {tree : Tree} (htree : tree.SparesWhole) (htrees : AllSpareWhole trees) :
    AllSpareWhole (tree :: trees) := List.forall_mem_cons.2 ⟨htree, htrees⟩

theorem AllSpareWhole.ofPieces (h : AllSpareWhole trees) : (ofPieces trees).SparesWhole := by
  induction trees with
  | nil => trivial
  | cons tree trees ih =>
    obtain ⟨htree, htrees⟩ := List.forall_mem_cons.1 h
    cases trees with
    | nil => exact htree
    | cons next trees => exact ⟨htree, ih htrees⟩

theorem AllSpareWhole.ofAlternatives (h : AllSpareWhole trees) :
    (ofAlternatives trees).SparesWhole := by
  induction trees with
  | nil => trivial
  | cons tree trees ih =>
    obtain ⟨htree, htrees⟩ := List.forall_mem_cons.1 h
    cases trees with
    | nil => exact htree
    | cons next trees => exact ⟨htree, ih htrees⟩

end Tree

/-- Neither an open group nor anything in front of it is the whole match. -/
structure OpenGroup.SparesWhole (group : OpenGroup) : Prop where
  kind : ∀ index, group.kind = .capture index → 0 < index
  pieces : Tree.AllSpareWhole group.pieces
  alternatives : Tree.AllSpareWhole group.alternatives

namespace PatternReader

/-- No group that has been read so far is the whole match. -/
structure SparesWhole (r : PatternReader) : Prop where
  pieces : Tree.AllSpareWhole r.pieces
  alternatives : Tree.AllSpareWhole r.alternatives
  groups : ∀ group ∈ r.groups, group.SparesWhole

variable {r r' : PatternReader} {text rest : List Char}

theorem SparesWhole.inner (h : r.SparesWhole) : r.inner.SparesWhole := by
  have hpieces : Tree.AllSpareWhole r.pieces.reverse :=
    fun tree htree => h.pieces tree (List.mem_reverse.1 htree)
  apply Tree.AllSpareWhole.ofAlternatives
  intro tree htree
  rcases List.mem_append.1 htree with hfront | hlast
  · exact h.alternatives tree (List.mem_reverse.1 hfront)
  · rw [List.mem_singleton.1 hlast]
    exact hpieces.ofPieces

theorem SparesWhole.push {piece : Tree} (h : r.SparesWhole) (hpiece : piece.SparesWhole) :
    (r.push piece).SparesWhole :=
  ⟨h.pieces.cons hpiece, h.alternatives, h.groups⟩

theorem SparesWhole.alternate (h : r.SparesWhole) : r.alternate.SparesWhole := by
  refine ⟨nofun, .cons ?_ h.alternatives, h.groups⟩
  exact Tree.AllSpareWhole.ofPieces fun tree htree => h.pieces tree (List.mem_reverse.1 htree)

theorem SparesWhole.openGroup {kind : GroupKind} (free : Bool) (h : r.SparesWhole)
    (hkind : ∀ index, kind = .capture index → 0 < index) :
    (r.openGroup kind free).SparesWhole :=
  ⟨nofun, nofun, List.forall_mem_cons.2 ⟨⟨hkind, h.pieces, h.alternatives⟩, h.groups⟩⟩

theorem SparesWhole.closeGroup? (h : r.SparesWhole) (hclose : r.closeGroup? = some r') :
    r'.SparesWhole := by
  unfold PatternReader.closeGroup? at hclose
  split at hclose
  · cases hclose
  · rename_i group groups hgroups
    rw [Option.some.injEq] at hclose
    subst hclose
    have hall := h.groups
    rw [hgroups] at hall
    obtain ⟨hgroup, hothers⟩ := List.forall_mem_cons.1 hall
    refine ⟨hgroup.pieces.cons ?_, hgroup.alternatives, hothers⟩
    split
    · exact h.inner
    · rename_i index hkind
      exact ⟨hgroup.kind index hkind, h.inner⟩

theorem SparesWhole.repeatLast? {least : Nat} {most : Option Nat} {greedy : Bool}
    (h : r.SparesWhole) (hrepeat : r.repeatLast? least most greedy = some r') :
    r'.SparesWhole := by
  unfold PatternReader.repeatLast? at hrepeat
  split at hrepeat
  · cases hrepeat
  · cases hrepeat
  · rename_i piece pieces _ hpieces
    cases hrepeat
    have hall := h.pieces
    rw [hpieces] at hall
    obtain ⟨hpiece, hothers⟩ := List.forall_mem_cons.1 hall
    exact ⟨.cons hpiece hothers, h.alternatives, h.groups⟩

theorem SparesWhole.readNamedGroup (h : r.SparesWhole)
    (hread : Regex.readNamedGroup r text = some (r', rest)) : r'.SparesWhole := by
  obtain ⟨⟨name, after⟩, -, hread⟩ := Option.bind_eq_some_iff.1 hread
  dsimp only at hread
  split at hread
  · cases hread
  · cases hread
    refine SparesWhole.openGroup _ ⟨h.pieces, h.alternatives, h.groups⟩ ?_
    rintro index ⟨rfl⟩
    exact Nat.succ_pos _

theorem SparesWhole.readGroup (h : r.SparesWhole)
    (hread : Regex.readGroup r text = some (r', rest)) : r'.SparesWhole := by
  unfold Regex.readGroup at hread
  split at hread
  · exact h.readNamedGroup hread
  · cases hread
  · cases hread
  · cases hread
  · cases hread
  · exact h.readNamedGroup hread
  · obtain ⟨⟨changes, last, after⟩, -, hread⟩ := Option.bind_eq_some_iff.1 hread
    dsimp only at hread
    split at hread
    · cases hread
      exact h.openGroup _ nofun
    · split at hread
      · cases hread
      · cases hread
        exact SparesWhole.push ⟨h.pieces, h.alternatives, h.groups⟩ trivial
  · cases hread
    refine SparesWhole.openGroup _ ⟨h.pieces, h.alternatives, h.groups⟩ ?_
    rintro index ⟨rfl⟩
    exact Nat.succ_pos _

theorem sparesWhole_toTree (escape : Escape) : escape.toTree.SparesWhole := by
  cases escape <;> trivial

theorem SparesWhole.readPiece {c : Char} (h : r.SparesWhole)
    (hread : Regex.readPiece r c text = some (r', rest)) : r'.SparesWhole := by
  unfold Regex.readPiece at hread
  split at hread
  case h_1 => exact h.readGroup hread
  case h_2 =>
    obtain ⟨closed, hclose, heq⟩ := Option.map_eq_some_iff.1 hread
    cases heq
    exact h.closeGroup? hclose
  case h_3 =>
    cases hread
    exact h.alternate
  case h_4 =>
    obtain ⟨⟨set, after⟩, -, heq⟩ := Option.map_eq_some_iff.1 hread
    cases heq
    exact h.push trivial
  case h_8 =>
    split at hread
    · cases hread
    · obtain ⟨repeated, hrepeat, heq⟩ := Option.map_eq_some_iff.1 hread
      cases heq
      exact h.repeatLast? hrepeat
  case h_9 =>
    obtain ⟨⟨escape, after⟩, -, heq⟩ := Option.map_eq_some_iff.1 hread
    cases heq
    exact h.push (sparesWhole_toTree escape)
  -- a repetition with a mark of its own
  case h_5 | h_6 | h_7 =>
    obtain ⟨repeated, hrepeat, heq⟩ := Option.map_eq_some_iff.1 hread
    cases heq
    exact h.repeatLast? hrepeat
  -- one character
  all_goals
    cases hread
    exact h.push trivial

theorem SparesWhole.readPieces {fuel : Nat} (h : r.SparesWhole)
    (hread : Regex.readPieces r fuel text = some r') : r'.SparesWhole := by
  induction fuel generalizing r text with
  | zero =>
    unfold Regex.readPieces at hread
    split at hread
    · cases hread
      exact h
    · cases hread
  | succ fuel ih =>
    unfold Regex.readPieces at hread
    split at hread
    · cases hread
      exact h
    · dsimp only at hread
      split at hread
      · cases hread
      · rename_i hpiece
        exact ih (h.readPiece hpiece) hread

theorem sparesWhole_start : ({} : PatternReader).SparesWhole :=
  ⟨List.forall_mem_nil _, List.forall_mem_nil _, List.forall_mem_nil _⟩

end PatternReader

/-- No group of a pattern that was read is the whole match. -/
theorem Pattern.sparesWhole_of_ofText? {text : List Char} {read : Pattern}
    (h : Pattern.ofText? text = some read) : read.tree.SparesWhole := by
  obtain ⟨r, hr, h⟩ := Option.bind_eq_some_iff.1 h
  dsimp only at h
  split at h
  · cases h
  · cases h
    exact (PatternReader.sparesWhole_start.readPieces hr).inner

/-! ## The way to the end -/

section

variable {before after : Option Char} {stack stack' target inner : List Node} {slots : List Nat}

/-- A step on the way to the mark at the end notes the end, or leaves it ahead. -/
theorem Step.toEnd (hstep : Step before after (inner ++ [.mark 1]) stack')
    (hinner : ∀ node ∈ inner, node.SparesWhole) :
    (stack' = [] ∧ noted (inner ++ [.mark 1]) = [1]) ∨
      ∃ more, stack' = more ++ [.mark 1] ∧ (∀ node ∈ more, node.SparesWhole) ∧
        ∀ slot ∈ noted (inner ++ [.mark 1]), 2 ≤ slot := by
  cases inner with
  | nil =>
    cases hstep
    exact .inl ⟨rfl, rfl⟩
  | cons node inner =>
    obtain ⟨hnode, hothers⟩ := List.forall_mem_cons.1 hinner
    right
    rw [List.cons_append] at hstep ⊢
    cases hstep with
    | empty => exact ⟨inner, rfl, hothers, nofun⟩
    | look => exact ⟨inner, rfl, hothers, nofun⟩
    | mark slot =>
      refine ⟨inner, rfl, hothers, ?_⟩
      intro s hs
      rw [List.mem_singleton.1 hs]
      exact hnode
    | concat a b =>
      refine ⟨a :: b :: inner, rfl, ?_, nofun⟩
      exact List.forall_mem_cons.2 ⟨hnode.1, List.forall_mem_cons.2 ⟨hnode.2, hothers⟩⟩
    | first a b => exact ⟨a :: inner, rfl, List.forall_mem_cons.2 ⟨hnode.1, hothers⟩, nofun⟩
    | second a b => exact ⟨b :: inner, rfl, List.forall_mem_cons.2 ⟨hnode.2, hothers⟩, nofun⟩
    | starLeave => exact ⟨inner, rfl, hothers, nofun⟩
    | starEnter greedy a =>
      exact ⟨a :: .star greedy a :: inner, rfl, List.forall_mem_cons.2 ⟨hnode, hinner⟩, nofun⟩
    | rounds greedy a =>
      refine ⟨a :: .again greedy a :: inner, rfl, ?_, nofun⟩
      exact List.forall_mem_cons.2 ⟨hnode, List.forall_mem_cons.2 ⟨hnode, hothers⟩⟩
    | againLeave => exact ⟨inner, rfl, hothers, nofun⟩
    | againEnter greedy a =>
      exact ⟨a :: .again greedy a :: inner, rfl, List.forall_mem_cons.2 ⟨hnode, hinner⟩, nofun⟩

/-- A walk on the way to the mark at the end notes the end last, or leaves it ahead. -/
theorem Walk.toEnd (hwalk : Walk before after (inner ++ [.mark 1]) slots target)
    (hinner : ∀ node ∈ inner, node.SparesWhole) :
    (target = [] ∧ ∃ front, slots = front ++ [1] ∧ ∀ slot ∈ front, 2 ≤ slot) ∨
      ∃ more, target = more ++ [.mark 1] ∧ (∀ node ∈ more, node.SparesWhole) ∧
        ∀ slot ∈ slots, 2 ≤ slot := by
  generalize hstack : inner ++ [.mark 1] = stack at hwalk
  induction hwalk generalizing inner with
  | stay stack => exact .inr ⟨inner, hstack.symm, hinner, nofun⟩
  | @go stack stack' target slots hstep hrest ih =>
    subst hstack
    rcases hstep.toEnd hinner with ⟨rfl, hnoted⟩ | ⟨more, rfl, hmore, hnoted⟩
    -- behind the end no node is left for a further step
    · cases hrest with
      | stay => exact .inl ⟨rfl, [], by rw [hnoted]; rfl, nofun⟩
      | go hstep => cases hstep
    · rcases ih hmore rfl with ⟨htarget, front, rfl, hfront⟩ | ⟨further, htarget, hfurther, hslots⟩
      · refine .inl ⟨htarget, noted (inner ++ [.mark 1]) ++ front, by simp, ?_⟩
        exact List.forall_mem_append.2 ⟨hnoted, hfront⟩
      · exact .inr ⟨further, htarget, hfurther, List.forall_mem_append.2 ⟨hnoted, hslots⟩⟩

theorem Walk.takesAll {p q : Place} (hwalk : Walk p.before p.ahead.head? stack slots target)
    (h : TakesAll target p q) : TakesAll stack p q := by
  induction hwalk with
  | stay _ => exact h
  | go hstep _ ih => exact hstep.takesAll (ih h)

end

/-! ## Threads -/

namespace Thread

section

variable {start place : Nat} {marks : Marks} {slots : List Nat}

/-- The marks after a position was noted under some numbers. -/
def noteAll (place : Nat) (marks : Marks) (slots : List Nat) : Marks :=
  slots.foldl (fun marks slot => marks.set slot (some place)) marks

theorem getElem?_noteAll {i : Nat} (hi : i ∉ slots) :
    (noteAll place marks slots)[i]? = marks[i]? := by
  induction slots generalizing marks with
  | nil => rfl
  | cons slot slots ih =>
    rw [List.mem_cons, not_or] at hi
    exact (ih hi.2).trans (List.getElem?_set_ne (Ne.symm hi.1))

theorem length_noteAll : (noteAll place marks slots).length = marks.length := by
  induction slots generalizing marks with
  | nil => rfl
  | cons slot slots ih => exact ih.trans List.length_set

/-- A thread of a match that began at position `start` and has come to position `place`: the start
is noted, and the end is ahead or is noted as well. -/
inductive Traces (start place : Nat) : Thread → Prop
  | inside {inner : List Node} {marks : Marks} (hinner : ∀ node ∈ inner, node.SparesWhole)
    (hstart : marks[0]? = some (some start)) (hroom : 1 < marks.length) :
    Traces start place ⟨inner ++ [.mark 1], marks⟩
  | done {marks : Marks} (hstart : marks[0]? = some (some start))
    (hend : marks[1]? = some (some place)) : Traces start place ⟨[], marks⟩

theorem traces_of_walk (place : Nat) {before after : Option Char} {inner target : List Node}
    (hwalk : Walk before after (inner ++ [.mark 1]) slots target)
    (hinner : ∀ node ∈ inner, node.SparesWhole) (hstart : marks[0]? = some (some start))
    (hroom : 1 < marks.length) : Traces start place ⟨target, noteAll place marks slots⟩ := by
  rcases hwalk.toEnd hinner with ⟨rfl, front, rfl, hfront⟩ | ⟨more, rfl, hmore, hslots⟩
  · have hnoted : noteAll place marks (front ++ [1]) =
        (noteAll place marks front).set 1 (some place) := List.foldl_concat _ _ _ _
    refine .done ?_ ?_
    · rw [getElem?_noteAll, hstart]
      simp only [List.mem_append, List.mem_singleton, not_or]
      exact ⟨fun hmem => absurd (hfront 0 hmem) (by omega), by omega⟩
    · rw [hnoted, List.getElem?_set_self (by rwa [length_noteAll])]
  · refine .inside hmore ?_ (by rwa [length_noteAll])
    rw [getElem?_noteAll fun hmem => absurd (hslots 0 hmem) (by omega), hstart]

end

section

variable {before after : Option Char} {c : Char} {rest : List Char} {stack : List Node}
  {place start : Nat} {marks : Marks} {thread : Thread} {threads : List Thread}

theorem exists_walk_of_mem_spread (h : thread ∈ spread before after place stack marks) :
    ∃ slots, Walk before after stack slots thread.stack ∧ Waiting thread.stack ∧
      thread.marks = noteAll place marks slots := by
  obtain ⟨route, hroute, rfl⟩ := List.mem_map.1 h
  obtain ⟨hwalk, hwaits⟩ := follows_of_mem_routes hroute
  exact ⟨route.slots, hwalk, hwaits, rfl⟩

theorem mem_of_mem_merge {more : List Thread} (h : thread ∈ merge threads more) :
    thread ∈ threads ∨ thread ∈ more :=
  (List.mem_append.1 h).imp_right fun hmore => (List.mem_filter.1 hmore).1

/-- A thread behind a character comes from one in front of it that waits for the character. -/
theorem exists_of_mem_advance (h : thread ∈ advance c after place threads) :
    ∃ source ∈ threads, ∃ number set next, source.stack = .one number set :: next ∧
      set.contains c = true ∧ thread ∈ spread (some c) after place next source.marks := by
  induction threads using List.reverseRecOn with
  | nil => exact absurd h List.not_mem_nil
  | append_singleton threads last ih =>
    have hearlier (hthread : thread ∈ advance c after place threads) :
        ∃ source ∈ threads ++ [last], ∃ number set next, source.stack = .one number set :: next ∧
          set.contains c = true ∧ thread ∈ spread (some c) after place next source.marks := by
      obtain ⟨source, hsource, hfrom⟩ := ih hthread
      exact ⟨source, List.mem_append_left _ hsource, hfrom⟩
    rw [advance_concat] at h
    split at h
    · rename_i number set next hstack
      split at h
      · rename_i hc
        rcases mem_of_mem_merge h with hthread | hthread
        · exact hearlier hthread
        · exact ⟨last, List.mem_append_right _ List.mem_cons_self, number, set, next, hstack, hc,
            hthread⟩
      · exact hearlier h
    · exact hearlier h

/-- A thread of a match of a node that began at `origin`, position `start`, and has come to the
place `p`, position `place`. -/
structure Carries (node : Node) (origin : Place) (start : Nat) (p : Place) (place : Nat)
    (thread : Thread) : Prop where
  traces : thread.Traces start place
  takes : ∀ {q}, TakesAll thread.stack p q → node.Takes origin q

variable {node : Node} {origin : Place}

theorem Carries.advance
    (h : ∀ thread ∈ threads, thread.Carries node origin start ⟨before, c :: rest⟩ place)
    (hthread : thread ∈ advance c rest.head? (place + 1) threads) :
    thread.Carries node origin start ⟨some c, rest⟩ (place + 1) := by
  obtain ⟨⟨stack, marks⟩, hsource, number, set, next, hstack, hc, hspread⟩ :=
    exists_of_mem_advance hthread
  obtain ⟨htraces, htakes⟩ := h _ hsource
  obtain ⟨slots, hwalk, -, hmarks⟩ := exists_walk_of_mem_spread hspread
  constructor
  · cases htraces with
    | done => cases hstack
    | @inside inner marks hinner hstart hroom =>
      cases inner with
      | nil => cases hstack
      | cons first inner =>
        obtain ⟨-, rfl⟩ := List.cons.inj hstack
        have htraces := traces_of_walk (place + 1) hwalk
          (fun node hnode => hinner node (List.mem_cons_of_mem _ hnode)) hstart hroom
        rwa [← hmarks] at htraces
  · intro q hq
    refine htakes ?_
    rw [show stack = .one number set :: next from hstack]
    exact ⟨⟨some c, rest⟩, ⟨c, rest, rfl, hc, rfl⟩,
      Walk.takesAll (p := ⟨some c, rest⟩) hwalk hq⟩

/-- Marks of a match of a node that began at `origin`, position `start`. -/
def MarksMatch (node : Node) (origin : Place) (start : Nat) (marks : Marks) : Prop :=
  ∃ taken q, origin.ahead = taken ++ q.ahead ∧ node.Takes origin q ∧
    marks[0]? = some (some start) ∧ marks[1]? = some (some (start + taken.length))

theorem Carries.marksMatch {p : Place} {taken : List Char}
    (h : thread.Carries node origin start p (start + taken.length))
    (hsplit : origin.ahead = taken ++ p.ahead) (hdone : thread.isDone = true) :
    MarksMatch node origin start thread.marks := by
  obtain ⟨htraces, htakes⟩ := h
  cases htraces with
  | @inside inner => simp [isDone] at hdone
  | done hstart hend => exact ⟨taken, p, hsplit, htakes rfl, hstart, hend⟩

/-- The best match at a position is one that ends there, or the one before. -/
theorem marksMatch_of_best {p : Place} {best : Option Marks} {taken : List Char}
    (hthreads : ∀ thread ∈ threads, thread.Carries node origin start p (start + taken.length))
    (hsplit : origin.ahead = taken ++ p.ahead)
    (hbest : ∀ marks, best = some marks → MarksMatch node origin start marks)
    (h : ((threads.find? isDone).map Thread.marks <|> best) = some marks) :
    MarksMatch node origin start marks := by
  cases hfind : threads.find? isDone with
  | none =>
    rw [hfind] at h
    exact hbest marks h
  | some thread =>
    rw [hfind] at h
    obtain rfl : thread.marks = marks := Option.some.inj h
    exact (hthreads thread (List.mem_of_find?_eq_some hfind)).marksMatch hsplit
      (List.find?_some hfind)

/-- What a run finds is a match, when its threads and what was found before are from one. -/
theorem marksMatch_of_run {best : Option Marks} {taken text : List Char}
    (hthreads : ∀ thread ∈ threads,
      thread.Carries node origin start ⟨before, text⟩ (start + taken.length))
    (hsplit : origin.ahead = taken ++ text)
    (hbest : ∀ marks, best = some marks → MarksMatch node origin start marks)
    (h : run best threads (start + taken.length) text = some marks) :
    MarksMatch node origin start marks := by
  induction text generalizing threads best taken before with
  | nil => exact marksMatch_of_best hthreads hsplit hbest h
  | cons c rest ih =>
    have hplace : start + taken.length + 1 = start + (taken ++ [c]).length := by simp; omega
    have hlive : ∀ thread ∈ threads.takeWhile fun thread => !thread.isDone,
        thread.Carries node origin start ⟨before, c :: rest⟩ (start + taken.length) :=
      fun thread hthread => hthreads thread ((List.takeWhile_sublist _).mem hthread)
    have hnext : ∀ thread ∈ advance c rest.head? (start + (taken ++ [c]).length)
        (threads.takeWhile fun thread => !thread.isDone),
        thread.Carries node origin start ⟨some c, rest⟩ (start + (taken ++ [c]).length) := by
      rw [← hplace]
      exact fun thread hthread => Carries.advance hlive hthread
    have hsplit' : origin.ahead = (taken ++ [c]) ++ rest := by simp [hsplit]
    rw [run_cons, hplace] at h
    exact ih hnext hsplit' (fun _ hmarks => marksMatch_of_best hthreads hsplit hbest hmarks) h

end

end Thread

/-! ## Searching -/

/-- A node between the marks of the whole match. -/
def Node.whole (a : Node) : Node := .concat (.mark 0) (.concat a (.mark 1))

theorem Node.takes_whole (a : Node) : a.whole.Takes = a.Takes := by
  change Relation.Comp Eq (Relation.Comp a.Takes Eq) = a.Takes
  rw [Relation.comp_eq, Relation.eq_comp]

section

variable {a : Node} {blank marks : Marks} {before : Option Char} {place : Nat} {text : List Char}

theorem Walk.of_whole {after : Option Char} {target : List Node} {slots : List Nat}
    (hwalk : Walk before after [a.whole] slots target) (hwaits : Waiting target) :
    ∃ more, slots = 0 :: more ∧ Walk before after [a, .mark 1] more target := by
  obtain _ | ⟨⟨⟩, hmark⟩ := hwalk
  · cases hwaits
  obtain _ | ⟨⟨⟩, hgroup⟩ := hmark
  · cases hwaits
  obtain _ | ⟨⟨⟩, hinside⟩ := hgroup
  · cases hwaits
  exact ⟨_, rfl, hinside⟩

theorem Thread.carries_of_mem_spread {thread : Thread} (ha : a.SparesWhole)
    (hblank : 1 < blank.length)
    (h : thread ∈ spread before text.head? place [a.whole] blank) :
    thread.Carries a.whole ⟨before, text⟩ place ⟨before, text⟩ place := by
  obtain ⟨slots, hwalk, hwaits, hmarks⟩ := exists_walk_of_mem_spread h
  constructor
  · obtain ⟨slots, rfl, hinside⟩ := hwalk.of_whole hwaits
    have hinside' : Walk before text.head? ([a] ++ [.mark 1]) slots thread.stack := hinside
    have hstart : (blank.set 0 (some place))[0]? = some (some place) :=
      List.getElem?_set_self (Nat.lt_of_succ_lt hblank)
    have hroom : 1 < (blank.set 0 (some place)).length := by rwa [List.length_set]
    have htraces :=
      Thread.traces_of_walk place hinside' (List.forall_mem_singleton.2 ha) hstart hroom
    rw [show thread = ⟨thread.stack, thread.marks⟩ from rfl, hmarks]
    exact htraces
  · intro q hq
    obtain ⟨u, hu, rfl⟩ := Walk.takesAll (p := ⟨before, text⟩) hwalk hq
    exact hu

theorem marksMatch_of_run_spread (ha : a.SparesWhole) (hblank : 1 < blank.length)
    (h : Thread.run none (Thread.spread before text.head? place [a.whole] blank) place text =
      some marks) :
    Thread.MarksMatch a.whole ⟨before, text⟩ place marks := by
  have hthreads : ∀ thread ∈ Thread.spread before text.head? place [a.whole] blank,
      thread.Carries a.whole ⟨before, text⟩ place ⟨before, text⟩
        (place + ([] : List Char).length) :=
    fun _ hthread => Thread.carries_of_mem_spread ha hblank hthread
  exact Thread.marksMatch_of_run hthreads rfl (fun _ hnone => by cases hnone) h

/-- What a search finds is a match, and none begins in front of it. -/
theorem exists_of_search (ha : a.SparesWhole) (hblank : 1 < blank.length)
    (h : search a.whole blank before place text = some marks) :
    ∃ front back, text = front ++ back ∧
      Thread.MarksMatch a.whole ⟨front.getLast?.or before, back⟩ (place + front.length) marks ∧
      ∀ front' back', text = front' ++ back' → front'.length < front.length →
        ¬ ∃ q, a.whole.Takes ⟨front'.getLast?.or before, back'⟩ q := by
  induction text generalizing before place with
  | nil => exact ⟨[], [], rfl, marksMatch_of_run_spread ha hblank h,
      fun _ _ _ hshort => absurd hshort (Nat.not_lt_zero _)⟩
  | cons c rest ih =>
    rw [search] at h
    split at h
    · rename_i hrun
      cases h
      exact ⟨[], c :: rest, rfl, marksMatch_of_run_spread ha hblank hrun,
        fun _ _ _ hshort => absurd hshort (Nat.not_lt_zero _)⟩
    · rename_i hrun
      obtain ⟨front, back, rfl, hmatch, hfirst⟩ := ih h
      refine ⟨c :: front, back, rfl, ?_, ?_⟩
      · rw [getLast?_cons_or, List.length_cons, Nat.add_comm front.length, ← Nat.add_assoc]
        exact hmatch
      · intro front' back' hsplit hshort
        cases front' with
        | nil =>
          rw [List.nil_append] at hsplit
          subst hsplit
          rw [← isSome_run_spread_iff blank place]
          simp [hrun]
        | cons d front' =>
          obtain ⟨rfl, hrest⟩ := List.cons.inj hsplit
          rw [getLast?_cons_or]
          exact hfirst front' back' hrest (Nat.lt_of_succ_lt_succ hshort)

end

/-- The program of a pattern stands between the marks of the whole match and notes them nowhere
else. -/
theorem exists_whole_of_ofPattern? {pattern : String} {caseInsensitive : Bool} {regex : Regex}
    (h : ofPattern? pattern caseInsensitive = some regex) :
    ∃ a : Node, regex.program = a.whole ∧ a.SparesWhole := by
  rw [ofPattern?] at h
  obtain ⟨read, hread, h⟩ := Option.bind_eq_some_iff.1 h
  obtain ⟨⟨measured, flags⟩, hnode, h⟩ := Option.bind_eq_some_iff.1 h
  obtain ⟨⟨inner, inside⟩, hinner, heq⟩ := Option.bind_eq_some_iff.1 hnode
  cases heq
  dsimp only at h
  split at h
  · cases h
  · cases h
    have hspares := (Pattern.sparesWhole_of_ofText? hread).toNode? hinner
    exact ⟨(inner.node.numbered 0).1, rfl, (inner.node.sparesWhole_numbered 0).2 hspares⟩

/-- A match begins behind the text `front` and in front of the text `back`. -/
def BeginsAt (regex : Regex) (front back : List Char) : Prop :=
  ∃ q, regex.program.Takes ⟨front.getLast?, back⟩ q

/-- A match in a text has taken `taken`, with `front` in front of it and `back` behind, and no
match begins earlier in the text. -/
structure Match.Lies (m : Match) (regex : Regex) (front taken back : List Char) : Prop where
  text : m.text = .ofList taken
  start : m.marks[0]? = some (some front.length)
  takes : ∃ q, q.ahead = back ∧ regex.program.Takes ⟨front.getLast?, taken ++ back⟩ q
  first : ∀ earlier later, front ++ taken ++ back = earlier ++ later →
    earlier.length < front.length → ¬ regex.BeginsAt earlier later

/-- What a search finds is a part of the text that the program takes, the first in the text. -/
theorem exists_lies {pattern text : String} {caseInsensitive : Bool} {regex : Regex} {m : Match}
    (hregex : ofPattern? pattern caseInsensitive = some regex) (hfind : regex.find? text = some m) :
    ∃ front taken back, text.toList = front ++ taken ++ back ∧ m.Lies regex front taken back := by
  obtain ⟨a, hprogram, ha⟩ := exists_whole_of_ofPattern? hregex
  obtain ⟨marks, hsearch, rfl⟩ := Option.map_eq_some_iff.1 hfind
  rw [hprogram] at hsearch
  obtain ⟨front, behind, htext, ⟨taken, q, hbehind, htakes, hstart, hend⟩, hfirst⟩ :=
    exists_of_search ha (by simp) hsearch
  simp only [Option.or_none, ← hprogram, Nat.zero_add] at htakes hstart hend hfirst
  obtain rfl : behind = taken ++ q.ahead := hbehind
  refine ⟨front, taken, q.ahead, by rw [htext, List.append_assoc], ?_, hstart, ⟨q, rfl, htakes⟩, ?_⟩
  · have hgroup : ((text.toList.drop front.length).take (front.length + taken.length -
        front.length)) = taken := by
      rw [htext, Nat.add_sub_cancel_left]
      simp
    simp only [Match.text, Match.group?, hstart, hend, Nat.mul_zero, Nat.zero_add]
    change ((some _ : Option String).getD "") = _
    rw [hgroup]
    rfl
  · intro earlier later hsplit
    exact hfirst earlier later (by rw [htext, ← List.append_assoc, hsplit])

/-- No match begins in front of the one that was found. -/
theorem not_beginsAt_of_find? {pattern text : String} {caseInsensitive : Bool} {regex : Regex}
    {m : Match} {start : Nat} {earlier later : List Char}
    (hregex : ofPattern? pattern caseInsensitive = some regex) (hfind : regex.find? text = some m)
    (hstart : m.marks[0]? = some (some start)) (hsplit : text.toList = earlier ++ later)
    (hearlier : earlier.length < start) : ¬ regex.BeginsAt earlier later := by
  obtain ⟨front, taken, back, htext, hlies⟩ := exists_lies hregex hfind
  obtain rfl : start = front.length := by simpa [hstart] using hlies.start
  exact hlies.first earlier later (htext ▸ hsplit) hearlier

end ClipSplice.Regex
