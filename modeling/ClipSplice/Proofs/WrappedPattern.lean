import ClipSplice.Proofs.ClosingParenthesis

/-!
# Patterns within larger patterns

A pattern may be set between the parentheses of a group of a larger pattern. It is then read as it
is alone, unless it comes to a closing parenthesis that belongs to none of its own groups
(`PatternReader.closesEarly`). What becomes of the parenthesis behind it is shown for one step of
reading (`heeds_readPiece`) and for all of them (`PatternReader.closes_readPieces`).
-/

namespace ClipSplice.Regex

/-! ## Groups -/

theorem heeds_readFlags (changes : FlagChanges) (cleared dangling : Bool) :
    Heeds Spent fun text => (readFlags changes cleared dangling text).map
      fun (changes, last, rest) => ((changes, last), rest) := by
  intro text
  dsimp only
  induction text generalizing changes cleared dangling with
  | nil =>
    -- the parenthesis ends the flags
    cases dangling with
    | false => exact .broken rfl
    | true => exact .neither
  | cons c rest ih =>
    have hrest := List.suffix_cons c rest
    simp only [List.cons_append, readFlags]
    split
    · split
      · exact .neither
      · exact .leftOver _ _ hrest
    · split
      · split
        · exact .neither
        · exact (ih _ _ _).mono hrest
      · cases Flag.ofLetter? c with
        | none => exact .neither
        | some flag =>
          dsimp only
          split
          · exact .neither
          · exact (ih _ _ _).mono hrest

theorem heeds_readNamedGroup (r : PatternReader) : Heeds Never (readNamedGroup r) := by
  intro text
  refine (heeds_cut? (by decide) text).bind _ (fun name after => ?_) nofun
  dsimp only
  split
  · exact .neither
  · exact .leftOver _ _ List.suffix_rfl

/-- A group that is not captured, or a setting of flags, behind its question mark. -/
def readFlagGroup (r : PatternReader) (text : List Char) : Option (PatternReader × List Char) := do
  let (changes, last, after) ← readFlags [] false false text
  let free := changes.apply .ignoreBlanks r.free
  if last = ':' then return (r.openGroup (.plain changes) free, after)
  else if changes.isEmpty then none
  else return ({ r with free }.push (.flags changes), after)

theorem heeds_readFlagGroup (r : PatternReader) : Heeds Spent (readFlagGroup r) := by
  have hreshape (text : List Char) : readFlagGroup r text =
      ((readFlags [] false false text).map fun (changes, last, rest) =>
        ((changes, last), rest)).bind fun ((changes, last), after) =>
          if last = ':' then
            some (r.openGroup (.plain changes) (changes.apply .ignoreBlanks r.free), after)
          else if changes.isEmpty then none
          else some ({ r with free := changes.apply .ignoreBlanks r.free }.push (.flags changes),
            after) := by
    rw [readFlagGroup]
    cases readFlags [] false false text <;> rfl
  intro text
  rw [hreshape, hreshape]
  refine (heeds_readFlags [] false false text).andThen _ ?_ fun _ => rfl
  rintro ⟨changes, last⟩ after
  dsimp only
  split
  · exact .leftOver _ _ List.suffix_rfl
  · split
    · exact .neither
    · exact .leftOver _ _ List.suffix_rfl

theorem readGroup_eq_readFlagGroup {r : PatternReader} {text rest : List Char}
    (hskip : skip r.free text = '?' :: rest) (hname : rest.head? ≠ some '<')
    (hname' : ¬ ['P', '<'] <+: rest) : readGroup r text = readFlagGroup r rest := by
  rw [readGroup, hskip]
  split
  case h_1 heq =>
    cases heq
    exact absurd (List.prefix_append ['P', '<'] _) hname'
  case h_2 heq | h_3 heq =>
    cases heq
    rfl
  case h_4 heq | h_5 heq | h_6 heq =>
    cases heq
    exact absurd rfl hname
  case h_7 heq =>
    cases heq
    rfl
  case h_8 hother => exact absurd rfl (hother _)

theorem readGroup_eq_readNamedGroup {r : PatternReader} {text rest : List Char}
    (hskip : skip r.free text = '?' :: '<' :: rest) (hahead : rest.head? ≠ some '=')
    (hahead' : rest.head? ≠ some '!') : readGroup r text = readNamedGroup r rest := by
  rw [readGroup, hskip]
  split
  case h_1 heq | h_2 heq | h_3 heq => cases heq
  case h_4 heq =>
    cases heq
    exact absurd rfl hahead
  case h_5 heq =>
    cases heq
    exact absurd rfl hahead'
  case h_6 heq =>
    cases heq
    rfl
  case h_7 hother heq =>
    cases heq
    exact absurd rfl (hother _)
  case h_8 hother => exact absurd rfl (hother _)

theorem readGroup_capture {r : PatternReader} {text : List Char}
    (hmark : (skip r.free text).head? ≠ some '?') :
    readGroup r text = some ({ r with captures := r.captures + 1 }.openGroup
      (.capture (r.captures + 1)) r.free, skip r.free text) := by
  rw [readGroup]
  split
  case h_8 => rfl
  all_goals
    rename_i heq
    rw [heq] at hmark
    exact absurd rfl hmark

theorem heeds_readGroup (r : PatternReader) : Heeds Spent (readGroup r) := by
  refine heeds_of_skip r.free (fun text => ?_) fun text hstop hstop' => ?_
  · rw [readGroup, readGroup, skip_skip]
  by_cases hmark : text.head? = some '?'
  case neg =>
    rw [readGroup_capture (by rwa [hstop]), hstop,
      readGroup_capture (by rw [hstop']; exact head?_append_close (by decide) hmark), hstop']
    exact .leftOver _ _ List.suffix_rfl
  obtain ⟨rest, rfl⟩ := List.head?_eq_some_iff.1 hmark
  by_cases hname : rest.head? = some '<'
  · obtain ⟨name, rfl⟩ := List.head?_eq_some_iff.1 hname
    by_cases hbehind : name.head? = some '=' ∨ name.head? = some '!'
    · rcases hbehind with hahead | hahead <;>
        obtain ⟨behind, rfl⟩ := List.head?_eq_some_iff.1 hahead
      all_goals
        rw [readGroup, readGroup, hstop, hstop']
        exact .neither
    · push Not at hbehind
      rw [readGroup_eq_readNamedGroup hstop hbehind.1 hbehind.2,
        readGroup_eq_readNamedGroup hstop' (head?_append_close (by decide) hbehind.1)
          (head?_append_close (by decide) hbehind.2)]
      exact ((heeds_readNamedGroup r name).mono ⟨['?', '<'], rfl⟩).imp False.elim
  by_cases hname' : ['P', '<'] <+: rest
  · obtain ⟨name, rfl⟩ := hname'
    rw [readGroup, readGroup, hstop, hstop']
    exact ((heeds_readNamedGroup r name).mono ⟨['?', 'P', '<'], rfl⟩).imp False.elim
  · have hname'' : ¬ ['P', '<'] <+: rest ++ [')'] := by
      rw [List.prefix_concat_iff, not_or]
      refine ⟨fun heq => ?_, hname'⟩
      simpa using congrArg List.getLast? heq
    rw [readGroup_eq_readFlagGroup hstop hname hname',
      readGroup_eq_readFlagGroup hstop' (head?_append_close (by decide) hname) hname'']
    exact (heeds_readFlagGroup r rest).mono (List.suffix_cons _ rest)

/-! ## Repetitions -/

theorem heeds_takeDigits (free inComment : Bool) :
    Heeds Never fun text => some (takeDigits free inComment text) := by
  intro text
  dsimp only
  induction text generalizing inComment with
  | nil =>
    cases inComment with
    | false => cases free <;> exact .leftOver [] [] List.suffix_rfl
    | true => exact .comment []
  | cons c rest ih =>
    have hrest := List.suffix_cons c rest
    simp only [List.cons_append, takeDigits]
    split
    · exact (ih _).mono hrest
    · split
      · exact (ih _).mono hrest
      · split
        · exact (ih _).mono hrest
        · split
          · exact ((ih _).mono hrest).map Never (fun digits => c :: digits) id
          · exact .leftOver [] (c :: rest) List.suffix_rfl

theorem heeds_skipBlanks {α : Type} (free : Bool) (x : α) :
    Heeds Never fun text => some (x, skipBlanks free text) := by
  intro text
  simp only [skipBlanks, dropWhile_isBlank_append]
  exact (heeds_skip free x _).mono (List.dropWhile_suffix _)

theorem heeds_readCount (free : Bool) : Heeds Never fun text => some (readCount free text) := by
  intro text
  simp only [readCount, dropWhile_isBlank_append]
  refine .mono ?_ (List.dropWhile_suffix isBlank)
  exact (heeds_takeDigits free false _).bind (fun p => some
    (if p.1.isEmpty || Nat.pow 2 32 ≤ Nat.ofDigitChars 10 p.1 0 then none
      else some (Nat.ofDigitChars 10 p.1 0), skipBlanks free p.2))
    (fun digits after => heeds_skipBlanks free _ after) nofun

theorem heeds_readGreed : Heeds Never fun text => some (readGreed text) := by
  intro text
  dsimp only
  by_cases hlazy : text.head? = some '?'
  · obtain ⟨rest, rfl⟩ := List.head?_eq_some_iff.1 hlazy
    exact .leftOver false _ (List.suffix_cons _ rest)
  · rw [PatternReader.readGreed_eq hlazy,
      PatternReader.readGreed_eq (head?_append_close (by decide) hlazy)]
    exact .leftOver true _ List.suffix_rfl

/-- The end of the bounds behind an upper bound. -/
def endBounds (least : Nat) : Option Nat × List Char → Option ((Nat × Option Nat) × List Char)
  | (some most, '\x7d' :: rest) => if least ≤ most then some ((least, some most), rest) else none
  | _ => none

theorem endBounds_eq_none {least : Nat} {most : Option Nat} {text : List Char}
    (hbrace : text.head? ≠ some '\x7d') : endBounds least (most, text) = none := by
  unfold endBounds
  split
  · rename_i heq
    cases heq
    exact absurd rfl hbrace
  · rfl

theorem heeds_endBounds (least : Nat) (most : Option Nat) :
    Heeds Never fun rest => endBounds least (most, rest) := by
  intro text
  cases most with
  | none => exact .neither
  | some most =>
    by_cases hbrace : text.head? = some '\x7d'
    · obtain ⟨rest, rfl⟩ := List.head?_eq_some_iff.1 hbrace
      simp only [List.cons_append, endBounds]
      split
      · exact .leftOver _ _ (List.suffix_cons _ rest)
      · exact .neither
    · dsimp only
      rw [endBounds_eq_none hbrace, endBounds_eq_none (head?_append_close (by decide) hbrace)]
      exact .neither

/-- The bounds behind a comma. -/
def readMost (free : Bool) (least : Nat) (text : List Char) :
    Option ((Nat × Option Nat) × List Char) :=
  match skip free text with
  | '\x7d' :: rest => some ((least, none), rest)
  | rest => endBounds least (readCount free rest)

theorem readMost_eq_of_head? {free : Bool} {least : Nat} {text : List Char}
    (hbrace : (skip free text).head? ≠ some '\x7d') :
    readMost free least text = endBounds least (readCount free (skip free text)) := by
  rw [readMost]
  split
  · rename_i heq
    rw [heq] at hbrace
    exact absurd rfl hbrace
  · rfl

theorem heeds_readMost (free : Bool) (least : Nat) : Heeds Never (readMost free least) := by
  refine heeds_of_skip free (fun text => ?_) fun text hstop hstop' => ?_
  · rw [readMost, readMost, skip_skip]
  by_cases hbrace : text.head? = some '\x7d'
  · obtain ⟨rest, rfl⟩ := List.head?_eq_some_iff.1 hbrace
    rw [readMost, readMost, hstop, hstop']
    exact .leftOver _ _ (List.suffix_cons _ rest)
  · rw [readMost_eq_of_head? (by rwa [hstop]), hstop,
      readMost_eq_of_head? (by rw [hstop']; exact head?_append_close (by decide) hbrace), hstop']
    exact (heeds_readCount free text).bind (endBounds least) (heeds_endBounds least) nofun

/-- The bounds behind the least number of rounds. -/
def readBehind (free : Bool) : Option Nat × List Char → Option ((Nat × Option Nat) × List Char)
  | (some least, ',' :: rest) => readMost free least rest
  | (some least, '\x7d' :: rest) => some ((least, some least), rest)
  | _ => none

theorem heeds_readBehind (free : Bool) (least : Option Nat) :
    Heeds Never fun rest => readBehind free (least, rest) := by
  intro text
  cases least with
  | none => exact .neither
  | some least =>
    rcases text with _ | ⟨c, rest⟩
    · exact .neither
    · refine .mono ?_ (List.suffix_cons c rest)
      by_cases hcomma : c = ','
      · subst hcomma
        exact heeds_readMost free least rest
      · by_cases hbrace : c = '\x7d'
        · subst hbrace
          exact .leftOver _ _ List.suffix_rfl
        · simpa [readBehind, hcomma, hbrace] using Beside.neither

theorem readBounds_eq (free : Bool) (text : List Char) :
    ((readBounds free text).map fun (least, most, rest) => ((least, most), rest)) =
      readBehind free (readCount free (skip free text)) := by
  rw [readBounds]
  generalize readCount free (skip free text) = counted
  obtain ⟨_ | least, after⟩ := counted
  · rfl
  · dsimp only [Option.bind_eq_bind, Option.bind_some]
    split
    · rename_i rest
      change _ = readMost free least rest
      by_cases hbrace : (skip free rest).head? = some '\x7d'
      · obtain ⟨behind, hskip⟩ := List.head?_eq_some_iff.1 hbrace
        rw [readMost, hskip]
        rfl
      rw [readMost_eq_of_head? hbrace]
      generalize skip free rest = rest at hbrace ⊢
      split
      · exact absurd rfl hbrace
      generalize readCount free rest = counted
      obtain ⟨_ | most, last⟩ := counted
      · rfl
      · by_cases hlast : last.head? = some '\x7d'
        · obtain ⟨behind, rfl⟩ := List.head?_eq_some_iff.1 hlast
          simp only [endBounds, Option.bind_some]
          split <;> rfl
        · rw [endBounds_eq_none hlast]
          dsimp only [Option.bind_some]
          split
          · exact absurd rfl hlast
          · rfl
    · rfl
    · rename_i hcomma hbrace
      unfold readBehind
      split
      · rename_i heq
        cases heq
        exact absurd rfl (hcomma _)
      · rename_i heq
        cases heq
        exact absurd rfl (hbrace _)
      · rfl

theorem heeds_readBounds (free : Bool) : Heeds Never fun text =>
    (readBounds free text).map fun (least, most, rest) => ((least, most), rest) := by
  intro text
  simp only [readBounds_eq]
  have hskip : Heeds Never fun rest => some ((), skip free rest) := heeds_skip free ()
  have hcount := (hskip text).bind
    (fun p => some (readCount free p.2)) (fun _ => heeds_readCount free) nofun
  exact hcount.bind (readBehind free) (heeds_readBehind free) nofun

/-! ## Patterns -/

/-- Nothing is left of a text, or a brace that no repetition begins with. -/
def Stopped (r : PatternReader) (rest : List Char) : Prop :=
  rest = [] ∨ ∃ more, rest = '\x7b' :: more ∧ readBounds r.free more = none

/-- A repetition with a mark behind it that makes it lazy. -/
theorem heeds_repeatLast? (r : PatternReader) (least : Nat) (most : Option Nat) :
    Heeds Never fun text => (r.repeatLast? least most (readGreed text).1).map fun r =>
      (r, (readGreed text).2) := by
  intro text
  simp only [Option.map_eq_bind]
  exact (heeds_readGreed text).bind
    (fun p => (r.repeatLast? least most p.1).bind fun r => some (r, p.2))
    (fun greedy after => heeds_option (fun r => heeds_some r) after) nofun

/-- A repetition behind its opening brace. -/
theorem heeds_bracedRepetition (r : PatternReader) : Heeds Never fun text =>
    match readBounds r.free text with
    | none => none
    | some (least, most, after) =>
      let (greedy, after) := readGreed (skip r.free after)
      (r.repeatLast? least most greedy).map fun r => (r, after) := by
  have hstep (text : List Char) :
      (match readBounds r.free text with
        | none => none
        | some (least, most, after) =>
          let (greedy, after) := readGreed (skip r.free after)
          (r.repeatLast? least most greedy).map fun r => (r, after)) =
        ((readBounds r.free text).map fun (least, most, rest) => ((least, most), rest)).bind
          fun p => (some ((), skip r.free p.2)).bind fun q =>
            (r.repeatLast? p.1.1 p.1.2 (readGreed q.2).1).map fun r => (r, (readGreed q.2).2) := by
    cases readBounds r.free text <;> rfl
  have hskip : Heeds Never fun rest => some ((), skip r.free rest) := heeds_skip r.free ()
  intro text
  simp only [hstep]
  exact (heeds_readBounds r.free text).bind
    (fun p => (some ((), skip r.free p.2)).bind fun q =>
      (r.repeatLast? p.1.1 p.1.2 (readGreed q.2).1).map fun r => (r, (readGreed q.2).2))
    (fun bounds after => (hskip after).bind _ (fun _ => heeds_repeatLast? r _ _) nofun) nofun

theorem heeds_readPiece (r : PatternReader) (c : Char) : Heeds Stopped (readPiece r c) := by
  intro text
  unfold readPiece
  split
  case h_1 => exact (heeds_readGroup r text).imp .inl
  case h_2 =>
    cases r.closeGroup? with
    | none => exact .neither
    | some r => exact .leftOver r _ List.suffix_rfl
  case h_4 =>
    exact (heeds_readSet r.free text).map _
      (fun set => r.push (.bracket set.negated set.inner)) False.elim
  case h_5 | h_6 | h_7 => exact (heeds_repeatLast? r _ _ text).imp False.elim
  case h_8 => exact (heeds_bracedRepetition r text).imp False.elim
  case h_9 =>
    refine (heeds_readEscape r.free text).map _ (fun escape => r.push escape.toTree) ?_
    rintro escape rest (rfl | ⟨more, -, rfl, hmore⟩)
    · exact .inl rfl
    · exact .inr ⟨more, rfl, hmore⟩
  all_goals exact .leftOver _ _ List.suffix_rfl

/-! ## Groups around a pattern -/

namespace PatternReader

/-- A reader within further open groups. -/
def within (r : PatternReader) (outer : List OpenGroup) : PatternReader :=
  { r with groups := r.groups ++ outer }

variable {r r' : PatternReader} {outer : List OpenGroup} {c : Char} {text rest : List Char}

theorem repeatLast?_within (least : Nat) (most : Option Nat) (greedy : Bool) :
    (r.within outer).repeatLast? least most greedy =
      (r.repeatLast? least most greedy).map (within · outer) := by
  unfold repeatLast?
  dsimp only [within]
  split <;> rfl

theorem closeGroup?_within (hgroups : r.groups ≠ []) :
    (r.within outer).closeGroup? = r.closeGroup?.map (within · outer) := by
  obtain ⟨group, groups, hgroups⟩ := List.exists_cons_of_ne_nil hgroups
  simp [closeGroup?, within, inner, hgroups]

theorem readNamedGroup_within : readNamedGroup (r.within outer) text =
    (readNamedGroup r text).map fun (r, rest) => (r.within outer, rest) := by
  unfold readNamedGroup
  cases Text.cut? '>' text with
  | none => rfl
  | some p =>
    dsimp only [within, Option.bind_eq_bind, Option.bind_some]
    by_cases hname : (!isGroupName p.1 ||
      r.names.any fun entry => entry.1 = String.ofList p.1) = true
    · simp only [hname, if_true]
      rfl
    · simp only [hname]
      rfl

theorem readFlagGroup_within : readFlagGroup (r.within outer) text =
    (readFlagGroup r text).map fun (r, rest) => (r.within outer, rest) := by
  unfold readFlagGroup
  cases readFlags [] false false text with
  | none => rfl
  | some p =>
    dsimp only [within, Option.bind_eq_bind, Option.bind_some]
    split
    · rfl
    · split <;> rfl

theorem readGroup_within : readGroup (r.within outer) text =
    (readGroup r text).map fun (r, rest) => (r.within outer, rest) := by
  have hskip : skip (r.within outer).free text = skip r.free text := rfl
  rw [readGroup, readGroup, hskip]
  split
  case h_1 => exact readNamedGroup_within
  case h_6 => exact readNamedGroup_within
  case h_7 => exact readFlagGroup_within
  all_goals rfl

/-- A step within further groups is the same step, unless it ends a group that is not there. -/
theorem readPiece_within (hclose : c = ')' → r.groups ≠ []) :
    readPiece (r.within outer) c text =
      (readPiece r c text).map fun (r, rest) => (r.within outer, rest) := by
  have hrepeat (least : Nat) (most : Option Nat) (greedy : Bool) (after : List Char) :
      ((r.within outer).repeatLast? least most greedy).map (fun r => (r, after)) =
        ((r.repeatLast? least most greedy).map fun r => (r, after)).map
          fun (r, rest) => (r.within outer, rest) := by
    rw [repeatLast?_within, Option.map_map, Option.map_map]
    rfl
  unfold readPiece
  split
  case h_1 => exact readGroup_within
  case h_2 =>
    rw [closeGroup?_within (hclose rfl), Option.map_map, Option.map_map]
    rfl
  case h_4 =>
    change (readSet r.free text).map _ = _
    rw [Option.map_map]
    rfl
  case h_5 | h_6 | h_7 => exact hrepeat _ _ _ _
  case h_8 =>
    have hbounds : readBounds (r.within outer).free text = readBounds r.free text := rfl
    rw [hbounds]
    cases readBounds r.free text with
    | none => rfl
    | some p => exact hrepeat _ _ _ _
  case h_9 =>
    change (readEscape r.free text).map _ = _
    rw [Option.map_map]
    rfl
  all_goals rfl

/-! ## Reading within a group -/

/-- Whether the reading of a text comes to a closing parenthesis with no group open. -/
def closesEarly (r : PatternReader) : (fuel : Nat) → List Char → Bool
  | fuel, text =>
    match skip r.free text with
    | [] => false
    | c :: rest =>
      if c = ')' && r.groups.isEmpty then true
      else
        match fuel with
        | 0 => false
        | fuel + 1 =>
          match readPiece r c rest with
          | none => false
          | some (r, after) => closesEarly r fuel after

theorem readPieces_stop {fuel : Nat} (hskip : skip r.free text = []) :
    readPieces r fuel text = some r := by
  unfold readPieces
  rw [hskip]

theorem readPieces_step {fuel : Nat} (hskip : skip r.free text = c :: rest) :
    readPieces r (fuel + 1) text =
      (readPiece r c rest).bind fun (r, after) => readPieces r fuel after := by
  rw [readPieces, hskip]
  dsimp only
  cases readPiece r c rest <;> rfl

theorem readPieces_nil (r : PatternReader) (fuel : Nat) : readPieces r fuel [] = some r :=
  readPieces_stop (by cases r.free <;> rfl)

/-- A parenthesis at the end of a text closes a group. -/
theorem readPieces_close {fuel : Nat} (hskip : skip r.free text = [')']) :
    readPieces r (fuel + 1) text = r.closeGroup? := by
  rw [readPieces_step hskip, readPiece]
  cases r.closeGroup? with
  | none => rfl
  | some closed => exact readPieces_nil closed fuel

theorem closesEarly_eq_false_iff {fuel : Nat} (hskip : skip r.free text = c :: rest) :
    r.closesEarly (fuel + 1) text = false ↔ (c = ')' → r.groups ≠ []) ∧
      ∀ r' after, readPiece r c rest = some (r', after) → r'.closesEarly fuel after = false := by
  rw [closesEarly, hskip]
  dsimp only
  split
  · rename_i hclose
    simp at hclose
    simp [hclose]
  · rename_i hclose
    have hopen : c = ')' → r.groups ≠ [] := by simpa using hclose
    rcases readPiece r c rest with _ | ⟨r', after⟩
    · simpa using hopen
    · simp only [Option.some.injEq, Prod.mk.injEq]
      constructor
      · rintro hlater
        refine ⟨hopen, ?_⟩
        rintro _ _ ⟨rfl, rfl⟩
        exact hlater
      · exact fun h => h.2 r' after ⟨rfl, rfl⟩

/-- A text that can be read to its end closes no group that is not there. -/
theorem closesEarly_of_readPieces {fuel : Nat} (hread : readPieces r fuel text = some r') :
    r.closesEarly fuel text = false := by
  induction fuel generalizing r text with
  | zero =>
    unfold readPieces at hread
    unfold closesEarly
    split
    · rfl
    · rename_i hskip
      rw [hskip] at hread
      cases hread
  | succ fuel ih =>
    rcases hskip : skip r.free text with _ | ⟨c, rest⟩
    · unfold closesEarly
      rw [hskip]
    · rw [readPieces_step hskip] at hread
      obtain ⟨⟨r'', after⟩, hpiece, hread⟩ := Option.bind_eq_some_iff.1 hread
      rw [closesEarly_eq_false_iff hskip]
      constructor
      · rintro rfl hgroups
        rw [readPiece, closeGroup?, hgroups] at hpiece
        cases hpiece
      · intro s behind hpiece'
        cases hpiece.symm.trans hpiece'
        exact ih hread

/-- Where a reading has stopped it goes no further. -/
theorem eq_of_stopped {fuel : Nat} (hstopped : Stopped r text)
    (hread : readPieces r fuel text = some r') : r' = r := by
  rcases hstopped with rfl | ⟨more, rfl, hbounds⟩
  · rw [readPieces_nil] at hread
    exact (Option.some.inj hread).symm
  · have hskip : skip r.free ('\x7b' :: more) = '\x7b' :: more :=
      skip_cons_of_ne (by decide) (by decide)
    cases fuel with
    | zero =>
      rw [readPieces, hskip] at hread
      cases hread
    | succ fuel =>
      rw [readPieces_step hskip, readPiece, hbounds] at hread
      cases hread

theorem suffix_of_readPiece (hpiece : readPiece r c text = some (r', rest)) : rest <:+ text := by
  have h := heeds_readPiece r c text
  rw [hpiece] at h
  exact h.suffix

/-- Any fuel that is enough for a text gives the same reading. -/
theorem readPieces_eq_of_length_le {fuel fuel' : Nat} (hfuel : text.length ≤ fuel)
    (hfuel' : text.length ≤ fuel') : readPieces r fuel text = readPieces r fuel' text := by
  induction fuel generalizing r text fuel' with
  | zero =>
    obtain rfl := List.length_eq_zero_iff.1 (Nat.le_zero.1 hfuel)
    rw [readPieces_nil, readPieces_nil]
  | succ fuel ih =>
    rcases hskip : skip r.free text with _ | ⟨c, rest⟩
    · rw [readPieces_stop hskip, readPieces_stop hskip]
    · have hlength : (c :: rest).length ≤ text.length := by
        rw [← hskip]
        exact (suffix_skip r.free text).length_le
      rw [List.length_cons] at hlength
      obtain ⟨fuel', rfl⟩ := Nat.exists_eq_succ_of_ne_zero (n := fuel') (by omega)
      rw [readPieces_step hskip, readPieces_step hskip]
      rcases hpiece : readPiece r c rest with _ | ⟨r', after⟩
      · rfl
      · have hshort := (suffix_of_readPiece hpiece).length_le
        exact ih (by omega) (by omega)

/-- What is read of a text, and what is read of it with a closing parenthesis behind it within any
further groups. -/
inductive Closes (read' : List OpenGroup → Option PatternReader) : Option PatternReader → Prop
  /-- The parenthesis closes the innermost group that is open. -/
  | closed (r : PatternReader) (hread : ∀ outer, read' outer = (r.within outer).closeGroup?) :
    Closes read' (some r)
  /-- A comment takes the parenthesis. -/
  | comment (r : PatternReader) (hread : ∀ outer, read' outer = some (r.within outer)) :
    Closes read' (some r)
  /-- What is no pattern leaves the groups around it open. -/
  | broken (hopen : ∀ outer r, read' outer = some r → outer <:+ r.groups) : Closes read' none

theorem closes_readPieces {fuel fuel' : Nat} (hearly : r.closesEarly fuel text = false)
    (hfuel : text.length ≤ fuel) (hfuel' : text.length < fuel') :
    Closes (fun outer => readPieces (r.within outer) fuel' (text ++ [')']))
      (readPieces r fuel text) := by
  induction fuel generalizing r text fuel' with
  | zero =>
    obtain ⟨fuel', rfl⟩ := Nat.exists_eq_succ_of_ne_zero (Nat.ne_zero_of_lt hfuel')
    obtain rfl := List.length_eq_zero_iff.1 (Nat.le_zero.1 hfuel)
    rw [readPieces_nil]
    exact .closed r fun outer => readPieces_close (skip_cons_of_ne (by decide) (by decide))
  | succ fuel ih =>
    obtain ⟨fuel', rfl⟩ := Nat.exists_eq_succ_of_ne_zero (Nat.ne_zero_of_lt hfuel')
    rcases skip_append r.free text with ⟨left, hskip, hskip', hleft⟩ | ⟨hskip, hskip'⟩
    case inr =>
      rw [readPieces_stop hskip]
      exact .comment r fun outer => readPieces_stop hskip'
    rcases left with _ | ⟨c, rest⟩
    · rw [readPieces_stop hskip]
      exact .closed r fun outer => readPieces_close hskip'
    -- both readings take the same step; the groups around the pattern stay as they are, since the
    -- step closes none of them
    obtain ⟨hclose, hlater⟩ := (closesEarly_eq_false_iff hskip).1 hearly
    have hlength : (c :: rest).length ≤ text.length := hleft.length_le
    rw [List.length_cons] at hlength
    have hstep : (fun outer => readPieces (r.within outer) (fuel' + 1) (text ++ [')'])) =
        fun outer => ((readPiece r c (rest ++ [')'])).map fun (r, rest) =>
          (r.within outer, rest)).bind fun (r, after) => readPieces r fuel' after := by
      funext outer
      rw [readPieces_step (r := r.within outer) hskip', readPiece_within hclose]
      rfl
    rw [readPieces_step hskip, hstep]
    have hpiece := heeds_readPiece r c rest
    generalize readPiece r c rest = read, readPiece r c (rest ++ [')']) = read' at hpiece hlater ⊢
    cases hpiece with
    | neither => exact .broken nofun
    | leftOver r' after hafter =>
      have hshort := hafter.length_le
      exact ih (hlater r' after rfl) (by omega) (by omega)
    | comment r' =>
      change Closes _ (readPieces r' fuel [])
      rw [readPieces_nil]
      exact .comment r' fun outer => readPieces_nil _ _
    | @broken r' after dead =>
      refine .broken fun outer r'' hread => ?_
      rw [eq_of_stopped (r := r'.within outer) dead hread]
      exact List.suffix_append _ _

end PatternReader

/-! ## Whole patterns -/

namespace Pattern

/-- Whether the reading of a text comes to a closing parenthesis with no group open. -/
def closesEarly (text : List Char) : Bool := PatternReader.closesEarly {} text.length text

/-- A pattern that has to match at the start of a line. -/
def atLineStart (read : Pattern) : Pattern :=
  { read with tree := .concat (.anchor .lineStart) (.group [] read.tree) }

theorem depth_atLineStart (read : Pattern) : read.atLineStart.tree.depth = read.tree.depth + 2 := by
  simp [atLineStart, Tree.depth]

/-- A pattern that may be nested so deep. -/
def shallow? (read : Pattern) : Option Pattern :=
  if read.tree.depth > depthLimit then none else some read

theorem shallow?_atLineStart (read : Pattern) :
    read.shallow?.bind (fun read => read.atLineStart.shallow?) = read.atLineStart.shallow? := by
  rw [shallow?]
  split
  · rename_i hdeep
    rw [shallow?, depth_atLineStart, if_pos (Nat.lt_add_right 2 hdeep)]
    rfl
  · rfl

end Pattern

namespace PatternReader

variable {r : PatternReader} {text : List Char}

/-- The pattern that has been read at the end of a text. -/
def pattern? (r : PatternReader) : Option Pattern :=
  if r.groups = [] then Pattern.shallow? ⟨r.inner, r.captures, r.names.reverse⟩ else none

theorem ofText?_eq_of_length_le {fuel : Nat} (hfuel : text.length ≤ fuel) :
    Pattern.ofText? text = (readPieces {} fuel text).bind pattern? := by
  rw [readPieces_eq_of_length_le hfuel le_rfl, Pattern.ofText?]
  refine congrArg (Option.bind _) (funext fun r => ?_)
  rw [pattern?, Pattern.shallow?]
  by_cases hgroups : r.groups = [] <;> simp [hgroups]

/-- A text that leaves a group open is no pattern. -/
theorem pattern?_eq_none (hgroups : r.groups ≠ []) : r.pattern? = none := if_neg hgroups

/-- The group that a pattern is set in to match at the start of a line. -/
def anchorGroup : OpenGroup := ⟨.plain [], [.anchor .lineStart], [], false⟩

theorem advances_anchorGroup (text : List Char) :
    PatternReader.Advances {} ('^' :: '(' :: '?' :: ':' :: text)
      (({} : PatternReader).within [anchorGroup]) text := by
  have hanchor : PatternReader.Advances {} ('^' :: '(' :: '?' :: ':' :: text)
      (({} : PatternReader).push (.anchor .lineStart)) ('(' :: '?' :: ':' :: text) :=
    advances_of_readPiece rfl rfl le_rfl
  have hgroup : (({} : PatternReader).push (.anchor .lineStart)).Advances
      ('(' :: '?' :: ':' :: text) (({} : PatternReader).within [anchorGroup]) text :=
    advances_of_readPiece rfl rfl (by simp; omega)
  exact hanchor.trans hgroup

theorem pattern?_closeGroup?_anchorGroup (r : PatternReader) :
    (r.within [anchorGroup]).closeGroup?.bind pattern? =
      r.pattern?.bind fun read => read.atLineStart.shallow? := by
  by_cases hgroups : r.groups = []
  · rw [pattern?, if_pos hgroups, Pattern.shallow?_atLineStart, closeGroup?]
    simp only [within, hgroups, List.nil_append]
    rfl
  · rw [closeGroup?_within hgroups, pattern?_eq_none hgroups]
    cases r.closeGroup? with
    | none => rfl
    | some closed => exact pattern?_eq_none (by simp [within])

/-- With something behind it, a text is read within the group as it is alone. -/
theorem exists_readPieces_anchorGroup (text : List Char) :
    ∃ fuel, text.length < fuel ∧ Pattern.ofText? ('^' :: '(' :: '?' :: ':' :: (text ++ [')'])) =
      (readPieces (({} : PatternReader).within [anchorGroup]) fuel (text ++ [')'])).bind
        pattern? := by
  obtain ⟨fuel, hfuel, hread⟩ := advances_anchorGroup (text ++ [')']) _ le_rfl
  rw [List.length_append, List.length_singleton] at hfuel
  exact ⟨fuel, hfuel, by rw [ofText?_eq_of_length_le le_rfl, hread]⟩

end PatternReader

namespace Pattern

theorem closesEarly_eq_false {text : List Char} {read : Pattern}
    (hread : ofText? text = some read) : closesEarly text = false := by
  rw [PatternReader.ofText?_eq_of_length_le le_rfl] at hread
  obtain ⟨r, hr, -⟩ := Option.bind_eq_some_iff.1 hread
  exact PatternReader.closesEarly_of_readPieces hr

/-- A pattern in a group at the start of a line is read as it is alone, unless a comment at its end
takes the closing parenthesis. -/
theorem ofText?_anchored_of_eq_some {text : List Char} {read : Pattern}
    (hread : ofText? text = some read) :
    ofText? ('^' :: '(' :: '?' :: ':' :: (text ++ [')'])) =
      if (ofText? (text ++ [')'])).isSome then none else read.atLineStart.shallow? := by
  obtain ⟨fuel, hfuel, hanchored⟩ := PatternReader.exists_readPieces_anchorGroup text
  have hcloses := PatternReader.closes_readPieces (closesEarly_eq_false hread) le_rfl hfuel
  rw [PatternReader.ofText?_eq_of_length_le le_rfl] at hread
  obtain ⟨r, hr, hpattern⟩ := Option.bind_eq_some_iff.1 hread
  have hgroups : r.groups = [] := by
    by_contra hopen
    rw [PatternReader.pattern?_eq_none hopen] at hpattern
    cases hpattern
  have hwithin : r.within [] = r := by
    simp [PatternReader.within]
  have hlength : (text ++ [')']).length ≤ fuel := by
    simp
    omega
  rw [hanchored, PatternReader.ofText?_eq_of_length_le hlength]
  rw [hr] at hcloses
  cases hcloses with
  | closed r h =>
    rw [h, show readPieces {} fuel (text ++ [')']) = _ from h [], hwithin,
      PatternReader.pattern?_closeGroup?_anchorGroup, hpattern, PatternReader.closeGroup?, hgroups]
    rfl
  | comment r h =>
    rw [h, show readPieces {} fuel (text ++ [')']) = _ from h [], hwithin, Option.bind_some,
      Option.bind_some, hpattern]
    exact PatternReader.pattern?_eq_none (by simp [PatternReader.within])

/-- What is no pattern is none in a group either, unless it closes the group. -/
theorem ofText?_anchored_of_eq_none {text : List Char} (hread : ofText? text = none)
    (hearly : closesEarly text = false) :
    ofText? ('^' :: '(' :: '?' :: ':' :: (text ++ [')'])) = none := by
  obtain ⟨fuel, hfuel, hanchored⟩ := PatternReader.exists_readPieces_anchorGroup text
  rw [hanchored]
  rw [PatternReader.ofText?_eq_of_length_le le_rfl] at hread
  have hcloses := PatternReader.closes_readPieces hearly le_rfl hfuel
  generalize readPieces {} text.length text = own at hread hcloses
  cases hcloses with
  | closed r h =>
    rw [h, PatternReader.pattern?_closeGroup?_anchorGroup, show r.pattern? = none from hread]
    rfl
  | comment r h =>
    rw [h]
    exact PatternReader.pattern?_eq_none (by simp [PatternReader.within])
  | broken h =>
    refine Option.bind_eq_none_iff.2 fun r hr => PatternReader.pattern?_eq_none fun hgroups => ?_
    have hsuffix := h _ _ hr
    rw [hgroups] at hsuffix
    exact absurd (List.suffix_nil.1 hsuffix) (List.cons_ne_nil _ _)

end Pattern

end ClipSplice.Regex
