import ClipSplice.Proofs.MatchPlace
import ClipSplice.Proofs.PatternLimits
import ClipSplice.Proofs.WrappedPattern
import ClipSplice.Rule.Condition

/-!
# Regular expressions at the start of a name

The pattern of a condition is written between the parentheses of a larger one that matches at the
start of a text only. When its own reading closes none of these parentheses
(`Pattern.closesEarly`), the larger pattern is read exactly if the pattern is, leaves a parenthesis
behind it to close the group and leaves room for the anchor (`AnchoredRegex.new?_looksFor`). It then
finds in a name what the pattern finds there alone, if that begins at the start.
-/

namespace ClipSplice.Regex

/-! ## Compiling -/

/-- A regular expression is a pattern that was read, whose tree has a meaning and for whose program
there is room. -/
theorem ofPattern?_eq_some_iff {pattern : String} {caseInsensitive : Bool} {regex : Regex} :
    ofPattern? pattern caseInsensitive = some regex ↔
      ∃ read a after, Pattern.ofText? pattern.toList = some read ∧
        read.tree.toNode? { caseInsensitive } = some (a, after) ∧
        ((a.capture 0).size + .frame).fits = true ∧
        regex = ⟨pattern, (a.node.numbered 0).1.whole, read.captures, read.names⟩ := by
  rw [ofPattern?]
  constructor
  · intro h
    obtain ⟨read, hread, h⟩ := Option.bind_eq_some_iff.1 h
    obtain ⟨⟨measured, flags⟩, hnode, h⟩ := Option.bind_eq_some_iff.1 h
    obtain ⟨⟨a, after⟩, ha, heq⟩ := Option.bind_eq_some_iff.1 hnode
    cases heq
    dsimp only at h
    split at h
    · cases h
    · rename_i hfits
      cases h
      exact ⟨read, a, after, hread, ha, by simpa using hfits, rfl⟩
  · rintro ⟨read, a, after, hread, ha, hfits, rfl⟩
    simp [hread, Tree.toNode?_capture ha, hfits]
    rfl

/-- Whether there is room for an anchor in front of a pattern: for two more levels of nesting and
for one more place in its program. -/
def leavesRoom (pattern : String) (caseInsensitive : Bool) : Bool :=
  (Pattern.ofText? pattern.toList).any fun read =>
    read.tree.depth + 2 ≤ depthLimit &&
      (read.tree.toNode? { caseInsensitive }).any fun (a, _) =>
        ((a.capture 0).size + .place + .frame).fits

theorem leavesRoom_iff {pattern : String} {caseInsensitive : Bool} {read : Pattern} {a : Measured}
    {after : Flags} (hread : Pattern.ofText? pattern.toList = some read)
    (ha : read.tree.toNode? { caseInsensitive } = some (a, after)) :
    leavesRoom pattern caseInsensitive = true ↔ read.tree.depth + 2 ≤ depthLimit ∧
      ((a.capture 0).size + .place + .frame).fits = true := by
  simp [leavesRoom, hread, ha]

/-- A node at the start of a text. -/
def Node.atStart (a : Node) : Node := .concat (.look .textStart) a

/-- A node with its measures at the start of a text. -/
def Measured.atStart (a : Measured) : Measured := (look .textStart).concat a

theorem size_capture_atStart (a : Measured) :
    (a.atStart.capture 0).size = (a.capture 0).size + .place :=
  congrArg₂ Size.mk ((Nat.add_assoc _ _ _).trans (Nat.add_comm _ _))
    ((Nat.add_assoc _ _ _).trans (Nat.add_comm _ _))

/-- There is room for a pattern without the anchor where there is room with it. -/
theorem fits_of_fits_place {a b : Size} (h : (a + .place + b).fits = true) :
    (a + b).fits = true := by
  have hwithin : (a + .place + b).Within Size.limit := by
    simpa [Size.fits, Size.Within] using h
  have hforward : a.forward + Size.place.forward + b.forward ≤ Size.limit := hwithin.1
  have hbackward : a.backward + Size.place.backward + b.backward ≤ Size.limit := hwithin.2
  refine Size.Within.fits ⟨?_, ?_⟩ le_rfl
  · change a.forward + b.forward ≤ _
    omega
  · change a.backward + b.backward ≤ _
    omega

theorem toNode?_atLineStart {read : Pattern} {caseInsensitive : Bool} {measured : Measured}
    {flags : Flags} :
    read.atLineStart.tree.toNode? { caseInsensitive } = some (measured, flags) ↔
      ∃ a after, read.tree.toNode? { caseInsensitive } = some (a, after) ∧
        measured = a.atStart ∧ flags = { caseInsensitive } := by
  have hinner : read.atLineStart.tree.toNode? { caseInsensitive } =
      (read.tree.toNode? { caseInsensitive }).map fun (a, _) =>
        (a.atStart, { caseInsensitive }) := by
    -- no flag is changed for the group
    have hflags : ({ caseInsensitive } : Flags).change [] = { caseInsensitive } := rfl
    simp only [Pattern.atLineStart, Tree.toNode?, Option.bind_eq_bind, Option.bind_some, hflags]
    cases read.tree.toNode? { caseInsensitive } <;> rfl
  rw [hinner]
  constructor
  · intro h
    obtain ⟨⟨a, after⟩, ha, heq⟩ := Option.map_eq_some_iff.1 h
    cases heq
    exact ⟨a, after, ha, rfl, rfl⟩
  · rintro ⟨a, after, ha, rfl, rfl⟩
    rw [ha]
    rfl

theorem toList_anchoredPattern (pattern : String) :
    (anchoredPattern pattern).toList = '^' :: '(' :: '?' :: ':' :: (pattern.toList ++ [')']) := by
  simp [anchoredPattern]

theorem Pattern.shallow?_eq_some_iff {read read' : Pattern} :
    read.shallow? = some read' ↔ read.tree.depth ≤ depthLimit ∧ read' = read := by
  rw [Pattern.shallow?]
  split
  · rename_i hdeep
    exact ⟨fun h => absurd h (Option.some_ne_none _).symm, fun h => absurd h.1 (Nat.not_le.2 hdeep)⟩
  · rename_i hshallow
    exact ⟨fun h => ⟨Nat.not_lt.1 hshallow, (Option.some.inj h).symm⟩,
      fun h => congrArg some h.2.symm⟩

/-- The expression of a pattern at the start of a text, when its reading closes no group that is not
there: the pattern is read as it is alone, a parenthesis behind it closes a group, and there is room
for the anchor. -/
theorem ofPattern?_anchoredPattern_eq_some_iff {pattern : String} {caseInsensitive : Bool}
    {regex : Regex} (hearly : Pattern.closesEarly pattern.toList = false) :
    ofPattern? (anchoredPattern pattern) caseInsensitive = some regex ↔
      ∃ read a after, Pattern.ofText? pattern.toList = some read ∧
        read.tree.toNode? { caseInsensitive } = some (a, after) ∧
        Pattern.ofText? (pattern.toList ++ [')']) = none ∧
        leavesRoom pattern caseInsensitive = true ∧
        regex = ⟨anchoredPattern pattern, (a.node.numbered 0).1.atStart.whole, read.captures,
          read.names⟩ := by
  rw [ofPattern?_eq_some_iff, toList_anchoredPattern]
  constructor
  · rintro ⟨anchored, b, flags, hanchored, hb, hfits, rfl⟩
    cases hread : Pattern.ofText? pattern.toList with
    | none =>
      rw [Pattern.ofText?_anchored_of_eq_none hread hearly] at hanchored
      cases hanchored
    | some read =>
      rw [Pattern.ofText?_anchored_of_eq_some hread] at hanchored
      split at hanchored
      · cases hanchored
      · rename_i hcomment
        obtain ⟨hdepth, rfl⟩ := Pattern.shallow?_eq_some_iff.1 hanchored
        obtain ⟨a, after, ha, rfl, rfl⟩ := toNode?_atLineStart.1 hb
        rw [Pattern.depth_atLineStart] at hdepth
        rw [size_capture_atStart] at hfits
        exact ⟨read, a, after, rfl, ha, by simpa using hcomment,
          (leavesRoom_iff hread ha).2 ⟨hdepth, hfits⟩, rfl⟩
  · rintro ⟨read, a, after, hread, ha, hcomment, hroom, rfl⟩
    obtain ⟨hdepth, hfits⟩ := (leavesRoom_iff hread ha).1 hroom
    refine ⟨read.atLineStart, a.atStart, _, ?_, toNode?_atLineStart.2 ⟨a, after, ha, rfl, rfl⟩, ?_,
      rfl⟩
    · rw [Pattern.ofText?_anchored_of_eq_some hread, hcomment]
      exact Pattern.shallow?_eq_some_iff.2 ⟨by rwa [Pattern.depth_atLineStart], rfl⟩
    · rwa [size_capture_atStart]

/-! ## Searching -/

section

variable {a : Node} {blank : Marks} {place : Nat} {text : List Char}

theorem routes_atStart (a : Node) (after : Option Char) :
    routes none after [] [a.atStart.whole] = routes none after [] [a.whole] := rfl

theorem routes_atStart_behind (a : Node) (c : Char) (after : Option Char) :
    routes (some c) after [] [a.atStart.whole] = [] := rfl

/-- Behind a character nothing is at the start of the text. -/
theorem search_atStart_behind (c : Char) :
    search a.atStart.whole blank (some c) place text = none := by
  have hspread (c : Char) (after : Option Char) (place : Nat) :
      Thread.spread (some c) after place [a.atStart.whole] blank = [] := by
    rw [Thread.spread, routes_atStart_behind]
    rfl
  induction text generalizing c place with
  | nil => rw [search, hspread, Thread.run_nil]
  | cons d rest ih =>
    rw [search, hspread, Thread.run_nil]
    exact ih d

/-- A search at the start of a text ends with the first position. -/
theorem search_atStart : search a.atStart.whole blank none 0 text =
    Thread.run none (Thread.spread none text.head? 0 [a.whole] blank) 0 text := by
  have hspread (after : Option Char) : Thread.spread none after 0 [a.atStart.whole] blank =
      Thread.spread none after 0 [a.whole] blank := by
    rw [Thread.spread, Thread.spread, routes_atStart]
  cases text with
  | nil => rw [search, hspread]; rfl
  | cons c rest =>
    rw [search, hspread, search_atStart_behind, List.head?_cons]
    cases Thread.run none (Thread.spread none (some c) 0 [a.whole] blank) 0 (c :: rest) <;> rfl

theorem search_of_run {node : Node} {before : Option Char} {marks : Marks}
    (hrun : Thread.run none (Thread.spread before text.head? place [node] blank) place text =
      some marks) : search node blank before place text = some marks := by
  cases text with
  | nil => exact hrun
  | cons c rest =>
    rw [List.head?_cons] at hrun
    rw [search, hrun]

end

/-- Whether a match begins at the start of the text. -/
def Match.atStart (m : Match) : Bool := m.marks[0]? = some (some 0)

section

variable {pattern text : String} {caseInsensitive : Bool} {own anchored : Regex} {a : Node}

theorem beginsAt_nil_of_atStart {m : Match} (hown : ofPattern? pattern caseInsensitive = some own)
    (hfind : own.find? text = some m) (hstart : m.atStart = true) :
    own.BeginsAt [] text.toList := by
  obtain ⟨front, taken, back, htext, hlies⟩ := exists_lies hown hfind
  have hfront : front.length = 0 := by
    simpa [Match.atStart, hlies.start] using hstart
  obtain rfl := List.length_eq_zero_iff.1 hfront
  obtain ⟨q, -, htakes⟩ := hlies.takes
  exact ⟨q, by simpa [htext] using htakes⟩

theorem isSome_find?_atStart_iff (hprogram : own.program = a.whole)
    (hanchored : anchored.program = a.atStart.whole) :
    (anchored.find? text).isSome = true ↔ own.BeginsAt [] text.toList := by
  rw [find?, Option.isSome_map, hanchored, search_atStart, isSome_run_spread_iff, BeginsAt,
    hprogram]
  rfl

/-- What is found at the start of a text is what is found in the text, if it begins there. -/
theorem find?_atStart (hown : ofPattern? pattern caseInsensitive = some own)
    (hprogram : own.program = a.whole) (hanchored : anchored.program = a.atStart.whole)
    (hgroups : anchored.groups = own.groups) (hnames : anchored.names = own.names) :
    anchored.find? text = (own.find? text).filter Match.atStart := by
  obtain ⟨b, hb, hspares⟩ := exists_whole_of_ofPattern? hown
  obtain rfl : a = b := by
    rw [hprogram] at hb
    cases hb
    rfl
  cases hfind : anchored.find? text with
  | some m =>
    rw [find?, hanchored, search_atStart, hgroups, hnames] at hfind
    obtain ⟨marks, hrun, rfl⟩ := Option.map_eq_some_iff.1 hfind
    obtain ⟨_, _, _, _, hstart, _⟩ := marksMatch_of_run_spread hspares (by simp) hrun
    rw [find?, hprogram, search_of_run hrun]
    exact (Option.filter_some_pos (by simpa [Match.atStart] using hstart)).symm
  | none =>
    have hbegins : ¬ own.BeginsAt [] text.toList := by
      rw [← isSome_find?_atStart_iff hprogram hanchored, hfind]
      exact Bool.false_ne_true
    refine (Option.filter_eq_none_iff.2 fun m hm hstart => ?_).symm
    exact hbegins (beginsAt_nil_of_atStart hown hm hstart)

end

end ClipSplice.Regex

namespace ClipSplice.AnchoredRegex

open Regex

variable {pattern : String} {flags : RegexFlags} {anchored : AnchoredRegex} {own : Regex}

theorem isSome_new? : (new? pattern flags).isSome =
    (ofPattern? (anchoredPattern pattern) flags.ignoreCase).isSome := by
  unfold new?
  split
  · rename_i hregex
    simp [hregex]
  · rename_i hregex
    simp [hregex]

theorem ofPattern?_of_new? (h : new? pattern flags = some anchored) :
    ofPattern? (anchoredPattern pattern) flags.ignoreCase = some anchored.regex := by
  unfold new? at h
  split at h
  · rename_i hregex
    cases h
    exact hregex
  · cases h

/-- A condition looks at the start of a name for what a pattern finds. -/
structure LooksFor (anchored : AnchoredRegex) (own : Regex) : Prop where
  groups : anchored.regex.groups = own.groups
  names : anchored.regex.names = own.names
  holds : ∀ name now,
    (Condition.regex anchored).holds name now = true ↔ own.BeginsAt [] name.toList
  check : ∀ name now, (Condition.regex anchored).check name now =
    ((own.find? name).filter Match.atStart).map .captured

theorem looksFor_of_new? (hown : ofPattern? pattern flags.ignoreCase = some own)
    (hnew : new? pattern flags = some anchored) : anchored.LooksFor own := by
  obtain ⟨read, a, after, hread, ha, -, heq⟩ := ofPattern?_eq_some_iff.1 hown
  obtain ⟨read', a', after', hread', ha', -, -, hregex⟩ :=
    (ofPattern?_anchoredPattern_eq_some_iff (Pattern.closesEarly_eq_false hread)).1
      (ofPattern?_of_new? hnew)
  cases hread.symm.trans hread'
  cases ha.symm.trans ha'
  have hprogram : own.program = (a.node.numbered 0).1.whole := by rw [heq]
  have hanchored : anchored.regex.program = (a.node.numbered 0).1.atStart.whole := by rw [hregex]
  have hgroups : anchored.regex.groups = own.groups := by rw [hregex, heq]
  have hnames : anchored.regex.names = own.names := by rw [hregex, heq]
  refine ⟨hgroups, hnames, fun name now => ?_, fun name now => ?_⟩
  · rw [Condition.holds, Condition.check, Option.isSome_map,
      isSome_find?_atStart_iff hprogram hanchored]
  · rw [Condition.check, find?_atStart hown hprogram hanchored hgroups hnames]

/-- An expression can be anchored if its pattern means something and leaves room for the anchor,
and if no comment at the end of the pattern takes a parenthesis behind it. Then the condition holds
for the names at whose start the pattern matches, and gives what the pattern finds there. What is
no pattern cannot be anchored, if it closes no group that is not there. -/
theorem new?_looksFor (pattern : String) (flags : RegexFlags) :
    (∀ own, ofPattern? pattern flags.ignoreCase = some own →
      ((new? pattern flags).isSome = true ↔
        Pattern.ofText? (pattern.toList ++ [')']) = none ∧
          leavesRoom pattern flags.ignoreCase = true) ∧
      ∀ anchored, new? pattern flags = some anchored → anchored.LooksFor own) ∧
    (ofPattern? pattern flags.ignoreCase = none → Pattern.closesEarly pattern.toList = false →
      new? pattern flags = none) := by
  constructor
  · intro own hown
    refine ⟨?_, fun anchored hnew => looksFor_of_new? hown hnew⟩
    obtain ⟨read, a, after, hread, ha, -, -⟩ := ofPattern?_eq_some_iff.1 hown
    rw [isSome_new?, Option.isSome_iff_exists]
    simp only [ofPattern?_anchoredPattern_eq_some_iff (Pattern.closesEarly_eq_false hread)]
    constructor
    · rintro ⟨_, _, _, _, -, -, hcomment, hroom, -⟩
      exact ⟨hcomment, hroom⟩
    · rintro ⟨hcomment, hroom⟩
      exact ⟨_, read, a, after, hread, ha, hcomment, hroom, rfl⟩
  · intro hown hearly
    by_contra hnew
    obtain ⟨anchored, hnew⟩ := Option.ne_none_iff_exists'.1 hnew
    obtain ⟨read, a, after, hread, ha, -, hroom, -⟩ :=
      (ofPattern?_anchoredPattern_eq_some_iff hearly).1 (ofPattern?_of_new? hnew)
    have hfits := fits_of_fits_place ((leavesRoom_iff hread ha).1 hroom).2
    rw [ofPattern?_eq_some_iff.2 ⟨read, a, after, hread, ha, hfits, rfl⟩] at hown
    cases hown

/-- Alternatives stay behind the anchor together, and a comment that ends with its line takes no
parenthesis. -/
theorem new?_looksFor_alternatives :
    ∃ own anchored, ofPattern? "(?x)(a) # c)\n|b" = some own ∧
      new? "(?x)(a) # c)\n|b" .none = some anchored ∧ anchored.LooksFor own ∧
      (Condition.regex anchored).holds "bc" .first = true ∧
      (Condition.regex anchored).holds "ca" .first = false := by
  have hown : (ofPattern? "(?x)(a) # c)\n|b").isSome = true := by decide +kernel
  obtain ⟨own, hown⟩ := Option.isSome_iff_exists.1 hown
  obtain ⟨hnew, hlooks⟩ := (new?_looksFor "(?x)(a) # c)\n|b" .none).1 own hown
  have hroom : (new? "(?x)(a) # c)\n|b" .none).isSome = true := hnew.2 (by decide +kernel)
  obtain ⟨anchored, hanchored⟩ := Option.isSome_iff_exists.1 hroom
  have hholds : (new? "(?x)(a) # c)\n|b" .none).map (fun r =>
      ((Condition.regex r).holds "bc" .first, (Condition.regex r).holds "ca" .first)) =
        some (true, false) := by
    simp only [Condition.holds, Condition.check]
    decide +kernel
  rw [hanchored] at hholds
  obtain ⟨hb, hc⟩ := Prod.mk.inj (Option.some.inj hholds)
  exact ⟨own, anchored, hown, hanchored, hlooks anchored hanchored, hb, hc⟩

/-- A parenthesis without a group in the pattern closes the one around it: what is no pattern alone
is accepted, and matches later than at the start. A comment at the end of a pattern takes the
parenthesis behind it: what is a pattern alone is refused. -/
theorem new?_unbalanced :
    (ofPattern? "a)|(?:b" = none ∧
      (new? "a)|(?:b" .none).map (fun r => (r.regex.find? "xb").map fun m => m.marks[0]?) =
        some (some (some (some 1)))) ∧
    ((ofPattern? "(?x)b#c").isSome = true ∧ (new? "(?x)b#c" .none).isSome = false) := by
  decide +kernel

end ClipSplice.AnchoredRegex
