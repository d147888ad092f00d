import ClipSplice.Proofs.FaultPlace

/-!
# The line of a fault

A fault at a byte offset is counted to the line of the last boundary between characters that is not
behind the offset, and what it shows is a piece of that line (`Fault.atOffset_isOnLine`).
-/

namespace ClipSplice

namespace Text

/-! ## Boundaries and lines -/

/-- A byte offset of a text that is not inside a character. -/
def IsBoundary (text : List Char) (offset : Nat) : Prop :=
  ∃ front back, text = front ++ back ∧ byteSize front = offset

/-- A text is cut at the last boundary that is not behind an offset. -/
theorem isGreatest_byteSize_splitAtByte (offset : Nat) (text : List Char) :
    IsGreatest {n | IsBoundary text n ∧ n ≤ offset} (byteSize (splitAtByte offset text).1) := by
  obtain ⟨hle, hnext⟩ := byteSize_splitAtByte offset text
  have htext := splitAtByte_append offset text
  refine ⟨⟨⟨_, _, htext.symm, rfl⟩, hle⟩, ?_⟩
  rintro n ⟨⟨front, back, hsplit, rfl⟩, hfront⟩
  rw [← htext] at hsplit
  rcases List.append_eq_append_iff.1 hsplit with ⟨more, rfl, hafter⟩ | ⟨more, hbefore, -⟩
  · -- more than the cut part takes the character behind it, too
    cases more with
    | nil => rw [List.append_nil]
    | cons c more =>
      have hc := hnext c (by rw [hafter]; rfl)
      rw [byteSize_append, byteSize] at hfront
      omega
  · rw [hbefore, byteSize_append]
    exact Nat.le_add_right _ _

theorem splitAtByte_byteSize (before after : List Char) :
    splitAtByte (byteSize before) (before ++ after) = (before, after) := by
  induction before with
  | nil =>
    cases after with
    | nil => rfl
    | cons c after =>
      rw [byteSize, List.nil_append, splitAtByte, if_neg (Nat.not_le.2 c.utf8Size_pos)]
  | cons c before ih =>
    rw [byteSize, List.cons_append, splitAtByte, if_pos (Nat.le_add_right _ _),
      Nat.add_sub_cancel_left, ih]

/-- The line of a text with a certain number, counted from 1, without its line feed. -/
def IsLine (text : List Char) (number : Nat) (line : List Char) : Prop :=
  ∃ front back, text = front ++ line ++ back ∧ '\n' ∉ line ∧
    (∀ c ∈ front.getLast?, c = '\n') ∧ (∀ c ∈ back.head?, c = '\n') ∧
    number = front.count '\n' + 1

/-- The line on which a text is cut. -/
def cutLine (before after : List Char) : List Char :=
  before.rtakeWhile (· ≠ '\n') ++ after.takeWhile (· ≠ '\n')

theorem isLine_cutLine (before after : List Char) :
    IsLine (before ++ after) (before.count '\n' + 1) (cutLine before after) := by
  have hbefore : before.rdropWhile (· ≠ '\n') ++ before.rtakeWhile (· ≠ '\n') = before :=
    List.rdropWhile_append_rtakeWhile
  have hafter : after.takeWhile (· ≠ '\n') ++ after.dropWhile (· ≠ '\n') = after :=
    List.takeWhile_append_dropWhile
  have hlast : '\n' ∉ before.rtakeWhile (· ≠ '\n') := fun hmem => by
    simpa using List.mem_rtakeWhile_imp hmem
  have hfirst : '\n' ∉ after.takeWhile (· ≠ '\n') := fun hmem => by
    simpa using List.mem_takeWhile_imp hmem
  refine ⟨before.rdropWhile (· ≠ '\n'), after.dropWhile (· ≠ '\n'), ?_, ?_, ?_, ?_, ?_⟩
  · conv_lhs => rw [← hbefore, ← hafter]
    simp only [cutLine, List.append_assoc]
  · exact fun hmem => (List.mem_append.1 hmem).elim hlast hfirst
  · intro c hc
    have hne := List.ne_nil_of_mem (List.mem_of_getLast? hc)
    obtain rfl := Option.some.inj ((List.getLast?_eq_some_getLast hne).symm.trans hc)
    simpa using List.rdropWhile_last_not _ _ hne
  · intro c hc
    have hne := List.ne_nil_of_mem (List.mem_of_head? hc)
    obtain rfl := Option.some.inj ((List.head?_eq_some_head hne).symm.trans hc)
    simpa using List.head_dropWhile_not _ hne
  · conv_lhs => rw [← hbefore]
    rw [List.count_append, List.count_eq_zero_of_not_mem hlast, Nat.add_zero]

/-! ## Trimmed texts -/

theorem trim_infix (text : List Char) : trim text <:+: text := by
  have hend : trim text <+: trimStart text := by
    obtain ⟨front, hfront⟩ := List.dropWhile_suffix isBlank (l := (trimStart text).reverse)
    refine ⟨front.reverse, ?_⟩
    rw [trim, trimEnd, trimStart, ← List.reverse_append, hfront, List.reverse_reverse]
  exact hend.isInfix.trans (List.dropWhile_suffix isBlank).isInfix

theorem firstLine_prefix (text : List Char) : firstLine text <+: text.takeWhile (· ≠ '\n') := by
  unfold firstLine
  rw [List.span_eq_takeWhile_dropWhile]
  split
  · rename_i line hsplit
    rw [(Prod.mk.inj hsplit).1]
  · rename_i line c rest hsplit
    rw [(Prod.mk.inj hsplit).1]
    split
    · exact List.dropLast_prefix line
    · exact List.prefix_rfl

end Text

/-! ## Faults -/

namespace RuleText.Fault

/-- An excerpt says that there is nothing to show, or it is a short piece of a line. -/
def IsExcerptOf (excerpt line : List Char) : Prop :=
  excerpt = "end of input".toList ∨
    excerpt ≠ [] ∧ excerpt.length ≤ excerptLimit ∧ excerpt <:+: line

theorem isExcerptOf_excerptOf (before after : List Char) :
    IsExcerptOf (excerptOf before after) (Text.cutLine before after) := by
  have hshort : ∀ {excerpt line : List Char}, excerpt <:+: line → excerpt.isEmpty = false →
      IsExcerptOf (excerpt.take excerptLimit) line := by
    intro excerpt line hinfix hne
    refine .inr ⟨?_, List.length_take_le _ _, (List.take_prefix _ _).isInfix.trans hinfix⟩
    simp [excerptLimit, List.isEmpty_eq_false_iff.1 hne]
  have hbefore : Text.trim (before.rtakeWhile (· ≠ '\n')) <:+: Text.cutLine before after :=
    (Text.trim_infix _).trans (List.prefix_append _ _).isInfix
  have hafter : Text.trim (Text.firstLine after) <:+: Text.cutLine before after :=
    ((Text.trim_infix _).trans (Text.firstLine_prefix after).isInfix).trans
      (List.suffix_append _ _).isInfix
  unfold excerptOf
  dsimp only
  split
  · -- the words, or what stands before the place on its line
    split
    · exact .inl rfl
    · exact hshort hbefore (Bool.eq_false_iff.2 ‹_›)
  · exact hshort hafter (Bool.eq_false_iff.2 ‹_›)

/-- A fault at a byte offset is on the line of the last boundary that is not behind the offset, and
shows a piece of that line. -/
theorem atOffset_isOnLine (source : String) (offset : Nat) (cause : Cause) :
    ∃ before after line, source.toList = before ++ after ∧
      IsGreatest {n | Text.IsBoundary source.toList n ∧ n ≤ offset} (Text.byteSize before) ∧
      (atOffset source offset cause).line = before.count '\n' + 1 ∧
      Text.IsLine source.toList (atOffset source offset cause).line line ∧
      IsExcerptOf (atOffset source offset cause).excerpt.toList line := by
  have htext := Text.splitAtByte_append offset source.toList
  have hgreatest := Text.isGreatest_byteSize_splitAtByte offset source.toList
  have hfault : atOffset source offset cause =
      ⟨(Text.splitAtByte offset source.toList).1.count '\n' + 1,
        String.ofList (excerptOf (Text.splitAtByte offset source.toList).1
          (Text.splitAtByte offset source.toList).2), cause⟩ := rfl
  rw [hfault]
  generalize (Text.splitAtByte offset source.toList).1 = before at *
  generalize (Text.splitAtByte offset source.toList).2 = after at *
  refine ⟨before, after, Text.cutLine before after, htext.symm, hgreatest, rfl, ?_, ?_⟩
  · rw [← htext]
    exact Text.isLine_cutLine before after
  · rw [String.toList_ofList]
    exact isExcerptOf_excerptOf before after

end RuleText.Fault

end ClipSplice
