import ClipSplice.Proofs.ReadSteps
import ClipSplice.Proofs.ReadTrees

/-!
# What the readers of words leave

The readers of words, patterns, dates and clip lists take a slice of the text and leave the rest of
it.
-/

namespace ClipSplice.RuleText

open Reader

namespace Reader.Leaves

variable {α : Type} {reader : Reader α}

theorem must (h : reader.Leaves) : (Reader.must reader).Leaves :=
  fun text value rest hread => h text value rest (must_eq_done_iff.1 hread)

theorem labelled (label : Label) (h : reader.Leaves) : (Reader.labelled label reader).Leaves :=
  fun text value rest hread => h text value rest (labelled_eq_done_iff.1 hread)

theorem many (h : reader.Leaves) : (Reader.many reader).Leaves := by
  intro text values rest hread
  have hall := readsAll_of_many hread
  clear hread
  induction hall with
  | nil => exact List.suffix_rfl
  | cons hfirst _ ih => exact ih.trans (h _ _ _ hfirst)

theorem separated {separator : Reader Unit} (hseparator : separator.Leaves) (h : reader.Leaves) :
    (Reader.separated separator reader).Leaves :=
  h.bind fun _ => (many (hseparator.bind fun _ => h)).bind fun _ => pure _

theorem exactly (start : List Char) : (Reader.exactly start).Leaves := by
  intro text value rest hread
  rw [exactly_eq_done_iff.1 hread]
  exact List.suffix_append start rest

theorem wordOf (test : Char → Bool) : (Reader.wordOf test).Leaves := by
  intro text word rest hread
  unfold Reader.wordOf at hread
  split at hread
  · cases hread
  · cases hread
    exact List.dropWhile_suffix test

end Reader.Leaves

/-! ## Words -/

theorem skipSpace_suffix (inComment : Bool) (text : List Char) :
    skipSpace inComment text <:+ text := by
  induction text generalizing inComment with
  | nil => exact List.suffix_rfl
  | cons c rest ih =>
    rw [skipSpace]
    split
    · exact (ih _).trans (List.suffix_cons c rest)
    · split
      · exact (ih _).trans (List.suffix_cons c rest)
      · split
        · exact (ih _).trans (List.suffix_cons c rest)
        · exact List.suffix_rfl

theorem leaves_space : space.Leaves := by
  intro text value rest hread
  cases hread
  exact skipSpace_suffix false text

theorem leaves_bareWord : bareWord.Leaves := .bind (.wordOf isBare) fun _ => .pure _

theorem leaves_keyword (word : String) : (keyword word).Leaves := by
  intro text value rest hread
  unfold keyword at hread
  split at hread
  · rename_i found behind hword
    split at hread
    · cases hread
      exact leaves_bareWord _ _ _ hword
    · cases hread
  · cases hread

theorem leaves_quotedRest (quote : Char) : Reader.Leaves (quotedRest quote) := by
  intro text found rest hread
  fun_induction quotedRest quote text generalizing found with
  | case1 => cases hread
  | case2 =>
    cases hread
    exact List.nil_suffix
  | case3 => cases hread
  | case4 d rest' =>
    cases hread
    exact List.suffix_cons _ _
  | case5 c d rest' hc hslash ih =>
    obtain ⟨more, hmore⟩ := done_of_after hread
    exact ((ih _ hmore).trans (List.suffix_cons _ _)).trans (List.suffix_cons _ _)
  | case6 c d rest' hc hslash ih =>
    obtain ⟨more, hmore⟩ := done_of_after hread
    exact (ih _ hmore).trans (List.suffix_cons _ _)
where
  /-- A character in front changes nothing about the rest. -/
  done_of_after {c : Char} {reply : Reply (List Char)} {found rest : List Char}
      (h : quotedRest.after c reply = .done found rest) : ∃ more, reply = .done more rest := by
    cases reply with
    | done more behind =>
      cases h
      exact ⟨more, rfl⟩
    | miss labels behind => cases h
    | stop labels behind => cases h

theorem leaves_quoted : quoted.Leaves :=
  .bind (.charWith _) fun quote => .bind (leaves_quotedRest quote) fun _ => .pure _

theorem leaves_string : string.Leaves := by
  refine .orElse leaves_quoted ?_
  intro text value rest hread
  unfold plainWord at hread
  split at hread
  · rename_i found behind hword
    split at hread
    · cases hread
    · cases hread
      exact leaves_bareWord _ _ _ hword
  · cases hread

/-! ## Patterns, dates and clip lists -/

theorem barePattern_suffix (text : List Char) : (barePattern text).2 <:+ text := by
  fun_induction barePattern text with
  | case1 => exact List.suffix_rfl
  | case2 => exact List.suffix_rfl
  | case3 => exact List.nil_suffix
  | case4 c d rest h pattern after hread ih =>
    rw [hread] at ih
    exact (ih.trans (List.suffix_cons _ _)).trans (List.suffix_cons _ _)
  | case5 => exact List.suffix_rfl
  | case6 c d rest h hends pattern after hread ih =>
    rw [hread] at ih
    exact ih.trans (List.suffix_cons _ _)

theorem leaves_bareRegex : bareRegex.Leaves := by
  intro text value rest hread
  have hsuffix := barePattern_suffix text
  unfold bareRegex at hread
  split at hread
  · cases hread
  · rename_i pattern behind _ hpattern
    cases hread
    rwa [hpattern] at hsuffix

theorem leaves_dateLiteral : dateLiteral.Leaves := by
  intro text date rest hread
  rw [text_of_dateLiteral hread]
  exact List.suffix_append _ _

theorem leaves_span : (comparedDate <|> dateInterval).Leaves := by
  have hcomparison : comparison.Leaves :=
    .orElse (.bind (.exactly _) fun _ => .pure _) <|
      .orElse (.bind (.exactly _) fun _ => .pure _) <|
      .orElse (.bind (.exactly _) fun _ => .pure _) <|
      .orElse (.bind (.exactly _) fun _ => .pure _) (.bind (.exactly _) fun _ => .pure _)
  refine .orElse ?_ ?_
  · exact .bind hcomparison fun _ => .bind leaves_space fun _ =>
      .bind (leaves_dateLiteral.must.labelled .date) fun _ => .pure _
  · exact .bind leaves_dateLiteral fun _ => .bind leaves_space fun _ => .bind (.char '-') fun _ =>
      .bind leaves_space fun _ => .bind (leaves_dateLiteral.must.labelled .endDate) fun _ => .pure _

theorem leaves_comma : comma.Leaves := .bind leaves_space fun _ => .char ','

theorem leaves_clipList : clipList.Leaves := by
  have hclip : Reader.Leaves (do
      space
      string) := .bind leaves_space fun _ => leaves_string
  exact .bind leaves_space fun _ => .bind (.char '[') fun _ =>
    .bind (.bind (.optional (.separated leaves_comma hclip)) fun _ => .pure _) fun _ =>
    .bind leaves_space fun _ => .bind (.char ']') fun _ => .pure _

end ClipSplice.RuleText
