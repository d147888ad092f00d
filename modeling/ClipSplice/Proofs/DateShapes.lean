import ClipSplice.Proofs.WordReading

/-!
# The shape of dates

Whether a text starts with a date is seen from its shape, in which all figures look alike: two
figures, a mark, two figures, the same mark and four figures, and a time of day if one follows.
`behindDate?` is what stands behind such a date. The reader of dates leaves exactly this
(`dateLiteral_of_behindDate?`) and turns every other text down
(`dateLiteral_misses_of_behindDate?`); it never ends the reading by itself.
-/

namespace ClipSplice.RuleText

open Reader

/-! ## Shapes -/

/-- A text with all figures written as `0`. -/
def shapeOf (text : List Char) : List Char := text.map fun c => if c.isDigit then '0' else c

/-- The shape of a date. -/
def dateShape (mark : Char) : List Char := ['0', '0', mark, '0', '0', mark, '0', '0', '0', '0']

/-- The characters that may stand between the parts of a date. -/
def dateMarks : List Char := ['-', '/', '.']

/-- What stands behind a time of day, or the whole text if it does not start with one. -/
def behindTime (mark : Char) : List Char → List Char
  | [] => []
  | c :: rest =>
    if (c = ' ' ∨ c = mark) ∧ ['0', '0', '0', '0'] <+: shapeOf rest then rest.drop 4 else c :: rest

/-- What stands behind the date that a text starts with, and behind its time of day. -/
def behindDate? (text : List Char) : Option (List Char) :=
  (dateMarks.find? fun mark => dateShape mark <+: shapeOf text).map fun mark =>
    behindTime mark (text.drop 10)

section Shapes

variable {c : Char} {shape text tail : List Char}

@[simp] theorem length_shapeOf (text : List Char) : (shapeOf text).length = text.length :=
  List.length_map _

theorem shapeOf_cons (h : c.isDigit = false) (text : List Char) :
    shapeOf (c :: text) = c :: shapeOf text := by
  simp [shapeOf, h]

theorem shapeOf_append (front back : List Char) :
    shapeOf (front ++ back) = shapeOf front ++ shapeOf back := List.map_append

theorem shapeOf_eq_cons (hc : c.isDigit = false) (h : shapeOf text = c :: shape) :
    ∃ rest, text = c :: rest ∧ shapeOf rest = shape := by
  obtain ⟨d, rest, rfl, hd, hrest⟩ := List.map_eq_cons_iff.1 h
  refine ⟨rest, ?_, hrest⟩
  split at hd
  · exact absurd hc (by rw [← hd]; decide)
  · rw [hd]

/-- Only a figure looks like a figure. -/
theorem shapeOf_eq_replicate_iff {count : Nat} :
    shapeOf text = List.replicate count '0' ↔
      text.length = count ∧ ∀ c ∈ text, c.isDigit = true := by
  have hzero (c : Char) : (if c.isDigit then '0' else c) = '0' ↔ c.isDigit = true := by
    refine ⟨fun h => ?_, fun h => by rw [if_pos h]⟩
    split at h
    · assumption
    · exact h ▸ by decide
  rw [List.eq_replicate_iff, shapeOf, List.length_map, List.forall_mem_map]
  simp only [hzero]

theorem prefix_shapeOf_iff :
    shape <+: shapeOf text ↔ ∃ taken rest, text = taken ++ rest ∧ shapeOf taken = shape := by
  constructor
  · rintro ⟨behind, h⟩
    obtain ⟨taken, rest, rfl, htaken, -⟩ := List.map_eq_append_iff.1 h.symm
    exact ⟨taken, rest, rfl, htaken⟩
  · rintro ⟨taken, rest, rfl, rfl⟩
    exact ⟨shapeOf rest, (shapeOf_append taken rest).symm⟩

/-- A start without a certain character stands in front of that character. -/
theorem prefix_append_cons_iff {front start : List Char} (h : c ∉ start) :
    start <+: front ++ c :: tail ↔ start <+: front := by
  refine ⟨fun hstart => ?_, fun hstart => hstart.trans (List.prefix_append _ _)⟩
  rcases List.prefix_or_prefix_of_prefix hstart (List.prefix_append front (c :: tail)) with
    hshort | ⟨more, rfl⟩
  · exact hshort
  · rw [List.prefix_append_right_inj] at hstart
    cases more with
    | nil => rw [List.append_nil]
    | cons d more =>
      rw [List.cons_prefix_cons] at hstart
      exact absurd (List.mem_append_right front (hstart.1 ▸ List.mem_cons_self)) h

theorem prefix_shapeOf_append_colon (h : ':' ∉ shape) :
    shape <+: shapeOf (text ++ ':' :: tail) ↔ shape <+: shapeOf text := by
  rw [shapeOf_append, shapeOf_cons (by decide), prefix_append_cons_iff h]

end Shapes

/-! ## In front of a colon -/

section Colon

variable {mark : Char} {text rest tail : List Char}

theorem behindTime_append_colon (hmark : mark ≠ ':') :
    behindTime mark (text ++ ':' :: tail) = behindTime mark text ++ ':' :: tail := by
  cases text with
  | nil =>
    have hcolon : ¬(':' = ' ' ∨ ':' = mark) := not_or.2 ⟨by decide, hmark.symm⟩
    exact if_neg fun h => hcolon h.1
  | cons c text =>
    have hshape : ['0', '0', '0', '0'] <+: shapeOf (text ++ ':' :: tail) ↔
        ['0', '0', '0', '0'] <+: shapeOf text := prefix_shapeOf_append_colon (by decide)
    simp only [List.cons_append, behindTime, hshape]
    split
    · rename_i h
      have hlength := h.2.length_le
      rw [length_shapeOf] at hlength
      exact List.drop_append_of_le_length hlength
    · rfl

theorem behindDate?_append_colon (text tail : List Char) :
    behindDate? (text ++ ':' :: tail) = (behindDate? text).map (· ++ ':' :: tail) := by
  have hother : ∀ mark ∈ dateMarks, mark ≠ ':' := by simp [dateMarks]
  have hfind : (dateMarks.find? fun mark => dateShape mark <+: shapeOf (text ++ ':' :: tail)) =
      dateMarks.find? fun mark => dateShape mark <+: shapeOf text := by
    refine List.find?_congr fun mark hmark => decide_eq_decide.2 (prefix_shapeOf_append_colon ?_)
    simp [dateShape, (hother mark hmark).symm]
  rw [behindDate?, behindDate?, hfind, Option.map_map]
  refine Option.map_congr fun mark hmark => ?_
  have hprefix : dateShape mark <+: shapeOf text := by simpa using List.find?_some hmark
  have hlength : 10 ≤ text.length := length_shapeOf text ▸ hprefix.length_le
  rw [List.drop_append_of_le_length hlength,
    behindTime_append_colon (hother mark (List.mem_of_find?_eq_some hmark))]
  rfl

/-- What stands behind a date is an end of the text. -/
theorem suffix_of_behindDate? (h : behindDate? text = some rest) : rest <:+ text := by
  obtain ⟨mark, -, rfl⟩ := Option.map_eq_some_iff.1 h
  refine List.IsSuffix.trans ?_ (List.drop_suffix 10 text)
  cases text.drop 10 with
  | nil => exact List.suffix_rfl
  | cons c rest =>
    rw [behindTime]
    split
    · exact (List.drop_suffix 4 rest).trans (List.suffix_cons c rest)
    · exact List.suffix_rfl

end Colon

/-! ## Readers of shapes -/

/-- A reader takes any text of a certain shape, and turns a text down that does not start with
one. -/
structure Reader.Takes {α : Type} (reader : Reader α) (shape : List Char) : Prop where
  done : ∀ {taken : List Char} (rest : List Char), shapeOf taken = shape →
    ∃ value, reader (taken ++ rest) = .done value rest
  misses : ∀ {text : List Char}, ¬ shape <+: shapeOf text → Misses reader text

namespace Reader.Takes

variable {α β : Type} {reader : Reader α} {shape shape' : List Char}

theorem bind {next : α → Reader β} (h : reader.Takes shape)
    (hnext : ∀ value, (next value).Takes shape') : (reader >>= next).Takes (shape ++ shape') where
  done rest htaken := by
    obtain ⟨front, back, rfl, hfront, hback⟩ := List.map_eq_append_iff.1 htaken
    obtain ⟨value, hread⟩ := h.done (back ++ rest) hfront
    obtain ⟨value', hread'⟩ := (hnext value).done rest hback
    exact ⟨value', by rw [List.append_assoc, bind_of_done hread, hread']⟩
  misses {text} hmiss := by
    by_cases hfirst : shape <+: shapeOf text
    · obtain ⟨front, back, rfl, rfl⟩ := prefix_shapeOf_iff.1 hfirst
      obtain ⟨value, hread⟩ := h.done back rfl
      rw [shapeOf_append, List.prefix_append_right_inj] at hmiss
      exact .bind_of_done hread ((hnext value).misses hmiss)
    · exact (h.misses hfirst).bind

theorem bind_pure {make : α → β} (h : reader.Takes shape) :
    (do return make (← reader) : Reader β).Takes shape where
  done rest htaken := by
    obtain ⟨value, hread⟩ := h.done rest htaken
    exact ⟨make value, bind_of_done hread⟩
  misses hmiss := (h.misses hmiss).bind

theorem char {c : Char} (hc : c.isDigit = false) : (Reader.char c).Takes [c] where
  done rest htaken := by
    obtain ⟨more, rfl, hmore⟩ := shapeOf_eq_cons hc htaken
    obtain rfl := List.map_eq_nil_iff.1 hmore
    exact ⟨(), char_cons c rest⟩
  misses hmiss := by
    refine char_misses fun hhead => hmiss ?_
    obtain ⟨rest, rfl⟩ := List.head?_eq_some_iff.1 hhead
    rw [shapeOf_cons hc]
    exact List.prefix_append [c] _

theorem digits (count : Nat) : (Reader.digits count).Takes (List.replicate count '0') where
  done {taken} rest htaken := by
    obtain ⟨rfl, hfigures⟩ := shapeOf_eq_replicate_iff.1 htaken
    have hall : taken.takeWhile Char.isDigit = taken := List.takeWhile_eq_self_iff.2 hfigures
    exact ⟨Nat.ofDigitChars 10 taken 0, by simp [Reader.digits, hall]⟩
  misses {text} hmiss := by
    refine ⟨[], text, if_neg fun hlength => hmiss ?_⟩
    have htake : (text.take count).takeWhile Char.isDigit = text.take count := by
      refine (List.takeWhile_prefix _).eq_of_length ?_
      have hle := (List.takeWhile_prefix (l := text.take count) Char.isDigit).length_le
      rw [List.length_take] at hle ⊢
      omega
    rw [htake] at hlength
    refine prefix_shapeOf_iff.2 ⟨text.take count, text.drop count, ?_, ?_⟩
    · exact (List.take_append_drop count text).symm
    · exact shapeOf_eq_replicate_iff.2 ⟨hlength, List.takeWhile_eq_self_iff.1 htake⟩

end Reader.Takes

/-! ## The reader of dates -/

section Dates

variable {mark : Char} {text rest : List Char}

theorem spaceOrMark_cons {c : Char} (hc : c = ' ' ∨ c = mark) (rest : List Char) :
    (char ' ' <|> char mark) (c :: rest) = .done () rest := by
  by_cases hspace : c = ' '
  · exact orElse_of_done (hspace ▸ char_cons ' ' rest)
  · have hhead : (c :: rest).head? ≠ some ' ' := fun h => hspace (Option.some.inj h)
    rw [orElse_of_misses (char_misses hhead), hc.resolve_left hspace, char_cons]

/-- A time of day is passed over where it stands, and missed nowhere else. -/
theorem optional_dayTime_eq (mark : Char) (text : List Char) :
    ∃ time, optional (dayTime mark) text = .done time (behindTime mark text) := by
  have hclock : (do return (← digits 2, ← digits 2) : Reader (Nat × Nat)).Takes
      ['0', '0', '0', '0'] :=
    (Reader.Takes.digits 2).bind fun _ => (Reader.Takes.digits 2).bind_pure
  cases text with
  | nil =>
    have hnone (c : Char) : Misses (char c) [] := char_misses nofun
    exact ⟨none, optional_of_misses ((hnone ' ').orElse (hnone mark)).bind⟩
  | cons c rest =>
    rw [behindTime]
    split
    · rename_i h
      obtain ⟨hc, hshape⟩ := h
      obtain ⟨figures, behind, rfl, hfigures⟩ := prefix_shapeOf_iff.1 hshape
      obtain ⟨time, hread⟩ := hclock.done behind hfigures
      have hlength : figures.length = 4 := by
        rw [← length_shapeOf, hfigures]
        rfl
      refine ⟨some time, ?_⟩
      rw [List.drop_left' hlength]
      exact optional_of_done ((bind_of_done (spaceOrMark_cons hc _)).trans hread)
    · rename_i h
      refine ⟨none, optional_of_misses ?_⟩
      by_cases hc : c = ' ' ∨ c = mark
      · exact .bind_of_done (spaceOrMark_cons hc rest) (hclock.misses fun hshape => h ⟨hc, hshape⟩)
      · have hhead {d : Char} (hd : c ≠ d) : Misses (char d) (c :: rest) :=
          char_misses fun h => hd (Option.some.inj h)
        obtain ⟨hspace, hmark⟩ := not_or.1 hc
        exact ((hhead hspace).orElse (hhead hmark)).bind

/-- The reader of the day and the year of a date, behind its first mark. -/
def dayAndYear (mark : Char) : Reader (Nat × Nat) := do
  let day ← digits 2
  char mark
  return (day, ← digits 4)

theorem takes_dayAndYear (hmark : mark.isDigit = false) :
    (dayAndYear mark).Takes ['0', '0', mark, '0', '0', '0', '0'] :=
  (Reader.Takes.digits 2).bind fun _ => (Reader.Takes.char hmark).bind fun _ =>
    (Reader.Takes.digits 4).bind_pure

theorem dateParts_eq : dateParts = (do
    let month ← digits 2
    let mark ← charWith fun c => c = '-' || c = '/' || c = '.'
    let (day, year) ← dayAndYear mark
    return (month, day, year, ← optional (dayTime mark))) := by
  simp only [dateParts, dayAndYear, bind_assoc, pure_bind]

theorem isDigit_of_mem_dateMarks (h : mark ∈ dateMarks) : mark.isDigit = false := by
  rw [dateMarks] at h
  fin_cases h <;> rfl

theorem charWith_mark (h : mark ∈ dateMarks) (rest : List Char) :
    charWith (fun c => c = '-' || c = '/' || c = '.') (mark :: rest) = .done mark rest := by
  rw [dateMarks] at h
  fin_cases h <;> rfl

theorem dateParts_of_shapeOf {figures : List Char} (hmark : mark ∈ dateMarks)
    (hfigures : shapeOf figures = dateShape mark) (rest : List Char) :
    ∃ parts, dateParts (figures ++ rest) = .done parts (behindTime mark rest) := by
  have hdigit := isDigit_of_mem_dateMarks hmark
  have hparts : shapeOf figures =
      List.replicate 2 '0' ++ mark :: ['0', '0', mark, '0', '0', '0', '0'] := hfigures
  obtain ⟨front, back, rfl, hfront, hback⟩ := List.map_eq_append_iff.1 hparts
  obtain ⟨more, rfl, hmore⟩ := shapeOf_eq_cons hdigit hback
  obtain ⟨month, hmonth⟩ := (Reader.Takes.digits 2).done (mark :: (more ++ rest)) hfront
  obtain ⟨⟨day, year⟩, hyear⟩ := (takes_dayAndYear hdigit).done rest hmore
  obtain ⟨time, htime⟩ := optional_dayTime_eq mark rest
  refine ⟨(month, day, year, time), ?_⟩
  rw [dateParts_eq, List.append_assoc, List.cons_append]
  refine (bind_of_done hmonth).trans ((bind_of_done (charWith_mark hmark _)).trans ?_)
  exact (bind_of_done hyear).trans (bind_of_done htime)

theorem dateParts_misses_of_shapeOf (h : ∀ mark ∈ dateMarks, ¬ dateShape mark <+: shapeOf text) :
    Misses dateParts text := by
  rw [dateParts_eq]
  by_cases hmonth : List.replicate 2 '0' <+: shapeOf text
  · obtain ⟨figures, behind, rfl, hfigures⟩ := prefix_shapeOf_iff.1 hmonth
    obtain ⟨month, hread⟩ := (Reader.Takes.digits 2).done behind hfigures
    refine .bind_of_done hread ?_
    cases behind with
    | nil => exact Misses.bind ⟨[], [], rfl⟩
    | cons mark behind =>
      by_cases hmark : mark ∈ dateMarks
      · have hdigit := isDigit_of_mem_dateMarks hmark
        refine .bind_of_done (charWith_mark hmark behind) (Misses.bind ?_)
        refine (takes_dayAndYear hdigit).misses fun hmore => h mark hmark ?_
        rw [shapeOf_append, shapeOf_cons hdigit, hfigures]
        exact (List.prefix_append_right_inj (List.replicate 2 '0')).2
          (List.cons_prefix_cons.2 ⟨rfl, hmore⟩)
      · refine (charWith_misses ?_).bind
        rintro _ ⟨rfl⟩
        simpa [dateMarks, and_assoc] using hmark
  · exact ((Reader.Takes.digits 2).misses hmonth).bind

/-- The date that a text starts with is read, with its time of day. -/
theorem dateLiteral_of_behindDate? (h : behindDate? text = some rest) :
    ∃ date, dateLiteral text = .done date rest := by
  obtain ⟨mark, hmark, rfl⟩ := Option.map_eq_some_iff.1 h
  have hprefix : dateShape mark <+: shapeOf text := by simpa using List.find?_some hmark
  obtain ⟨figures, behind, rfl, hfigures⟩ := prefix_shapeOf_iff.1 hprefix
  have hlength : figures.length = 10 := by
    rw [← length_shapeOf, hfigures]
    rfl
  obtain ⟨⟨month, day, year, time⟩, hread⟩ :=
    dateParts_of_shapeOf (List.mem_of_find?_eq_some hmark) hfigures behind
  rw [List.drop_left' hlength]
  exact ⟨_, dateLiteral_of_dateParts hread⟩

/-- Every other text is turned down. -/
theorem dateLiteral_misses_of_behindDate? (h : behindDate? text = none) :
    Misses dateLiteral text := by
  have hshape : ∀ mark ∈ dateMarks, ¬ dateShape mark <+: shapeOf text := by
    simpa using Option.map_eq_none_iff.1 h
  exact dateLiteral_misses (dateParts_misses_of_shapeOf hshape)

end Dates

end ClipSplice.RuleText
