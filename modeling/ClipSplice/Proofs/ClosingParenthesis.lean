import ClipSplice.Proofs.PatternMeaning
import ClipSplice.Proofs.SetReading

/-!
# A closing parenthesis behind a pattern

A closing parenthesis behind a pattern is left over when the pattern has been read, unless a comment
at the end of the pattern takes it. `Beside` compares what a reader gives for a text alone and with
the parenthesis behind it. A text that breaks off may be completed by the parenthesis, such as a
backslash at its end; then nothing is left behind it.
-/

namespace ClipSplice.Regex

/-! ## Readings beside each other -/

/-- A reading of a text, and a reading of the text with a closing parenthesis behind it. `Dead` says
what may be read of a text that breaks off without the parenthesis. -/
inductive Beside {α : Type} (Dead : α → List Char → Prop) (text : List Char) :
    Option (α × List Char) → Option (α × List Char) → Prop
  | neither : Beside Dead text none none
  /-- The parenthesis is left over. -/
  | leftOver (x : α) (rest : List Char) (hrest : rest <:+ text) :
    Beside Dead text (some (x, rest)) (some (x, rest ++ [')']))
  /-- A comment takes the parenthesis. -/
  | comment (x : α) : Beside Dead text (some (x, [])) (some (x, []))
  /-- The text breaks off. -/
  | broken {x : α} {rest : List Char} (dead : Dead x rest) : Beside Dead text none (some (x, rest))

/-- Nothing is left of a text. -/
def Spent {α : Type} (_ : α) (rest : List Char) : Prop := rest = []

/-- No text is completed by the parenthesis. -/
def Never {α : Type} (_ : α) (_ : List Char) : Prop := False

namespace Beside

variable {α β : Type} {Dead : α → List Char → Prop} {text front : List Char}
  {read read' : Option (α × List Char)}

theorem mono (h : Beside Dead front read read') (hfront : front <:+ text) :
    Beside Dead text read read' := by
  cases h with
  | neither => exact .neither
  | leftOver x rest hrest => exact .leftOver x _ (hrest.trans hfront)
  | comment x => exact .comment x
  | broken dead => exact .broken dead

/-- What is left of a text is a part of it. -/
theorem suffix {x : α} {rest : List Char} (h : Beside Dead text (some (x, rest)) read') :
    rest <:+ text := by
  cases h with
  | leftOver _ _ hrest => exact hrest
  | comment _ => exact List.nil_suffix

theorem imp {Dead' : α → List Char → Prop} (h : Beside Dead text read read')
    (hdead : ∀ {x rest}, Dead x rest → Dead' x rest) : Beside Dead' text read read' := by
  cases h with
  | neither => exact .neither
  | leftOver x rest hrest => exact .leftOver x _ hrest
  | comment x => exact .comment x
  | broken dead => exact .broken (hdead dead)

/-- What is read may be taken for something else. -/
theorem map (Dead' : β → List Char → Prop) (change : α → β) (h : Beside Dead text read read')
    (hdead : ∀ {x rest}, Dead x rest → Dead' (change x) rest) :
    Beside Dead' text (read.map fun p => (change p.1, p.2))
      (read'.map fun p => (change p.1, p.2)) := by
  cases h with
  | neither => exact .neither
  | leftOver x rest hrest => exact .leftOver (change x) _ hrest
  | comment x => exact .comment (change x)
  | broken dead => exact .broken (hdead dead)

end Beside

/-- What a reader does with a parenthesis behind any text. -/
def Heeds {α : Type} (Dead : α → List Char → Prop) (reader : List Char → Option (α × List Char)) :
    Prop :=
  ∀ text, Beside Dead text (reader text) (reader (text ++ [')']))

/-- A reader leaves nothing of no text. -/
theorem Heeds.eq_nil {α : Type} {Dead : α → List Char → Prop}
    {reader : List Char → Option (α × List Char)} (h : Heeds Dead reader) {x : α}
    {rest : List Char} (hread : reader [] = some (x, rest)) : rest = [] := by
  have hnil := h []
  rw [hread] at hnil
  exact List.suffix_nil.1 hnil.suffix

section

variable {α β γ : Type} {Dead : α → List Char → Prop} {Dead' : β → List Char → Prop}
  {text : List Char} {read read' : Option (α × List Char)}

/-- A reader behind another one. -/
theorem Beside.bind (next : α × List Char → Option (β × List Char))
    (h : Beside Dead text read read') (hnext : ∀ x, Heeds Dead' fun rest => next (x, rest))
    (hdead : ∀ {x rest y rest'}, Dead x rest → next (x, rest) = some (y, rest') → Dead' y rest') :
    Beside Dead' text (read.bind next) (read'.bind next) := by
  cases h with
  | neither => exact .neither
  | leftOver x rest hrest => exact (hnext x _).mono hrest
  | comment x =>
    change Beside Dead' text (next (x, [])) (next (x, []))
    cases hread : next (x, []) with
    | none => exact .neither
    | some p =>
      obtain ⟨y, rest⟩ := p
      obtain rfl : rest = [] := (hnext x).eq_nil hread
      exact .comment y
  | @broken x rest dead =>
    change Beside Dead' text none (next (x, rest))
    cases hread : next (x, rest) with
    | none => exact .neither
    | some p => exact .broken (hdead dead hread)

/-- A reader behind one that leaves nothing where a text breaks off. -/
theorem Beside.andThen (next : α × List Char → Option (β × List Char))
    (h : Beside Spent text read read') (hnext : ∀ x, Heeds Dead' fun rest => next (x, rest))
    (hdead : ∀ y, Dead' y []) :
    Beside Dead' text (read.bind next) (read'.bind next) := by
  refine h.bind next hnext ?_
  rintro x _ y rest rfl hread
  obtain rfl : rest = [] := (hnext x).eq_nil hread
  exact hdead y

theorem heeds_some (x : α) : Heeds Dead fun rest => some (x, rest) :=
  fun _ => .leftOver x _ List.suffix_rfl

theorem heeds_none : Heeds Dead fun _ => none := fun _ => .neither

/-- A reader that depends on something that may not exist. -/
theorem heeds_option {found : Option γ} {reader : γ → List Char → Option (α × List Char)}
    (h : ∀ y, Heeds Dead (reader y)) :
    Heeds Dead fun rest => found.bind fun y => reader y rest := by
  cases found with
  | none => exact heeds_none
  | some y => exact h y

end

/-! ## Free spacing -/

theorem skipSpacing_append (inComment : Bool) (text : List Char) :
    (skipSpacing inComment (text ++ [')']) = skipSpacing inComment text ++ [')'] ∨
      skipSpacing inComment text = [] ∧ skipSpacing inComment (text ++ [')']) = []) ∧
    skipSpacing inComment text <:+ text := by
  induction text generalizing inComment with
  | nil =>
    cases inComment with
    | false => exact ⟨.inl rfl, List.suffix_rfl⟩
    | true => exact ⟨.inr ⟨rfl, rfl⟩, List.suffix_rfl⟩
  | cons c rest ih =>
    simp only [List.cons_append, skipSpacing]
    split
    · exact ⟨(ih _).1, (ih _).2.trans (List.suffix_cons c rest)⟩
    · split
      · exact ⟨(ih _).1, (ih _).2.trans (List.suffix_cons c rest)⟩
      · split
        · exact ⟨(ih _).1, (ih _).2.trans (List.suffix_cons c rest)⟩
        · exact ⟨.inl rfl, List.suffix_rfl⟩

/-- A parenthesis behind spacing is left over, unless it belongs to a comment. -/
theorem skip_append (free : Bool) (text : List Char) :
    (∃ rest, skip free text = rest ∧ skip free (text ++ [')']) = rest ++ [')'] ∧ rest <:+ text) ∨
      skip free text = [] ∧ skip free (text ++ [')']) = [] := by
  cases free with
  | false => exact .inl ⟨text, rfl, rfl, List.suffix_rfl⟩
  | true =>
    obtain ⟨hskip | hskip, hsuffix⟩ := skipSpacing_append false text
    · exact .inl ⟨_, rfl, hskip, hsuffix⟩
    · exact .inr hskip

theorem suffix_skip (free : Bool) (text : List Char) : skip free text <:+ text := by
  rcases skip_append free text with ⟨rest, hskip, -, hrest⟩ | ⟨hskip, -⟩
  · rwa [hskip]
  · rw [hskip]
    exact List.nil_suffix

theorem heeds_skip {α : Type} {Dead : α → List Char → Prop} (free : Bool) (x : α) :
    Heeds Dead fun text => some (x, skip free text) := by
  intro text
  dsimp only
  rcases skip_append free text with ⟨rest, hskip, hskip', hrest⟩ | ⟨hskip, hskip'⟩
  · rw [hskip, hskip']
    exact .leftOver x _ hrest
  · rw [hskip, hskip']
    exact .comment x

theorem skipSpacing_idempotent (inComment : Bool) (text : List Char) :
    skipSpacing false (skipSpacing inComment text) = skipSpacing inComment text := by
  induction text generalizing inComment with
  | nil => rfl
  | cons c rest ih =>
    rw [skipSpacing]
    split
    · exact ih _
    · split
      · exact ih _
      · split
        · exact ih _
        · rename_i hcomment hblank hhash
          rw [skipSpacing, if_neg Bool.false_ne_true, if_neg hblank, if_neg hhash]

theorem skip_skip (free : Bool) (text : List Char) :
    skip free (skip free text) = skip free text := by
  cases free with
  | false => rfl
  | true => exact skipSpacing_idempotent false text

theorem skip_append_of_eq {free : Bool} {text : List Char} (h : skip free text = text) :
    skip free (text ++ [')']) = text ++ [')'] := by
  rcases skip_append free text with ⟨rest, hskip, hskip', -⟩ | ⟨hskip, hskip'⟩
  · rw [hskip', ← hskip, h]
  · obtain rfl : text = [] := h.symm.trans hskip
    cases free <;> cases hskip'

/-- A reader that skips spacing first need only be looked at where there is none. -/
theorem heeds_of_skip {α : Type} {Dead : α → List Char → Prop} (free : Bool)
    {reader : List Char → Option (α × List Char)}
    (hskip : ∀ text, reader text = reader (skip free text))
    (h : ∀ text, skip free text = text → skip free (text ++ [')']) = text ++ [')'] →
      Beside Dead text (reader text) (reader (text ++ [')']))) : Heeds Dead reader := by
  have hspent : ∀ text, Beside Dead text (reader []) (reader []) := by
    intro text
    cases hread : reader [] with
    | none => exact .neither
    | some p =>
      have hnil := h [] (by cases free <;> rfl) (by cases free <;> rfl)
      obtain ⟨x, rest⟩ := p
      rw [hread] at hnil
      rw [List.suffix_nil.1 hnil.suffix]
      exact .comment x
  intro text
  rw [hskip text, hskip (text ++ [')'])]
  rcases skip_append free text with ⟨rest, hrest, hrest', hsuffix⟩ | ⟨hrest, hrest'⟩
  · have hstop : skip free rest = rest := by rw [← hrest, skip_skip]
    rw [hrest, hrest']
    exact (h rest hstop (skip_append_of_eq hstop)).mono hsuffix
  · rw [hrest, hrest']
    exact hspent text

/-! ## Escapes -/

theorem heeds_takeBraced (free inComment : Bool) : Heeds Spent (takeBraced free inComment) := by
  intro text
  induction text generalizing inComment with
  | nil => cases inComment <;> cases free <;> exact .neither
  | cons c rest ih =>
    have hrest := List.suffix_cons c rest
    simp only [List.cons_append, takeBraced]
    split
    · exact (ih _).mono hrest
    · split
      · exact (ih _).mono hrest
      · split
        · exact (ih _).mono hrest
        · split
          · exact .leftOver [] _ hrest
          · exact ((ih _).mono hrest).map _ (fun inner => c :: inner) id

theorem heeds_takeSpaced (free : Bool) (n : Nat) : Heeds Spent (takeSpaced free n) := by
  induction n with
  | zero => exact fun text => .leftOver [] _ List.suffix_rfl
  | succ n ih =>
    intro text
    cases text with
    | nil =>
      -- the parenthesis itself is taken
      cases n with
      | zero => cases free <;> exact .broken rfl
      | succ n => cases free <;> exact .neither
    | cons c rest =>
      have hskip := (heeds_skip free () rest).andThen
        (fun p => takeSpaced free n p.2) (fun _ => ih) fun _ => rfl
      exact (hskip.mono (List.suffix_cons c rest)).map _ (fun taken => c :: taken) id

/-- A number without braces is written in a certain number of digits. -/
theorem readHex_eq_of_head? {free : Bool} {width : Nat} {text : List Char}
    (hstop : skip free text = text) (hbrace : text.head? ≠ some '\x7b') :
    readHex free width text = (takeSpaced free width text).bind fun (digits, after) =>
      (hexNumber? digits).bind fun n => (charOf? n).bind fun c =>
        some (⟨c, width = 2⟩, after) := by
  rw [readHex, hstop]
  split
  · exact absurd rfl hbrace
  · rfl

theorem heeds_readHex (free : Bool) (width : Nat) : Heeds Spent (readHex free width) := by
  refine heeds_of_skip free (fun text => ?_) fun text hstop hstop' => ?_
  · rw [readHex, readHex, skip_skip]
  by_cases hbrace : text.head? = some '\x7b'
  · obtain ⟨rest, rfl⟩ := List.head?_eq_some_iff.1 hbrace
    rw [readHex, readHex, hstop, hstop']
    refine .mono ?_ (List.suffix_cons _ rest)
    refine (heeds_takeBraced free false rest).andThen _ (fun digits => ?_) fun _ => rfl
    dsimp only
    split
    · exact heeds_none
    · exact heeds_option fun n => heeds_option fun c => heeds_skip free _
  · have hbrace' : (text ++ [')']).head? ≠ some '\x7b' := by
      cases text with
      | nil => decide
      | cons c rest => exact hbrace
    rw [readHex_eq_of_head? hstop hbrace, readHex_eq_of_head? hstop' hbrace']
    exact (heeds_takeSpaced free width text).andThen _
      (fun digits => heeds_option fun n => heeds_option fun c => heeds_some _) fun _ => rfl

/-- A property without braces is named by one letter. -/
theorem readProperty_cons_of_ne {free negated : Bool} {c : Char} {rest : List Char}
    (hstop : skip free (c :: rest) = c :: rest) (hbrace : c ≠ '\x7b') :
    readProperty free negated (c :: rest) =
      if c = '\\' then none
      else some (.property (.plain (.singleton c)) negated, skip free rest) := by
  rw [readProperty, hstop]
  split
  · contradiction
  · rename_i heq
    exact absurd (List.cons.inj heq).1 hbrace
  · rename_i heq
    cases heq
    rfl

theorem heeds_readProperty (free negated : Bool) : Heeds Spent (readProperty free negated) := by
  refine heeds_of_skip free (fun text => ?_) fun text hstop hstop' => ?_
  · rw [readProperty, readProperty, skip_skip]
  rcases text with _ | ⟨c, rest⟩
  · rw [readProperty, readProperty, hstop, hstop']
    exact .broken (by cases free <;> rfl)
  · by_cases hbrace : c = '\x7b'
    · subst hbrace
      rw [readProperty, readProperty, hstop, hstop']
      refine .mono ?_ (List.suffix_cons _ rest)
      exact (heeds_takeBraced free false rest).andThen _ (fun name => heeds_some _) fun _ => rfl
    · rw [List.cons_append] at hstop' ⊢
      rw [readProperty_cons_of_ne hstop hbrace, readProperty_cons_of_ne hstop' hbrace]
      split
      · exact .neither
      · exact (heeds_skip free _ rest).mono (List.suffix_cons c rest)

/-- Nothing is left behind an escape, or a brace that no repetition can begin with. -/
def Blocked (free : Bool) (escape : Escape) (rest : List Char) : Prop :=
  rest = [] ∨ ∃ more, escape = .anchor .wordBoundary ∧ rest = '\x7b' :: more ∧
    readBounds free more = none

theorem readBounds_eq_none {free : Bool} {text : List Char} (hskip : skip free text = [')']) :
    readBounds free text = none := by
  rw [readBounds, hskip]
  cases free <;> rfl

/-- The name of a boundary is read up to its closing brace; a brace at the end of the text may be
one or belong to a repetition. -/
theorem heeds_readBoundary (free : Bool) : Heeds (Blocked free) (readBoundary free) := by
  intro text
  rcases text with _ | ⟨c, rest⟩
  · exact .leftOver (Escape.anchor .wordBoundary) [] List.suffix_rfl
  · by_cases hbrace : c = '\x7b'
    · subst hbrace
      rw [List.cons_append]
      simp only [readBoundary]
      rcases skip_append free rest with ⟨inner, hskip, hskip', hinner⟩ | ⟨hskip, hskip'⟩
      · rw [hskip, hskip']
        rcases inner with _ | ⟨d, inner⟩
        · exact .broken (.inr ⟨_, rfl, rfl, readBounds_eq_none hskip'⟩)
        · dsimp only [List.cons_append]
          split
          · refine .mono ?_ (hinner.trans (List.suffix_cons _ rest))
            refine (heeds_takeBraced free false (d :: inner)).andThen _ (fun name => ?_)
              fun _ => .inl rfl
            dsimp only
            exact heeds_option fun a => heeds_some _
          · exact .leftOver (Escape.anchor .wordBoundary) ('\x7b' :: rest) List.suffix_rfl
      · rw [hskip, hskip']
        exact .neither
    · have hboundary (more : List Char) : readBoundary free (c :: more) =
          some (.anchor .wordBoundary, c :: more) := by
        unfold readBoundary
        split
        · rename_i heq
          exact absurd (List.cons.inj heq).1 hbrace
        · rfl
      rw [List.cons_append, hboundary, hboundary]
      exact .leftOver (Escape.anchor .wordBoundary) (c :: rest) List.suffix_rfl

theorem heeds_readEscape (free : Bool) : Heeds (Blocked free) (readEscape free) := by
  intro text
  rcases text with _ | ⟨c, rest⟩
  · exact .broken (.inl rfl)
  · refine .mono ?_ (List.suffix_cons c rest)
    have hhex (width : Nat) : Beside (Blocked free) rest
        ((readHex free width rest).map fun read => (Escape.literal read.1, read.2))
        ((readHex free width (rest ++ [')'])).map fun read => (Escape.literal read.1, read.2)) :=
      (heeds_readHex free width rest).map _ Escape.literal .inl
    have hproperty (negated : Bool) : Beside (Blocked free) rest (readProperty free negated rest)
        (readProperty free negated (rest ++ [')'])) :=
      (heeds_readProperty free negated rest).imp .inl
    have hone (escape : Escape) : Beside (Blocked free) rest (some (escape, rest))
        (some (escape, rest ++ [')'])) := .leftOver escape _ List.suffix_rfl
    rw [List.cons_append]
    unfold readEscape
    dsimp only
    split
    case h_1 | h_2 | h_3 => exact hhex _
    case h_4 | h_5 => exact hproperty _
    case h_20 => exact heeds_readBoundary free rest
    case h_24 =>
      split
      · exact hone _
      · exact .neither
    all_goals exact hone _

/-! ## Sets -/

theorem heeds_cut? {mark : Char} (hmark : mark ≠ ')') : Heeds Never (Text.cut? mark) := by
  intro text
  induction text with
  | nil =>
    rw [List.nil_append, Text.cut?, Text.cut?, if_neg hmark.symm]
    exact .neither
  | cons c rest ih =>
    have hrest := List.suffix_cons c rest
    rw [List.cons_append, Text.cut?, Text.cut?]
    split
    · exact .leftOver [] _ hrest
    · exact (ih.mono hrest).map _ (fun front => c :: front) id

/-- The name of a class, from behind its negation. -/
def readAsciiName? (negated : Bool) (name : List Char) : Option (SetTree × List Char) :=
  (Text.cut? ':' name).bind fun (name, after) =>
    match after with
    | ']' :: after => (CharClass.ascii? (.ofList name)).bind fun set =>
      some (.ascii set negated, after)
    | _ => none

theorem heeds_readAsciiName? (negated : Bool) : Heeds Never (readAsciiName? negated) := by
  intro text
  refine (heeds_cut? (by decide) text).bind _ (fun name after => ?_) nofun
  rcases after with _ | ⟨c, after⟩
  · exact .neither
  · by_cases hc : c = ']'
    · subst hc
      exact Beside.mono (heeds_option (fun set => heeds_some _) after) (List.suffix_cons _ after)
    · simpa [hc] using Beside.neither

theorem readAsciiSet?_eq_of_head? {name : List Char} (hname : name.head? ≠ some '^') :
    readAsciiSet? (':' :: name) = readAsciiName? false name := by
  rw [readAsciiSet?]
  · rfl
  · rintro rest rfl
    exact hname rfl

theorem head?_append_close {c : Char} (hc : c ≠ ')') {text : List Char}
    (h : text.head? ≠ some c) : (text ++ [')']).head? ≠ some c := by
  cases text with
  | nil => exact fun heq => hc (Option.some.inj heq).symm
  | cons d rest => exact h

theorem heeds_readAsciiSet? : Heeds Never readAsciiSet? := by
  intro text
  by_cases hcolon : text.head? = some ':'
  · obtain ⟨rest, rfl⟩ := List.head?_eq_some_iff.1 hcolon
    refine .mono ?_ (List.suffix_cons _ rest)
    by_cases hmark : rest.head? = some '^'
    · obtain ⟨name, rfl⟩ := List.head?_eq_some_iff.1 hmark
      exact (heeds_readAsciiName? true name).mono (List.suffix_cons _ name)
    · rw [List.cons_append, readAsciiSet?_eq_of_head? hmark,
        readAsciiSet?_eq_of_head? (head?_append_close (by decide) hmark)]
      exact heeds_readAsciiName? false rest
  · have hread {text : List Char} (hcolon : text.head? ≠ some ':') : readAsciiSet? text = none := by
      unfold readAsciiSet?
      split
      · exact absurd rfl hcolon
      · rfl
    rw [hread hcolon, hread (head?_append_close (by decide) hcolon)]
    exact .neither

theorem dropWhile_isBlank_append (text : List Char) :
    (text ++ [')']).dropWhile isBlank = text.dropWhile isBlank ++ [')'] := by
  induction text with
  | nil => rfl
  | cons c rest ih =>
    rw [List.cons_append, List.dropWhile_cons, List.dropWhile_cons]
    split
    · exact ih
    · rfl

theorem isPlainHyphen_append (free : Bool) (text : List Char) :
    isPlainHyphen free (text ++ [')']) = isPlainHyphen free text := by
  have hhead (ahead : List Char) :
      (decide ((ahead ++ [')']).head? = some ']') || decide ((ahead ++ [')']).head? = some '-')) =
        (decide (ahead.head? = some ']') || decide (ahead.head? = some '-')) := by
    cases ahead with
    | nil => rfl
    | cons c ahead => rfl
  cases free with
  | false => exact hhead text
  | true =>
    simp only [isPlainHyphen, if_true, dropWhile_isBlank_append]
    rcases text.dropWhile isBlank with _ | ⟨c, ahead⟩
    · rfl
    · by_cases hc : c = '#'
      · subst hc
        simp only [List.cons_append, dropWhile_isBlank_append]
        exact hhead _
      · simp [hc]

theorem heeds_readSetAtom_cons (free : Bool) (c : Char) :
    Heeds (Blocked free) fun rest => readSetAtom free (c :: rest) := by
  intro rest
  simp only [readSetAtom]
  split
  · exact heeds_readEscape free rest
  · exact .leftOver _ _ List.suffix_rfl

theorem heeds_readSetAtom (free : Bool) : Heeds (Blocked free) (readSetAtom free) := by
  intro text
  rcases text with _ | ⟨c, rest⟩
  · exact .broken (.inl rfl)
  · exact (heeds_readSetAtom_cons free c rest).mono (List.suffix_cons c rest)

/-- At most the parenthesis is left, and no set can be read from it. -/
def Unclosed {α : Type} (_ : α) (rest : List Char) : Prop := rest <:+ [')']

theorem unclosed_close {α : Type} (x : α) : Unclosed x [')'] := List.suffix_rfl

theorem skip_cons_of_ne {free : Bool} {c : Char} {rest : List Char} (hblank : isBlank c = false)
    (hhash : c ≠ '#') : skip free (c :: rest) = c :: rest := by
  cases free with
  | false => rfl
  | true => simp [skip, skipSpacing, hblank, hhash]

theorem rangeOf?_anchor (first : Escape) (a : Anchor) : rangeOf? first (.anchor a) = none := by
  cases first <;> rfl

/-- An item needs something behind it, so that a text with none breaks off. -/
theorem heeds_readSetItem (free : Bool) (c : Char) :
    Heeds Unclosed fun rest => readSetItem free (c :: rest) := by
  have hitem (first : Escape) : Heeds Unclosed fun rest =>
      first.toSetItem?.bind fun item => some (item, rest) := heeds_option fun _ => heeds_some _
  have hatom : Heeds (Blocked free) fun text => readSetAtom free (skip free text) := fun text =>
    (heeds_skip free () text).andThen (fun p => readSetAtom free p.2)
      (fun _ => heeds_readSetAtom free) fun _ => .inl rfl
  intro text
  dsimp only
  rw [readSetItem, readSetItem]
  refine (heeds_readSetAtom_cons free c text).bind _ (fun first => ?_)
    fun {first rest item left} => ?_
  · refine heeds_of_skip free (fun after => ?_) fun after hstop hstop' => ?_
    · dsimp only
      rw [skip_skip]
    dsimp only
    rw [hstop, hstop']
    rcases after with _ | ⟨c, rest⟩
    · cases hset : first.toSetItem? with
      | none => exact .neither
      | some item => exact .broken (unclosed_close _)
    · by_cases hc : c = '-'
      · subst hc
        simp only [List.cons_append, isPlainHyphen_append]
        split
        · exact hitem first ('-' :: rest)
        · refine .mono ((hatom rest).bind _ (fun last => ?_) fun {last rest item left} => ?_)
            (List.suffix_cons _ rest)
          · dsimp only
            exact heeds_option fun _ => heeds_some _
          · dsimp only
            rintro (rfl | ⟨more, rfl, rfl, -⟩) hread
            · obtain ⟨_, -, heq⟩ := Option.bind_eq_some_iff.1 hread
              cases heq
              exact List.nil_suffix
            · rw [rangeOf?_anchor] at hread
              cases hread
      · simpa [hc] using hitem first (c :: rest)
  · dsimp only
    rintro (rfl | ⟨more, rfl, rfl, -⟩) hread
    · cases free <;> cases hread
    · rw [skip_cons_of_ne (by decide) (by decide)] at hread
      cases hread

theorem heeds_takeHyphens (free inComment : Bool) :
    Heeds Spent fun text => some (takeHyphens free inComment text) := by
  intro text
  dsimp only
  induction text generalizing inComment with
  | nil =>
    cases inComment with
    | false => cases free <;> exact .leftOver [] [] List.suffix_rfl
    | true => exact .comment []
  | cons c rest ih =>
    have hrest := List.suffix_cons c rest
    simp only [List.cons_append, takeHyphens]
    split
    · exact (ih _).mono hrest
    · split
      · exact (ih _).mono hrest
      · split
        · exact (ih _).mono hrest
        · split
          · exact ((ih _).mono hrest).map Spent
              (fun hyphens => .literal ⟨'-', false⟩ :: hyphens) id
          · exact .leftOver [] (c :: rest) List.suffix_rfl

/-- The beginning of a set needs something behind it, so that a text with none breaks off. -/
theorem heeds_openBehind (free negated : Bool) (hyphens : List SetTree) :
    Heeds Unclosed fun rest => openBehind free negated (hyphens, rest) := by
  intro text
  rcases text with _ | ⟨c, rest⟩
  · have hopen : openBehind free negated (hyphens, [')']) =
        some ({ negated, items := hyphens.reverse }, [')']) := by
      cases hyphens <;> rfl
    dsimp only [List.nil_append]
    rw [hopen]
    exact .broken (unclosed_close _)
  · by_cases hbracket : hyphens = [] ∧ c = ']'
    · obtain ⟨rfl, rfl⟩ := hbracket
      simp only [openBehind, List.cons_append]
      rcases skip_append free rest with ⟨inner, hskip, hskip', hinner⟩ | ⟨hskip, hskip'⟩
      · rw [hskip, hskip']
        rcases inner with _ | ⟨d, inner⟩
        · exact .broken (unclosed_close _)
        · exact .leftOver _ _ (hinner.trans (List.suffix_cons _ rest))
      · rw [hskip, hskip']
        exact .neither
    · have hopen (more : List Char) : openBehind free negated (hyphens, c :: more) =
          some ({ negated, items := hyphens.reverse }, c :: more) := by
        refine openBehind_eq_some (List.cons_ne_nil _ _) fun hnone hhead => hbracket ⟨hnone, ?_⟩
        exact Option.some.inj hhead
      dsimp only [List.cons_append]
      rw [hopen, hopen]
      exact .leftOver _ (c :: rest) List.suffix_rfl

theorem heeds_openSet (free : Bool) : Heeds Unclosed (openSet free) := by
  have hbehind (negated : Bool) : Heeds Unclosed fun text =>
      openBehind free negated (takeHyphens free false text) := fun text =>
    (heeds_takeHyphens free false text).andThen (openBehind free negated)
      (heeds_openBehind free negated) fun _ => List.nil_suffix
  refine heeds_of_skip free (fun text => ?_) fun text hstop hstop' => ?_
  · rw [openSet, openSet, skip_skip]
  by_cases hmark : text.head? = some '^'
  · obtain ⟨rest, rfl⟩ := List.head?_eq_some_iff.1 hmark
    rw [openSet_eq_of_mark hstop, openSet_eq_of_mark hstop']
    refine .mono ?_ (List.suffix_cons _ rest)
    exact (heeds_skip free () rest).andThen
      (fun p => openBehind free true (takeHyphens free false p.2))
      (fun _ => hbehind true) fun _ => List.nil_suffix
  · have hmark' : (text ++ [')']).head? ≠ some '^' := by
      cases text with
      | nil => decide
      | cons c rest => exact hmark
    rw [openSet_eq_of_head? (by rwa [hstop]), openSet_eq_of_head? (by rwa [hstop']), hstop, hstop']
    exact hbehind false text

theorem readOpenSet_unclosed {free : Bool} {set : OpenSet} {outer : List OpenSet} {fuel : Nat}
    {text : List Char} (htext : text <:+ [')']) : readOpenSet free set outer fuel text = none := by
  cases fuel with
  | zero => rfl
  | succ fuel =>
    rcases List.suffix_cons_iff.1 htext with rfl | hnil
    · cases free <;> rfl
    · obtain rfl := List.suffix_nil.1 hnil
      cases free <;> rfl

/-- A set goes on behind what was read of it. -/
theorem Beside.bind_readOpenSet {α : Type} {free : Bool} {set : α → OpenSet} {outer : List OpenSet}
    {fuel fuel' : Nat} {text rest : List Char} {read read' : Option (α × List Char)}
    (h : Beside Unclosed rest read read')
    (hgo : ∀ x {after}, after <:+ rest → Beside Never text
      (readOpenSet free (set x) outer fuel after)
      (readOpenSet free (set x) outer fuel' (after ++ [')']))) :
    Beside Never text (read.bind fun p => readOpenSet free (set p.1) outer fuel p.2)
      (read'.bind fun p => readOpenSet free (set p.1) outer fuel' p.2) := by
  cases h with
  | neither => exact .neither
  | leftOver x after hafter => exact hgo x hafter
  | comment x =>
    dsimp only [Option.bind_some]
    rw [readOpenSet_unclosed List.nil_suffix, readOpenSet_unclosed List.nil_suffix]
    exact .neither
  | broken dead =>
    dsimp only [Option.bind_some]
    rw [readOpenSet_unclosed dead]
    exact .neither

/-- No set ends with the parenthesis. -/
theorem beside_readOpenSet {free : Bool} {set : OpenSet} {outer : List OpenSet} {fuel fuel' : Nat}
    {text : List Char} (hfuel : text.length < fuel) (hfuel' : text.length + 1 < fuel') :
    Beside Never text (readOpenSet free set outer fuel text)
      (readOpenSet free set outer fuel' (text ++ [')'])) := by
  induction fuel generalizing set outer fuel' text with
  | zero => cases hfuel
  | succ fuel ih =>
    obtain ⟨fuel', rfl⟩ := Nat.exists_eq_succ_of_ne_zero (Nat.ne_zero_of_lt hfuel')
    rcases skip_append free text with ⟨rest, hskip, hskip', hrest⟩ | ⟨hskip, hskip'⟩
    case inr =>
      rw [readOpenSet, readOpenSet, hskip, hskip']
      exact .neither
    rcases rest with _ | ⟨c, rest⟩
    · rw [readOpenSet, hskip, readOpenSet_item hskip' (by decide) (by decide) (by decide)]
      cases free <;> exact .neither
    -- every way to go on leaves a part of what is behind the first character
    have hlength : (c :: rest).length ≤ text.length := hrest.length_le
    rw [List.length_cons] at hlength
    have hgo (set : OpenSet) (outer : List OpenSet) {after : List Char} (hafter : after <:+ rest) :
        Beside Never text (readOpenSet free set outer fuel after)
          (readOpenSet free set outer fuel' (after ++ [')'])) := by
      have hshort := hafter.length_le
      refine (ih (by omega) (by omega)).mono ?_
      exact hafter.trans ((List.suffix_cons c rest).trans hrest)
    by_cases hopen : c = '['
    · subst hopen
      rw [readOpenSet_bracket hskip, readOpenSet_bracket hskip']
      have hascii := heeds_readAsciiSet? rest
      generalize readAsciiSet? rest = read, readAsciiSet? (rest ++ [')']) = read' at hascii ⊢
      cases hascii with
      | neither => exact (heeds_openSet free rest).bind_readOpenSet fun inside => hgo inside _
      | leftOver item after hafter => exact hgo _ _ hafter
      | comment item =>
        dsimp only
        rw [readOpenSet_unclosed List.nil_suffix, readOpenSet_unclosed List.nil_suffix]
        exact .neither
      | broken dead => exact dead.elim
    by_cases hclose : c = ']'
    · subst hclose
      rw [readOpenSet, readOpenSet, hskip, hskip']
      cases outer with
      | nil => exact .leftOver set _ ((List.suffix_cons _ rest).trans hrest)
      | cons next others => exact hgo _ _ List.suffix_rfl
    by_cases hsingle : c ∈ ['&', '-', '~'] → rest.head? ≠ some c
    · have hsingle' : c ∈ ['&', '-', '~'] → (rest ++ [')']).head? ≠ some c := fun hc =>
        head?_append_close (by rintro rfl; simp at hc) (hsingle hc)
      rw [readOpenSet_item hskip hopen hclose hsingle,
        readOpenSet_item hskip' hopen hclose hsingle']
      exact (heeds_readSetItem free c rest).bind_readOpenSet fun item => hgo (set.push item) outer
    · push Not at hsingle
      obtain ⟨hop, hdouble⟩ := hsingle
      obtain ⟨behind, rfl⟩ := List.head?_eq_some_iff.1 hdouble
      rw [readOpenSet, readOpenSet, hskip, hskip']
      simp only [List.mem_cons, List.not_mem_nil, or_false] at hop
      rcases hop with rfl | rfl | rfl <;> exact hgo _ _ (List.suffix_cons _ behind)

theorem heeds_readSet (free : Bool) : Heeds Never (readSet free) := by
  intro text
  rw [readSet, readSet]
  have hopen := heeds_openSet free text
  generalize openSet free text = read, openSet free (text ++ [')']) = read' at hopen ⊢
  cases hopen with
  | neither => exact .neither
  | leftOver set after hafter =>
    refine (beside_readOpenSet (Nat.lt_succ_self _) ?_).mono hafter
    rw [List.length_append, List.length_singleton]
    exact Nat.lt_succ_self _
  | comment set =>
    dsimp only
    rw [readOpenSet_unclosed List.nil_suffix]
    exact .neither
  | broken dead =>
    dsimp only
    rw [readOpenSet_unclosed dead]
    exact .neither

end ClipSplice.Regex
