import ClipSplice.Proofs.RulePhrase

/-!
# Reading tokens from a layout

`Reads` says that a reader takes certain tokens from every layout of them, whatever tokens stand
behind, and leaves a layout of the rest. `Misses` says that a reader turns a text down, so that
another one is tried. A word is taken as a whole because space follows it, and most readers turn a
text down because of its first character.

The lemmas here are about the readers of any grammar and about single tokens; `Reads.many` and
`Reads.sequence` turn what is known of one item into the same for a sequence.
-/

namespace ClipSplice.RuleText

open Reader

/-! ## Skipping space -/

private theorem endsAsComment_line {text rest : List Char}
    (htext : ∀ c ∈ text, c ≠ '\n' ∧ c ≠ '\r') : endsAsComment (text ++ '\n' :: rest) = true := by
  have hdrop : (text ++ '\n' :: rest).dropWhile (fun c => c ≠ '\n' && c ≠ '\r') = '\n' :: rest := by
    rw [List.dropWhile_append_of_pos]
    · rfl
    · intro c hc
      simp [htext c hc]
  rw [endsAsComment, hdrop]
  split <;> simp_all

private theorem skipSpace_line {text rest : List Char}
    (htext : ∀ c ∈ text, c ≠ '\n' ∧ c ≠ '\r') :
    skipSpace true (text ++ '\n' :: rest) = skipSpace false rest := by
  induction text with
  | nil => rfl
  | cons c text ih =>
    have hc := htext c List.mem_cons_self
    have hin : (decide (c ≠ '\n') && decide (c ≠ '\r')) = true := by simp [hc]
    rw [List.cons_append, skipSpace, if_pos rfl, hin]
    exact ih fun d hd => htext d (List.mem_cons_of_mem c hd)

/-- A gap in front of a text is skipped. -/
theorem Gap.skipSpace_append {gap : List Char} (hgap : Gap gap) (text : List Char) :
    skipSpace false (gap ++ text) = skipSpace false text := by
  induction hgap with
  | nil => rfl
  | blank hblank _ ih =>
    rw [List.cons_append, skipSpace, if_neg Bool.false_ne_true, if_pos hblank]
    exact ih
  | @comment line rest htext _ ih =>
    have hsplit : '#' :: (line ++ '\n' :: rest) ++ text =
        '#' :: (line ++ '\n' :: (rest ++ text)) := by simp
    -- a `#` starts a comment only where its line ends; the line of a gap does
    rw [hsplit, skipSpace, if_neg Bool.false_ne_true, if_neg (by decide),
      if_pos (by simp [endsAsComment_line htext]), skipSpace_line htext]
    exact ih

/-- A gap alone is skipped as a whole. -/
theorem Gap.skipSpace_eq_nil {gap : List Char} (hgap : Gap gap) : skipSpace false gap = [] := by
  have hskip := hgap.skipSpace_append []
  rwa [List.append_nil] at hskip

theorem skipSpace_of_startsWord {text : List Char} (hstarts : startsWord text = true) :
    skipSpace false text = text := by
  cases text with
  | nil => rfl
  | cons c rest =>
    simp only [startsWord, Bool.and_eq_true, Bool.not_eq_true', decide_eq_true_eq] at hstarts
    simp [skipSpace, hstarts.1, hstarts.2]

theorem startsWord_append {text : List Char} (hstarts : startsWord text = true)
    (rest : List Char) : startsWord (text ++ rest) = true := by
  cases text with
  | nil => exact absurd hstarts Bool.false_ne_true
  | cons c text => exact hstarts

/-- The first character of a gap. -/
theorem Gap.head {c : Char} {rest : List Char} (hgap : Gap (c :: rest)) :
    isBlank c = true ∨ c = '#' := by
  cases hgap with
  | blank hblank _ => exact .inl hblank
  | comment _ _ => exact .inr rfl

/-! ## Layouts -/

namespace LaidOut

variable {lead : Lead} {tokens : List Token} {text : List Char}

/-- Any amount of space is allowed where a certain amount is. -/
theorem toAny (h : LaidOut lead tokens text) : LaidOut .any tokens text := by
  induction h with
  | nil hgap _ => exact .nil hgap nofun
  | word hgap _ hrest _ => exact .word hgap trivial hrest
  | comma hgap _ hrest _ => exact .comma hgap trivial hrest
  | noComma _ ih => exact .noComma ih

/-- When space is skipped, the first token stands at the start. -/
theorem skipSpace (h : LaidOut lead tokens text) :
    LaidOut .none tokens (skipSpace false text) := by
  induction h with
  | nil hgap _ =>
    rw [hgap.skipSpace_eq_nil]
    exact .nil .nil fun _ => rfl
  | @word _ word _ _ rest hgap _ hrest _ =>
    rw [hgap.skipSpace_append, skipSpace_of_startsWord (startsWord_append word.starts rest)]
    exact .word .nil rfl hrest
  | comma hgap _ hrest _ =>
    rw [hgap.skipSpace_append, skipSpace_of_startsWord rfl]
    exact .comma .nil rfl hrest
  | noComma _ ih => exact .noComma ih

/-- A word at the start. -/
theorem exists_rest {word : Word} (h : LaidOut .none (.word word :: tokens) text) :
    ∃ rest, text = word.text ++ rest ∧ LaidOut .some tokens rest := by
  cases h with
  | word _ hlead hrest => exact ⟨_, by rw [show _ = [] from hlead]; rfl, hrest⟩

/-- The text starts as its first word does. -/
theorem head?_eq {word : Word} (h : LaidOut .none (.word word :: tokens) text) :
    text.head? = word.text.head? := by
  obtain ⟨rest, rfl, _⟩ := h.exists_rest
  cases htext : word.text with
  | nil => exact absurd word.starts (by rw [htext]; exact Bool.false_ne_true)
  | cons c front => rfl

theorem eq_nil (h : LaidOut .none [] text) : text = [] := by
  cases h with
  | nil _ hlead => exact hlead rfl

/-- Where space is due, there is no character of a word. -/
theorem head_of_some {c : Char} {rest : List Char} (h : LaidOut .some tokens (c :: rest)) :
    isBlank c = true ∨ c = '#' := by
  -- the gap in front of the first token is not empty, and the text starts with it
  generalize hlead : Lead.some = lead at h
  generalize htext : c :: rest = text at h
  induction h with
  | nil hgap _ =>
    subst htext
    exact hgap.head
  | word hgap hallows _ _ =>
    subst hlead
    obtain ⟨d, gap, rfl⟩ := List.exists_cons_of_ne_nil hallows
    rw [List.cons_append, List.cons.injEq] at htext
    exact htext.1 ▸ hgap.head
  | comma hgap hallows _ _ =>
    subst hlead
    obtain ⟨d, gap, rfl⟩ := List.exists_cons_of_ne_nil hallows
    rw [List.cons_append, List.cons.injEq] at htext
    exact htext.1 ▸ hgap.head
  | noComma _ ih => exact ih hlead htext

end LaidOut

/-- The number of words among some tokens. -/
def wordCount : List Token → Nat
  | [] => 0
  | .word _ :: rest => wordCount rest + 1
  | .maybeComma :: rest => wordCount rest

@[simp] theorem wordCount_append (front back : List Token) :
    wordCount (front ++ back) = wordCount front + wordCount back := by
  induction front with
  | nil => simp [wordCount]
  | cons token rest ih =>
    cases token with
    | word _ =>
      simp only [List.cons_append, wordCount, ih]
      omega
    | maybeComma => exact ih

/-- Every word takes a character at least. -/
theorem LaidOut.wordCount_le {lead : Lead} {tokens : List Token} {text : List Char}
    (h : LaidOut lead tokens text) : wordCount tokens ≤ text.length := by
  induction h with
  | nil _ _ => exact Nat.zero_le _
  | @word _ word _ _ _ _ _ _ ih =>
    have hne : word.text ≠ [] := by
      intro hnil
      exact absurd word.starts (by rw [hnil]; exact Bool.false_ne_true)
    have hlength := List.length_pos_of_ne_nil hne
    simp only [wordCount, List.length_append]
    omega
  | comma _ _ _ ih =>
    simp only [wordCount, List.length_append, List.length_cons]
    omega
  | noComma _ ih => exact ih

/-! ## Readers of tokens -/

section Readers

variable {α β : Type} {lead : Lead} {tokens : List Token} {follow : List Token → Prop}
  {good : α → Prop} {good' : β → Prop}

/-- A reader turns a text down. -/
def Misses (reader : Reader α) (text : List Char) : Prop :=
  ∃ labels rest, reader text = .miss labels rest

/-- A reader takes some tokens from every layout of them and of tokens behind them that may follow,
and what it answers is good. -/
def Reads (lead : Lead) (reader : Reader α) (tokens : List Token) (follow : List Token → Prop)
    (good : α → Prop) : Prop :=
  ∀ ⦃more text⦄, follow more → LaidOut lead (tokens ++ more) text →
    ∃ value rest, reader text = .done value rest ∧ good value ∧ LaidOut .some more rest

theorem bind_of_done {first : Reader α} {next : α → Reader β} {text rest : List Char} {value : α}
    (h : first text = .done value rest) : (first >>= next) text = next value rest := by
  show Reader.bind first next text = _
  rw [Reader.bind, h]

theorem optional_of_done {reader : Reader α} {text rest : List Char} {value : α}
    (h : reader text = .done value rest) : optional reader text = .done (some value) rest := by
  rw [Reader.optional, h]

theorem optional_of_misses {reader : Reader α} {text : List Char} (h : Misses reader text) :
    optional reader text = .done none text := by
  obtain ⟨labels, rest, hmiss⟩ := h
  rw [Reader.optional, hmiss]

theorem orElse_of_done {first second : Reader α} {text rest : List Char} {value : α}
    (h : first text = .done value rest) : (first <|> second) text = .done value rest := by
  show Reader.orElse first (fun _ => second) text = _
  rw [Reader.orElse, h]

theorem orElse_of_misses {first second : Reader α} {text : List Char} (h : Misses first text) :
    (first <|> second) text = second text := by
  obtain ⟨labels, rest, hmiss⟩ := h
  show Reader.orElse first (fun _ => second) text = _
  rw [Reader.orElse, hmiss]

namespace Misses

variable {reader second : Reader α} {next : α → Reader β} {text rest : List Char} {value : α}

theorem bind (h : Misses reader text) : Misses (reader >>= next) text := by
  obtain ⟨labels, rest, hmiss⟩ := h
  refine ⟨labels, rest, ?_⟩
  show Reader.bind reader next text = _
  rw [Reader.bind, hmiss]

theorem bind_of_done (hdone : reader text = .done value rest) (h : Misses (next value) rest) :
    Misses (reader >>= next) text := by
  rw [Misses, RuleText.bind_of_done hdone]
  exact h

theorem orElse (h : Misses reader text) (h' : Misses second text) :
    Misses (reader <|> second) text := by
  rw [Misses, orElse_of_misses h]
  exact h'

theorem labelled (label : Label) (h : Misses reader text) :
    Misses (labelled label reader) text := by
  obtain ⟨labels, rest, hmiss⟩ := h
  exact ⟨labels ++ [label], rest, by rw [Reader.labelled, hmiss]⟩

/-- A reader that starts with space turns a text down for what stands behind the space. -/
theorem space_bind {reader : Reader α} (h : Misses reader (skipSpace false text)) :
    Misses (do space; reader) text :=
  bind_of_done rfl h

end Misses

namespace Reads

/-- What is read with any space in front is read with a certain amount. -/
theorem ofAny {reader : Reader α} (h : Reads .any reader tokens follow good) :
    Reads lead reader tokens follow good :=
  fun _ _ hfollow hlaid => h hfollow hlaid.toAny

theorem mono {reader : Reader α} {follow' : List Token → Prop} {good' : α → Prop}
    (h : Reads lead reader tokens follow good) (hfollow : ∀ more, follow' more → follow more)
    (hgood : ∀ value, good value → good' value) : Reads lead reader tokens follow' good' := by
  intro more text hmore hlaid
  obtain ⟨value, rest, hread, hvalue, hrest⟩ := h (hfollow more hmore) hlaid
  exact ⟨value, rest, hread, hgood value hvalue, hrest⟩

/-- What is read whatever follows is read when certain tokens follow. -/
theorem ofTrue {reader : Reader α} (h : Reads lead reader tokens (fun _ => True) good) :
    Reads lead reader tokens follow good :=
  h.mono (fun _ _ => trivial) fun _ hvalue => hvalue

/-- One thing and then another. -/
theorem bind {first : Reader α} {next : α → Reader β} {tokens' : List Token}
    {follow' : List Token → Prop} (h : Reads lead first tokens follow good)
    (hnext : ∀ value, good value → Reads .some (next value) tokens' follow' good')
    (hfollow : ∀ more, follow' more → follow (tokens' ++ more)) :
    Reads lead (first >>= next) (tokens ++ tokens') follow' good' := by
  intro more text hmore hlaid
  rw [List.append_assoc] at hlaid
  obtain ⟨value, rest, hread, hvalue, hrest⟩ := h (hfollow more hmore) hlaid
  obtain ⟨value', rest', hread', hvalue', hrest'⟩ := hnext value hvalue hmore hrest
  exact ⟨value', rest', by rw [bind_of_done hread, hread'], hvalue', hrest'⟩

/-- Make something of what was read. -/
theorem bind_pure {reader : Reader α} {make : α → β} (h : Reads lead reader tokens follow good)
    (hmake : ∀ value, good value → good' (make value)) :
    Reads lead (do return make (← reader)) tokens follow good' := by
  intro more text hmore hlaid
  obtain ⟨value, rest, hread, hvalue, hrest⟩ := h hmore hlaid
  exact ⟨make value, rest, bind_of_done hread, hmake value hvalue, hrest⟩

theorem space_bind {reader : Reader α} (h : Reads .none reader tokens follow good) :
    Reads lead (do space; reader) tokens follow good :=
  fun _ _ hmore hlaid => h hmore hlaid.skipSpace

/-- A place may be marked before reading. -/
theorem bytesLeft_bind {next : Nat → Reader α}
    (h : ∀ place, Reads lead (next place) tokens follow good) :
    Reads lead (do next (← bytesLeft)) tokens follow good :=
  fun _ _ hmore hlaid => h _ hmore hlaid

theorem labelled {reader : Reader α} (label : Label) (h : Reads lead reader tokens follow good) :
    Reads lead (labelled label reader) tokens follow good := by
  intro more text hmore hlaid
  obtain ⟨value, rest, hread, hvalue, hrest⟩ := h hmore hlaid
  exact ⟨value, rest, by rw [Reader.labelled, hread], hvalue, hrest⟩

theorem must {reader : Reader α} (h : Reads lead reader tokens follow good) :
    Reads lead (must reader) tokens follow good := by
  intro more text hmore hlaid
  obtain ⟨value, rest, hread, hvalue, hrest⟩ := h hmore hlaid
  exact ⟨value, rest, by rw [Reader.must, hread], hvalue, hrest⟩

theorem optional {reader : Reader α} (h : Reads lead reader tokens follow good) :
    Reads lead (optional reader) tokens follow
      fun found => ∃ value, found = some value ∧ good value := by
  intro more text hmore hlaid
  obtain ⟨value, rest, hread, hvalue, hrest⟩ := h hmore hlaid
  exact ⟨some value, rest, optional_of_done hread, ⟨value, rfl, hvalue⟩, hrest⟩

/-- Nothing is taken when what may be missing is turned down. -/
theorem optional_none {reader : Reader α}
    (h : ∀ more text, follow more → LaidOut .some more text → Misses reader text) :
    Reads .some (Reader.optional reader) [] follow fun found => found = none := by
  intro more text hmore hlaid
  exact ⟨none, text, optional_of_misses (h more text hmore hlaid), rfl, hlaid⟩

/-- The first of two ways. -/
theorem orElse_left {first second : Reader α} (h : Reads lead first tokens follow good) :
    Reads lead (first <|> second) tokens follow good := by
  intro more text hmore hlaid
  obtain ⟨value, rest, hread, hvalue, hrest⟩ := h hmore hlaid
  exact ⟨value, rest, orElse_of_done hread, hvalue, hrest⟩

/-- The second of two ways, where the first turns the text down. -/
theorem orElse_right {first second : Reader α}
    (hmiss : ∀ more text, LaidOut lead (tokens ++ more) text → Misses first text)
    (h : Reads lead second tokens follow good) :
    Reads lead (first <|> second) tokens follow good := by
  intro more text hmore hlaid
  obtain ⟨value, rest, hread, hvalue, hrest⟩ := h hmore hlaid
  exact ⟨value, rest, by rw [orElse_of_misses (hmiss more text hlaid), hread], hvalue, hrest⟩

end Reads

/-! ## Sequences -/

/-- No layout of the tokens starts with a certain character. -/
def NotAhead (c : Char) (tokens : List Token) : Prop :=
  ∀ text, LaidOut .none tokens text → text.head? ≠ some c

theorem notAhead_word {c : Char} {word : Word} {tokens : List Token}
    (h : word.text.head? ≠ some c) : NotAhead c (.word word :: tokens) := by
  intro text hlaid
  rw [hlaid.head?_eq]
  exact h

variable {ι : Type} {items : List ι} {tokensOf : ι → List Token} {itemFollow : List Token → Prop}
  {itemGood : ι → α → Prop}

private theorem manyWithin_of_misses {reader : Reader α} {fuel : Nat} {text : List Char}
    (h : Misses reader text) : manyWithin reader (fuel + 1) text = .done [] text := by
  obtain ⟨labels, rest, hmiss⟩ := h
  simp only [manyWithin, hmiss]

private theorem manyWithin_of_done {reader : Reader α} {fuel : Nat} {text rest rest' : List Char}
    {value : α} {values : List α} (h : reader text = .done value rest)
    (h' : manyWithin reader fuel rest = .done values rest') :
    manyWithin reader (fuel + 1) text = .done (value :: values) rest' := by
  simp only [manyWithin, h, h']

/-- What stands behind an item may follow it: further items or the end. -/
private theorem itemFollow_flatMap {more : List Token}
    (hnext : ∀ item more, itemFollow (tokensOf item ++ more)) (hend : itemFollow more) :
    itemFollow (items.flatMap tokensOf ++ more) := by
  cases items with
  | nil => exact hend
  | cons item items =>
    rw [List.flatMap_cons, List.append_assoc]
    exact hnext item _

private theorem reads_manyWithin {reader : Reader α}
    (hitems : ∀ item ∈ items, Reads .some reader (tokensOf item) itemFollow (itemGood item))
    (hnext : ∀ item more, itemFollow (tokensOf item ++ more))
    (hend : ∀ more, follow more → itemFollow more)
    (hmiss : ∀ more text, follow more → LaidOut .some more text → Misses reader text)
    {fuel : Nat} (hfuel : items.length ≤ fuel) {more : List Token} {text : List Char}
    (hmore : follow more) (hlaid : LaidOut .some (items.flatMap tokensOf ++ more) text) :
    ∃ values rest, manyWithin reader fuel text = .done values rest ∧
      List.Forall₂ itemGood items values ∧ LaidOut .some more rest := by
  -- the text that is left changes with every item, and the fuel with it
  induction items generalizing text fuel with
  | nil =>
    refine ⟨[], text, ?_, .nil, hlaid⟩
    cases fuel with
    | zero => rfl
    | succ fuel => exact manyWithin_of_misses (hmiss more text hmore hlaid)
  | cons item items ih =>
    cases fuel with
    | zero => exact absurd hfuel (Nat.not_succ_le_zero _)
    | succ fuel =>
      rw [List.flatMap_cons, List.append_assoc] at hlaid
      have hbehind : itemFollow (items.flatMap tokensOf ++ more) :=
        itemFollow_flatMap hnext (hend more hmore)
      obtain ⟨value, rest, hread, hvalue, hrest⟩ :=
        hitems item List.mem_cons_self hbehind hlaid
      obtain ⟨values, rest', hreads, hvalues, hrest'⟩ :=
        ih (fun item hitem => hitems item (List.mem_cons_of_mem _ hitem))
          (Nat.le_of_succ_le_succ hfuel) hrest
      exact ⟨value :: values, rest', manyWithin_of_done hread hreads, .cons hvalue hvalues, hrest'⟩

private theorem length_le_wordCount_flatMap (hwords : ∀ item, 0 < wordCount (tokensOf item)) :
    items.length ≤ wordCount (items.flatMap tokensOf) := by
  induction items with
  | nil => exact Nat.zero_le _
  | cons item items ih =>
    have hitem := hwords item
    rw [List.flatMap_cons, wordCount_append, List.length_cons]
    omega

/-- Any number of items, read until the reader turns down what is left. -/
theorem Reads.many {reader : Reader α}
    (hitems : ∀ item ∈ items, Reads .some reader (tokensOf item) itemFollow (itemGood item))
    (hnext : ∀ item more, itemFollow (tokensOf item ++ more))
    (hend : ∀ more, follow more → itemFollow more)
    (hmiss : ∀ more text, follow more → LaidOut .some more text → Misses reader text)
    (hwords : ∀ item, 0 < wordCount (tokensOf item)) :
    Reads .some (many reader) (items.flatMap tokensOf) follow
      fun values => List.Forall₂ itemGood items values := by
  intro more text hmore hlaid
  -- every item has a word and every word takes a character, so there is fuel for all items
  have hcount := hlaid.wordCount_le
  have hlength : items.length ≤ wordCount (items.flatMap tokensOf) :=
    length_le_wordCount_flatMap hwords
  rw [wordCount_append] at hcount
  exact reads_manyWithin hitems hnext hend hmiss (by omega) hmore hlaid

/-- An item and any number of further ones, which another reader takes. -/
theorem Reads.sequence {reader further : Reader α} {first : ι} {firstTokens : List Token}
    (hfirst : Reads lead reader firstTokens itemFollow (itemGood first))
    (hitems : ∀ item ∈ items, Reads .some further (tokensOf item) itemFollow (itemGood item))
    (hnext : ∀ item more, itemFollow (tokensOf item ++ more))
    (hend : ∀ more, follow more → itemFollow more)
    (hmiss : ∀ more text, follow more → LaidOut .some more text → Misses further text)
    (hwords : ∀ item, 0 < wordCount (tokensOf item)) :
    Reads lead (do let value ← reader; let values ← Reader.many further; return value :: values)
      (firstTokens ++ items.flatMap tokensOf) follow
      fun values => List.Forall₂ itemGood (first :: items) values := by
  refine hfirst.bind (fun value hvalue => ?_) fun more hmore => ?_
  · exact (Reads.many hitems hnext hend hmiss hwords).bind_pure
      fun _ hvalues => .cons hvalue hvalues
  · exact itemFollow_flatMap hnext (hend more hmore)

end Readers

end ClipSplice.RuleText
