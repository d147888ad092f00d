import ClipSplice.RuleText.Reply
import Mathlib

/-!
# The steps of a reader

From what a reader gave, what its parts gave: one lemma for each way in which readers are put
together. A repetition is taken apart by `ReadsAll`, which keeps where each value begins.
-/

namespace ClipSplice.RuleText.Reader

variable {α β : Type} {reader other : Reader α} {text rest : List Char} {value : α}

theorem bind_eq_done_iff {next : α → Reader β} {result : β} :
    (reader >>= next) text = .done result rest ↔
      ∃ value behind, reader text = .done value behind ∧ next value behind = .done result rest := by
  change Reader.bind reader next text = _ ↔ _
  unfold Reader.bind
  cases hread : reader text <;> simp

/-- Making something of what was read takes nothing more. -/
theorem bind_pure_eq_done_iff {make : α → β} {result : β} :
    (do return make (← reader) : Reader β) text = .done result rest ↔
      ∃ value, reader text = .done value rest ∧ make value = result := by
  rw [bind_eq_done_iff]
  constructor
  · rintro ⟨value, behind, hread, hmake⟩
    cases hmake
    exact ⟨value, hread, rfl⟩
  · rintro ⟨value, hread, rfl⟩
    exact ⟨value, rest, hread, rfl⟩

/-- The second way is taken when the first one misses. -/
theorem orElse_eq_done_iff :
    (reader <|> other) text = .done value rest ↔ reader text = .done value rest ∨
      (∃ labels behind, reader text = .miss labels behind) ∧ other text = .done value rest := by
  change Reader.orElse reader (fun _ => other) text = _ ↔ _
  unfold Reader.orElse
  cases hread : reader text <;> simp

theorem optional_eq_done_iff {found : Option α} :
    optional reader text = .done found rest ↔
      (∃ value, found = some value ∧ reader text = .done value rest) ∨
      found = none ∧ rest = text ∧ ∃ labels behind, reader text = .miss labels behind := by
  unfold optional
  cases hread : reader text <;> cases found <;> simp [eq_comm]

@[simp] theorem must_eq_done_iff : must reader text = .done value rest ↔
    reader text = .done value rest := by
  unfold must
  cases hread : reader text <;> simp

@[simp] theorem labelled_eq_done_iff {label : Label} :
    labelled label reader text = .done value rest ↔ reader text = .done value rest := by
  unfold labelled
  cases hread : reader text <;> simp

theorem charWith_eq_done_iff {test : Char → Bool} {c : Char} :
    charWith test text = .done c rest ↔ text = c :: rest ∧ test c = true := by
  cases text with
  | nil => simp [charWith]
  | cons d text =>
    rw [charWith]
    by_cases hd : test d = true
    · rw [if_pos hd]
      constructor
      · rintro ⟨⟩
        exact ⟨rfl, hd⟩
      · rintro ⟨hsame, -⟩
        cases hsame
        rfl
    · rw [if_neg hd]
      refine iff_of_false nofun ?_
      rintro ⟨hsame, hc⟩
      cases hsame
      exact hd hc

theorem char_eq_done_iff {c : Char} : char c text = .done () rest ↔ text = c :: rest := by
  unfold char
  rw [bind_eq_done_iff]
  constructor
  · rintro ⟨d, behind, hread, hdone⟩
    obtain ⟨rfl, hd⟩ := charWith_eq_done_iff.1 hread
    cases hdone
    rw [of_decide_eq_true hd]
  · rintro rfl
    exact ⟨c, rest, charWith_eq_done_iff.2 ⟨rfl, decide_eq_true rfl⟩, rfl⟩

theorem exactly_eq_done_iff {start : List Char} :
    exactly start text = .done () rest ↔ text = start ++ rest := by
  unfold exactly
  rw [← Text.after?_eq_some_iff]
  cases Text.after? start text <;> simp

/-! ## Repetitions -/

/-- A reader reads some values, one behind the other. -/
inductive ReadsAll (reader : Reader α) : List α → (text rest : List Char) → Prop where
  | nil {text : List Char} : ReadsAll reader [] text text
  | cons {value : α} {values : List α} {text behind rest : List Char}
    (hread : reader text = .done value behind) (hrest : ReadsAll reader values behind rest) :
    ReadsAll reader (value :: values) text rest

theorem readsAll_of_many {values : List α} (h : many reader text = .done values rest) :
    ReadsAll reader values text rest := by
  have hwithin : ∀ fuel text values, manyWithin reader fuel text = .done values rest →
      ReadsAll reader values text rest := by
    intro fuel
    induction fuel with
    | zero =>
      intro text values hread
      cases hread
      exact .nil
    | succ fuel ih =>
      intro text values hread
      unfold manyWithin at hread
      split at hread
      · rename_i value behind hfirst
        split at hread
        · rename_i more behind' hmore
          cases hread
          exact .cons hfirst (ih behind more hmore)
        · rename_i hnever
          exact absurd hread (hnever _ _)
      · cases hread
        exact .nil
      · cases hread
  exact hwithin text.length text values h

theorem separated_eq_done {separator : Reader Unit} {values : List α}
    (h : separated separator reader text = .done values rest) :
    ∃ first more behind, values = first :: more ∧ reader text = .done first behind ∧
      ReadsAll (do separator; reader) more behind rest := by
  obtain ⟨first, behind, hfirst, h⟩ := bind_eq_done_iff.1 h
  obtain ⟨more, hmore, rfl⟩ := bind_pure_eq_done_iff.1 h
  exact ⟨first, more, behind, rfl, hfirst, readsAll_of_many hmore⟩

end ClipSplice.RuleText.Reader
