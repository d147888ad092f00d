import ClipSplice.Regex.SetReader

/-!
# Reading sets

How a set between brackets begins and goes on. Its beginning is read up to its hyphens and then by
`openBehind`; after that, what is neither a bracket nor a doubled operator is an item
(`readOpenSet_item`).
-/

namespace ClipSplice.Regex

/-- The beginning of a set behind its hyphens. -/
def openBehind (free negated : Bool) : List SetTree × List Char → Option (OpenSet × List Char)
  | (_, []) => none
  | ([], ']' :: rest) =>
    if (skip free rest).isEmpty then none
    else some ({ negated, items := [.literal ⟨']', false⟩] }, skip free rest)
  | (hyphens, rest) => some ({ negated, items := hyphens.reverse }, rest)

theorem openSet_eq_of_mark {free : Bool} {text rest : List Char}
    (hmark : skip free text = '^' :: rest) :
    openSet free text = openBehind free true (takeHyphens free false (skip free rest)) := by
  rw [openSet, hmark]
  rfl

theorem openSet_eq_of_head? {free : Bool} {text : List Char}
    (hmark : (skip free text).head? ≠ some '^') :
    openSet free text = openBehind free false (takeHyphens free false (skip free text)) := by
  rcases hstart : skip free text with _ | ⟨c, rest⟩
  · rw [openSet, hstart]
    rfl
  · have hc : c ≠ '^' := by
      rintro rfl
      exact hmark (by rw [hstart]; rfl)
    simp only [openSet, hstart, List.cons.injEq, hc, false_and, imp_false, not_false_eq_true,
      implies_true]
    rfl

theorem openBehind_eq_some {free negated : Bool} {hyphens : List SetTree} {after : List Char}
    (hafter : after ≠ []) (hopen : hyphens = [] → after.head? ≠ some ']') :
    openBehind free negated (hyphens, after) =
      some ({ negated, items := hyphens.reverse }, after) := by
  unfold openBehind
  split
  · rename_i heq
    cases heq
    exact absurd rfl hafter
  · rename_i heq
    cases heq
    exact absurd rfl (hopen rfl)
  · rename_i heq
    cases heq
    rfl

theorem readOpenSet_bracket {free : Bool} {set : OpenSet} {outer : List OpenSet} {fuel : Nat}
    {text rest : List Char} (hskip : skip free text = '[' :: rest) :
    readOpenSet free set outer (fuel + 1) text =
      match readAsciiSet? rest with
      | some (item, after) => readOpenSet free (set.push item) outer fuel after
      | none => (openSet free rest).bind fun (inside, after) =>
        readOpenSet free inside (set :: outer) fuel after := by
  rw [readOpenSet, hskip]
  split
  case h_2 heq =>
    cases heq
    cases readAsciiSet? rest with
    | some read => rfl
    | none => cases openSet free rest <;> rfl
  case h_7 hbracket _ _ _ _ => exact absurd rfl (hbracket rest)
  all_goals
    rename_i heq
    cases heq

/-- What is neither a bracket nor one of the doubled operators is an item. -/
theorem readOpenSet_item {free : Bool} {set : OpenSet} {outer : List OpenSet} {fuel : Nat}
    {text rest : List Char} {c : Char} (hskip : skip free text = c :: rest) (hopen : c ≠ '[')
    (hclose : c ≠ ']') (hsingle : c ∈ ['&', '-', '~'] → rest.head? ≠ some c) :
    readOpenSet free set outer (fuel + 1) text =
      (readSetItem free (c :: rest)).bind fun (item, after) =>
        readOpenSet free (set.push item) outer fuel after := by
  rw [readOpenSet, hskip]
  split
  case h_1 heq => cases heq
  case h_2 heq => exact absurd (List.cons.inj heq).1 hopen
  case h_3 heq => exact absurd (List.cons.inj heq).1 hclose
  case h_7 => cases readSetItem free (c :: rest) <;> rfl
  -- a doubled operator
  all_goals
    rename_i heq
    cases heq
    exact absurd rfl (hsingle (by simp))

end ClipSplice.Regex
