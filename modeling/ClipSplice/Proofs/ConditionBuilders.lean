import ClipSplice.Rule.Condition

/-!
# Conditions put together

What `Condition.and` and `Condition.or` make of two conditions. A list of alternatives may be empty,
for it then holds never, as the first of two alternatives should. A list of conditions that must all
hold does not hold either when it is empty, but it takes in a further condition as its only member:
there, and nowhere else, `and` is no conjunction (`Condition.holds_iff_of_and_of_or`).
-/

namespace ClipSplice.Condition

variable {a : Condition}

theorem holds_or (a b : Condition) (name : String) (now : Instant) :
    (a.or b).holds name now = (a.holds name now || b.holds name now) := by
  cases a with
  | any members => rw [or, holds_any, holds_any, List.any_append, List.any_cons, List.any_nil,
      Bool.or_false]
  | regex _ | glob _ | all _ | negation _ | during _ =>
    rw [or, holds_any, List.any_cons, List.any_cons, List.any_nil, Bool.or_false]
    exact nofun

/-- Behind the empty list a condition stands alone. -/
theorem holds_nil_and (b : Condition) (name : String) (now : Instant) :
    ((all []).and b).holds name now = b.holds name now := by
  rw [and, List.nil_append, holds_all, List.all_cons, List.all_nil, Bool.and_true]
  rfl

theorem holds_and (hne : a ≠ all []) (b : Condition) (name : String) (now : Instant) :
    (a.and b).holds name now = (a.holds name now && b.holds name now) := by
  cases a with
  | all members =>
    obtain ⟨first, rest, rfl⟩ := List.exists_cons_of_ne_nil fun hnil => hne (hnil ▸ rfl)
    simp [and, holds_all, Bool.and_assoc]
  | regex _ | glob _ | any _ | negation _ | during _ =>
    rw [and, holds_all]
    · simp
    · exact nofun

/-! ## Two conditions -/

/-- `or` is the disjunction of any two conditions. `and` is their conjunction, and its negation the
disjunction of their negations, in all cases but one: the first condition is the empty list and the
second one holds. -/
theorem holds_iff_of_and_of_or (a b : Condition) (name : String) (now : Instant) :
    ((a.and b).holds name now = (a.holds name now && b.holds name now) ↔
        ¬(a = all [] ∧ b.holds name now = true)) ∧
      (a.or b).holds name now = (a.holds name now || b.holds name now) ∧
      ((negation (a.and b)).holds name now = ((negation a).or (negation b)).holds name now ↔
        ¬(a = all [] ∧ b.holds name now = true)) := by
  by_cases hne : a = all []
  · subst hne
    have hnever : (all []).holds name now = false := by rw [holds_all]; rfl
    rw [holds_or, holds_or, holds_negation, holds_negation, holds_negation, holds_nil_and, hnever]
    cases b.holds name now <;> simp
  · rw [holds_or, holds_or, holds_negation, holds_negation, holds_negation, holds_and hne]
    simp [hne]

/-- The empty list, which does not hold, followed by a condition that does. -/
theorem holds_and_nil_ne :
    let always : Condition := negation (any [])
    (all []).holds "a" .first = false ∧ always.holds "a" .first = true ∧
      ((all []).and always).holds "a" .first = true ∧
      (negation ((all []).and always)).holds "a" .first = false ∧
      ((negation (all [])).or (negation always)).holds "a" .first = true := by
  decide +kernel

end ClipSplice.Condition
