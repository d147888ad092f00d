import ClipSplice.Rule.Basic

/-!
# Rules as decision lists

A rule tree is a decision list: its leaves from left to right, each with the conditions on the way
to it. `Condition.isTrue` reads a condition as a Boolean formula and `Condition.choice?` tells which
regular expression fills the clips of a leaf. `Rule.playlist?_eq_find?_leaves` says that evaluating
a rule finds the first leaf all of whose conditions are true.
-/

namespace ClipSplice

namespace Condition

variable (name : String) (now : Instant)

/-! ## Conditions as Boolean formulas -/

mutual

/-- Whether a condition is true of a name at an instant. -/
def isTrue : Condition → Bool
  | regex r => r.regex.isMatch name
  | glob g => g.isMatch name
  | all members => !members.isEmpty && allTrue members
  | any members => anyTrue members
  | negation inner => !isTrue inner
  | during range => range.holds name now

/-- Whether all of some conditions are true. -/
def allTrue : List Condition → Bool
  | [] => true
  | condition :: rest => isTrue condition && allTrue rest

/-- Whether one of some conditions is true. -/
def anyTrue : List Condition → Bool
  | [] => false
  | condition :: rest => isTrue condition || anyTrue rest

end

/-! ## The regular expression that fills clips -/

mutual

/-- The regular expression whose groups fill the clips of a rule with a true condition: that of the
last member where all must hold, that of the first true member where one must hold. -/
def choice? : Condition → Option AnchoredRegex
  | regex r => some r
  | all members => lastChoice? members
  | any members => firstChoice? members
  | glob _ | negation _ | during _ => none

/-- The choice of the last of some conditions. -/
def lastChoice? : List Condition → Option AnchoredRegex
  | [] => none
  | [condition] => choice? condition
  | _ :: rest => lastChoice? rest

/-- The choice of the first of some conditions that is true. -/
def firstChoice? : List Condition → Option AnchoredRegex
  | [] => none
  | condition :: rest => if isTrue name now condition then choice? condition else firstChoice? rest

end

/-- How a true condition holds, given the regular expression chosen from it. -/
def outcomeOf : Option AnchoredRegex → Option Outcome
  | none => some .plain
  | some r => (r.regex.find? name).map .captured

/-! ## Checking agrees with this reading -/

mutual

theorem holds_eq_isTrue (condition : Condition) :
    condition.holds name now = isTrue name now condition := by
  cases condition with
  | regex r => rw [holds, check, isTrue, Regex.isMatch, Option.isSome_map]
  | glob g =>
    rw [holds, check, isTrue]
    cases g.isMatch name <;> rfl
  | all members => rw [holds_all, isTrue, all_holds_eq_allTrue members]
  | any members => rw [holds_any, isTrue, any_holds_eq_anyTrue members]
  | negation inner => rw [holds_negation, isTrue, holds_eq_isTrue inner]
  | during range =>
    rw [holds, check, isTrue]
    cases range.holds name now <;> rfl

theorem all_holds_eq_allTrue (members : List Condition) :
    members.all (holds · name now) = allTrue name now members := by
  cases members with
  | nil => rw [allTrue]; rfl
  | cons condition rest =>
    rw [List.all_cons, allTrue, holds_eq_isTrue condition, all_holds_eq_allTrue rest]

theorem any_holds_eq_anyTrue (members : List Condition) :
    members.any (holds · name now) = anyTrue name now members := by
  cases members with
  | nil => rw [anyTrue]; rfl
  | cons condition rest =>
    rw [List.any_cons, anyTrue, holds_eq_isTrue condition, any_holds_eq_anyTrue rest]

end

variable {name : String} {now : Instant}

theorem check_isSome (condition : Condition) :
    (check name now condition).isSome = isTrue name now condition :=
  holds_eq_isTrue name now condition

mutual

/-- A true condition holds as the regular expression chosen from it matches. -/
theorem check_of_isTrue {condition : Condition} (htrue : isTrue name now condition) :
    check name now condition = outcomeOf name (choice? name now condition) := by
  cases condition with
  | regex r => rw [check, choice?, outcomeOf]
  | glob g =>
    rw [isTrue] at htrue
    rw [check, if_pos htrue, choice?, outcomeOf]
  | all members =>
    rw [isTrue, Bool.and_eq_true, Bool.not_eq_true', List.isEmpty_eq_false_iff] at htrue
    rw [check, choice?, checkAll_of_allTrue htrue.1 htrue.2]
  | any members =>
    rw [isTrue] at htrue
    rw [check, choice?, checkAny_of_anyTrue htrue]
  | negation inner =>
    rw [isTrue, ← check_isSome, Bool.not_eq_true'] at htrue
    rw [check, htrue, choice?, outcomeOf]
    rfl
  | during range =>
    rw [isTrue] at htrue
    rw [check, if_pos htrue, choice?, outcomeOf]

theorem checkAll_of_allTrue {members : List Condition} (hne : members ≠ [])
    (htrue : allTrue name now members) :
    checkAll name now members = outcomeOf name (lastChoice? name now members) := by
  match members with
  | [] => exact absurd rfl hne
  | [condition] =>
    rw [allTrue, allTrue, Bool.and_true] at htrue
    rw [checkAll, lastChoice?, check_of_isTrue htrue]
  | condition :: next :: rest =>
    rw [allTrue, Bool.and_eq_true] at htrue
    have hhere : (check name now condition).isSome := by rw [check_isSome, htrue.1]
    -- how this member holds is forgotten: only the last one fills clips
    rw [checkAll, if_pos hhere, lastChoice?,
      checkAll_of_allTrue (List.cons_ne_nil next rest) htrue.2]
    all_goals exact fun h => absurd h (List.cons_ne_nil next rest)

theorem checkAny_of_anyTrue {members : List Condition} (htrue : anyTrue name now members) :
    checkAny name now members = outcomeOf name (firstChoice? name now members) := by
  cases members with
  | nil => rw [anyTrue] at htrue; cases htrue
  | cons condition rest =>
    rw [checkAny, firstChoice?]
    by_cases hhere : isTrue name now condition
    · have hsome : (check name now condition).isSome := by rw [check_isSome, hhere]
      obtain ⟨outcome, houtcome⟩ := Option.isSome_iff_exists.1 hsome
      -- the first true member ends the search, so the others are not even checked
      rw [if_pos hhere, ← check_of_isTrue hhere, houtcome]
      rfl
    · have hnone : check name now condition = none := by
        rw [← Option.not_isSome_iff_eq_none, check_isSome]
        exact hhere
      rw [anyTrue, Bool.or_eq_true] at htrue
      rw [if_neg hhere, hnone, ← checkAny_of_anyTrue (htrue.resolve_left hhere)]
      rfl

end

/-- A check succeeds just when the condition is true, with the match of the regular expression
chosen from it. -/
theorem check_eq (condition : Condition) :
    check name now condition =
      if isTrue name now condition then outcomeOf name (choice? name now condition) else none := by
  by_cases htrue : isTrue name now condition
  · rw [if_pos htrue, check_of_isTrue htrue]
  · rw [if_neg htrue, ← Option.not_isSome_iff_eq_none, check_isSome]
    exact htrue

/-- The regular expression chosen from a true condition matches the name. -/
theorem isMatch_of_choice? {condition : Condition} (htrue : isTrue name now condition)
    {r : AnchoredRegex} (hchoice : choice? name now condition = some r) :
    r.regex.isMatch name := by
  have hsome : (check name now condition).isSome := by rw [check_isSome, htrue]
  rwa [check_of_isTrue htrue, hchoice, outcomeOf, Option.isSome_map] at hsome

end Condition

/-! ## Leaves -/

/-- A leaf of a rule tree: clips before and after the file. -/
structure Leaf where
  /-- The conditions of the lists that hold the leaf, the outermost one first. -/
  guards : List Condition
  /-- The leaf's own condition. -/
  own : Option Condition
  pre : List String
  post : List String

namespace Leaf

/-- A leaf of a list with a condition. -/
def under (guard : Option Condition) (leaf : Leaf) : Leaf :=
  { leaf with guards := guard.toList ++ leaf.guards }

/-- All conditions on the way to the leaf. -/
def path (leaf : Leaf) : List Condition := leaf.guards ++ leaf.own.toList

variable (name : String) (now : Instant) (leaf : Leaf)

/-- Whether all conditions on the way to the leaf are true. -/
def applies : Bool := leaf.path.all (Condition.isTrue name now)

/-- The regular expression that fills the clips of the leaf, if one does. Only the leaf's own
condition can give one. -/
def choice? : Option AnchoredRegex := leaf.own.bind (Condition.choice? name now)

/-- What that regular expression matches. -/
def found? : Option Regex.Match := (leaf.choice? name now).bind fun r => r.regex.find? name

/-- A clip of the leaf: its template, filled if there is a match. -/
def clip (template : String) : Symbol :=
  match leaf.found? name now with
  | none => .clip template
  | some found => .clip (expandTemplate found template)

/-- The playlist of the leaf. -/
def playlist : List Symbol :=
  leaf.pre.map (leaf.clip name now) ++ [.original name] ++ leaf.post.map (leaf.clip name now)

end Leaf

namespace Rule

mutual

/-- The leaves of a rule from left to right. -/
def leaves : Rule → List Leaf
  | default => [⟨[], none, [], []⟩]
  | clips condition pre post => [⟨[], condition, pre, post⟩]
  | list condition rules => (leavesOf rules).map (Leaf.under condition)

/-- The leaves of some rules from left to right. -/
def leavesOf : List Rule → List Leaf
  | [] => []
  | rule :: rest => leaves rule ++ leavesOf rest

end

variable (name : String) (now : Instant)

/-- Whether a condition that may be missing is true. -/
def guardTrue (guard : Option Condition) : Bool := guard.toList.all (Condition.isTrue name now)

theorem guard_isSome (condition : Option Condition) :
    (guard condition name now).isSome = guardTrue name now condition := by
  cases condition with
  | none => rfl
  | some condition =>
    rw [guard, Condition.check_isSome, guardTrue, Option.toList_some, List.all_cons, List.all_nil,
      Bool.and_true]

/-- The guard of a rule leaves what fills the clips of its leaf. -/
theorem exists_outcome_of_guardTrue {condition : Option Condition}
    (htrue : guardTrue name now condition) (pre post : List String) :
    ∃ outcome, guard condition name now = some outcome ∧
      clipOf outcome = Leaf.clip name now ⟨[], condition, pre, post⟩ := by
  cases condition with
  | none => exact ⟨.plain, rfl, rfl⟩
  | some condition =>
    rw [guardTrue, Option.toList_some, List.all_cons, List.all_nil, Bool.and_true] at htrue
    have hcheck := Condition.check_of_isTrue htrue
    cases hchoice : Condition.choice? name now condition with
    | none =>
      refine ⟨.plain, by rw [guard, hcheck, hchoice]; rfl, ?_⟩
      funext template
      simp only [clipOf, Leaf.clip, Leaf.found?, Leaf.choice?, Option.bind_some, hchoice,
        Option.bind_none]
    | some r =>
      have hmatch := Condition.isMatch_of_choice? htrue hchoice
      obtain ⟨found, hfound⟩ := Option.isSome_iff_exists.1 hmatch
      refine ⟨.captured found, by rw [guard, hcheck, hchoice, Condition.outcomeOf, hfound]; rfl, ?_⟩
      funext template
      simp only [clipOf, Leaf.clip, Leaf.found?, Leaf.choice?, Option.bind_some, hchoice, hfound]

/-! ## The first leaf that applies -/

/-- A condition in front of some leaves hides all of them or none. -/
theorem find?_map_under (guard : Option Condition) (leaves : List Leaf) :
    (leaves.map (Leaf.under guard)).find? (Leaf.applies name now) =
      if guardTrue name now guard then
        (leaves.find? (Leaf.applies name now)).map (Leaf.under guard)
      else none := by
  have happlies : ∀ leaf, (Leaf.applies name now (Leaf.under guard leaf)) =
      (guardTrue name now guard && Leaf.applies name now leaf) := fun leaf => by
    simp only [Leaf.applies, Leaf.path, Leaf.under, List.all_append, guardTrue, Bool.and_assoc]
  rw [List.find?_map]
  by_cases htrue : guardTrue name now guard
  · rw [if_pos htrue]
    congr 2
    funext leaf
    rw [Function.comp, happlies, htrue, Bool.true_and]
  · rw [if_neg htrue, Option.map_eq_none_iff, List.find?_eq_none]
    intro leaf _
    rw [Function.comp, happlies, Bool.eq_false_iff.2 htrue, Bool.false_and]
    exact Bool.false_ne_true

mutual

/-- A rule plays its first leaf that applies. -/
theorem playlist?_eq_find?_leaves (rule : Rule) :
    playlist? name now rule =
      (rule.leaves.find? (Leaf.applies name now)).map (Leaf.playlist name now) := by
  cases rule with
  | default => rw [playlist?, leaves]; rfl
  | clips condition pre post =>
    rw [playlist?, leaves, List.find?_singleton]
    by_cases htrue : guardTrue name now condition
    · obtain ⟨outcome, hguard, hclip⟩ :=
        exists_outcome_of_guardTrue name now htrue pre post
      have happlies : Leaf.applies name now ⟨[], condition, pre, post⟩ := htrue
      rw [if_pos happlies, hguard, Option.map_some, Option.map_some, hclip, Leaf.playlist,
        List.append_assoc]
      rfl
    · have hnone : ¬ Leaf.applies name now ⟨[], condition, pre, post⟩ := htrue
      have hguard : guard condition name now = none := by
        rw [← Option.not_isSome_iff_eq_none, guard_isSome]
        exact htrue
      rw [if_neg hnone, hguard, Option.map_none, Option.map_none]
  | list condition rules =>
    -- a list that holds without a member that does is passed over, as one that does not hold
    rw [playlist?, leaves, guard_isSome, firstPlaylist?_eq_find?_leavesOf rules, find?_map_under]
    by_cases htrue : guardTrue name now condition
    · rw [if_pos htrue, if_pos htrue, Option.map_map]
      rfl
    · rw [if_neg htrue, if_neg htrue, Option.map_none]

/-- Some rules play their first leaf that applies. -/
theorem firstPlaylist?_eq_find?_leavesOf (rules : List Rule) :
    firstPlaylist? name now rules =
      ((leavesOf rules).find? (Leaf.applies name now)).map (Leaf.playlist name now) := by
  cases rules with
  | nil => rw [firstPlaylist?, leavesOf]; rfl
  | cons rule rest =>
    rw [firstPlaylist?, leavesOf, List.find?_append, playlist?_eq_find?_leaves rule,
      firstPlaylist?_eq_find?_leavesOf rest]
    cases rule.leaves.find? (Leaf.applies name now) <;> rfl

end

end Rule

/-- A playlist holds its name once, as the only original. -/
theorem Leaf.filter_isOriginal_playlist (name : String) (now : Instant) (leaf : Leaf) :
    (leaf.playlist name now).filter Symbol.isOriginal = [.original name] := by
  have hclips : ∀ templates : List String,
      (templates.map (leaf.clip name now)).filter Symbol.isOriginal = [] := by
    intro templates
    rw [List.filter_eq_nil_iff]
    intro symbol hmem
    obtain ⟨template, -, rfl⟩ := List.mem_map.1 hmem
    rw [Leaf.clip]
    split <;> exact Bool.false_ne_true
  rw [Leaf.playlist, List.filter_append, List.filter_append, hclips, hclips]
  rfl

/-- The regular expression that fills the clips of a leaf that applies matches the name. -/
theorem Leaf.isMatch_of_choice? {name : String} {now : Instant} {leaf : Leaf}
    (happlies : leaf.applies name now) {r : AnchoredRegex}
    (hchoice : leaf.choice? name now = some r) : r.regex.isMatch name := by
  obtain ⟨condition, hown, hcondition⟩ := Option.bind_eq_some_iff.1 hchoice
  -- the leaf's own condition is the last one on the way to it
  rw [Leaf.applies, Leaf.path, List.all_append, Bool.and_eq_true, hown, Option.toList_some,
    List.all_cons, Bool.and_eq_true] at happlies
  exact Condition.isMatch_of_choice? happlies.2.1 hcondition

/-- A rule is the decision list of its leaves. It plays the first leaf whose conditions are all
true, and does not apply when there is none. The playlist of a leaf has its name as the only
original, and the regular expression that fills its clips does match. -/
theorem Rule.playlist?_decisionList (rule : Rule) (name : String) (now : Instant) :
    playlist? name now rule =
        (rule.leaves.find? (Leaf.applies name now)).map (Leaf.playlist name now) ∧
      (playlist? name now rule = none ↔
        ∀ leaf ∈ rule.leaves, ¬ leaf.path.all (Condition.isTrue name now)) ∧
      ∀ leaf ∈ rule.leaves,
        (leaf.playlist name now).filter Symbol.isOriginal = [.original name] ∧
          (leaf.applies name now → ∀ r, leaf.choice? name now = some r → r.regex.isMatch name) := by
  have hfind := playlist?_eq_find?_leaves name now rule
  refine ⟨hfind, ?_, fun leaf _ => ⟨leaf.filter_isOriginal_playlist name now, ?_⟩⟩
  · rw [hfind, Option.map_eq_none_iff, List.find?_eq_none]
    exact Iff.rfl
  · intro happlies r hchoice
    exact Leaf.isMatch_of_choice? happlies hchoice

/-- The guard of the first list is false, so the second rule is the first that applies; the match
of its last operand fills its clip. -/
theorem Rule.playlist?_decisionList_nested :
    let regex : AnchoredRegex := (AnchoredRegex.new? "(a)b" .none).get (by decide +kernel)
    let glob : Glob := (Glob.new? "b*" true).get (by decide +kernel)
    let rule : Rule := .list none
      [.list (some (.glob glob)) [.default],
        .clips (some (.all [.negation (.glob glob), .regex regex])) ["$1.mp3"] ["z"], .default]
    playlist? "abc" .first rule = some [.clip "a.mp3", .original "abc", .clip "z"] := by
  intro regex glob rule
  rw [(playlist?_decisionList rule "abc" .first).1]
  decide +kernel

end ClipSplice
