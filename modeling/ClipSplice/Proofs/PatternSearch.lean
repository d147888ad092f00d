import ClipSplice.Regex.Basic
import Mathlib.Data.List.Basic
import Mathlib.Data.List.Induction
import Mathlib.Data.List.TakeWhile
import Mathlib.Data.Set.Insert
import Mathlib.Logic.Relation

/-!
# What a search finds

`Node.Takes` tells which text a node takes, by recursion on the node. A search finds a match just
when the node takes some part of the text (`isSome_search_iff`).

The search works on stacks of nodes. Between two characters it follows steps from stack to stack and
leaves out what it has met before, which loses nothing: a way that comes back to a stack can be cut
short (`Way.cut`), and a way that never comes back is never given up (`finds`). The routes
from a stack are therefore all that can be reached by steps (`leads_routes_iff`). Behind a character
the search goes on from everything that is left to match (`exists_reads_advance_iff`), which carries
a whole run (`Thread.isSome_run_iff`).
-/

namespace ClipSplice.Regex

/-- A place in a text: the character in front of it, if there is one, and the text behind it. -/
structure Place where
  before : Option Char
  ahead : List Char

/-- A node leads from one place to another and takes the text between them. -/
def Node.Takes : Node → Place → Place → Prop
  | .empty => Eq
  | .one _ set => fun p q =>
    ∃ c rest, p.ahead = c :: rest ∧ set.contains c = true ∧ q = ⟨some c, rest⟩
  | .look condition => fun p q => condition.holds p.before p.ahead.head? = true ∧ p = q
  | .mark _ => Eq
  | .concat a b => Relation.Comp a.Takes b.Takes
  | .either a b => fun p q => a.Takes p q ∨ b.Takes p q
  | .star _ a => Relation.ReflTransGen a.Takes
  | .rounds _ a => Relation.TransGen a.Takes
  | .again _ a => Relation.ReflTransGen a.Takes

/-- The numbers of sets do not matter. -/
theorem Node.takes_numbered (node : Node) (n : Nat) : (node.numbered n).1.Takes = node.Takes := by
  induction node generalizing n with
  | empty => rfl
  | one _ _ => rfl
  | look _ => rfl
  | mark _ => rfl
  | concat a b iha ihb => simp only [numbered, Takes, iha, ihb]
  | either a b iha ihb => simp only [numbered, Takes, iha, ihb]
  | star _ a iha => simp only [numbered, Takes, iha]
  | rounds _ a iha => simp only [numbered, Takes, iha]
  | again _ a iha => simp only [numbered, Takes, iha]

/-! ## Steps between two characters -/

/-- A step without a character, as a change of the nodes that are still to be matched. -/
inductive Step (before after : Option Char) : List Node → List Node → Prop
  | empty (next : List Node) : Step before after (.empty :: next) next
  | look {condition : Look} (next : List Node) (holds : condition.holds before after = true) :
    Step before after (.look condition :: next) next
  | mark (slot : Nat) (next : List Node) : Step before after (.mark slot :: next) next
  | concat (a b : Node) (next : List Node) :
    Step before after (.concat a b :: next) (a :: b :: next)
  | first (a b : Node) (next : List Node) : Step before after (.either a b :: next) (a :: next)
  | second (a b : Node) (next : List Node) : Step before after (.either a b :: next) (b :: next)
  | starLeave (greedy : Bool) (a : Node) (next : List Node) :
    Step before after (.star greedy a :: next) next
  | starEnter (greedy : Bool) (a : Node) (next : List Node) :
    Step before after (.star greedy a :: next) (a :: .star greedy a :: next)
  | rounds (greedy : Bool) (a : Node) (next : List Node) :
    Step before after (.rounds greedy a :: next) (a :: .again greedy a :: next)
  | againLeave (greedy : Bool) (a : Node) (next : List Node) :
    Step before after (.again greedy a :: next) next
  | againEnter (greedy : Bool) (a : Node) (next : List Node) :
    Step before after (.again greedy a :: next) (a :: .again greedy a :: next)

/-- A stack that waits for a character, or for nothing any more. -/
inductive Waiting : List Node → Prop
  | done : Waiting []
  | one (number : Nat) (set : CharClass) (next : List Node) : Waiting (.one number set :: next)

section

variable {before after : Option Char} {stack stack' target : List Node}

theorem Waiting.not_step (h : Waiting stack) : ¬ Step before after stack stack' := by
  intro hstep
  cases h <;> cases hstep

/-- A way by steps from one stack to another on which nothing lies that is to be avoided. -/
inductive Way (before after : Option Char) (avoided : Set (List Node)) :
    List Node → List Node → Prop
  | stay {stack : List Node} (free : stack ∉ avoided) : Way before after avoided stack stack
  | go {stack stack' target : List Node} (free : stack ∉ avoided)
    (step : Step before after stack stack') (rest : Way before after avoided stack' target) :
    Way before after avoided stack target

/-- A way whose first stack need not be free. -/
def Onward (before after : Option Char) (avoided : Set (List Node)) (stack target : List Node) :
    Prop :=
  stack = target ∨ ∃ stack', Step before after stack stack' ∧ Way before after avoided stack' target

variable {avoided more : Set (List Node)}

theorem Way.free (h : Way before after avoided stack target) : stack ∉ avoided := by
  cases h <;> assumption

theorem Way.onward (h : Way before after avoided stack target) :
    Onward before after avoided stack target := by
  cases h with
  | stay _ => exact .inl rfl
  | go _ step rest => exact .inr ⟨_, step, rest⟩

theorem Way.mono (hsubset : avoided ⊆ more) (h : Way before after more stack target) :
    Way before after avoided stack target := by
  induction h with
  | stay free => exact .stay fun hmem => free (hsubset hmem)
  | go free step _ ih => exact .go (fun hmem => free (hsubset hmem)) step ih

/-- A way can be cut short to what lies behind its last visit of a stack. -/
theorem Way.cut (visited : List Node) (h : Way before after avoided stack target) :
    Way before after (insert visited avoided) stack target ∨
      Onward before after (insert visited avoided) visited target := by
  induction h with
  | @stay stack free =>
    by_cases hvisited : stack = visited
    · exact .inr (.inl hvisited.symm)
    · exact .inl (.stay (by simp [hvisited, free]))
  | @go stack stack' target free step rest ih =>
    rcases ih with hway | honward
    · by_cases hvisited : stack = visited
      · exact .inr (.inr ⟨stack', hvisited ▸ step, hway⟩)
      · exact .inl (.go (by simp [hvisited, free]) step hway)
    · exact .inr honward

/-- A way need not come back to its start. -/
theorem Onward.cut (h : Onward before after avoided stack target) :
    Onward before after (insert stack avoided) stack target := by
  rcases h with heq | ⟨stack', step, hway⟩
  · exact .inl heq
  · rcases hway.cut stack with hway | honward
    · exact .inr ⟨stack', step, hway⟩
    · exact honward

/-- A way to a stack that waits begins with a step, unless it is there already. -/
theorem Onward.exists_step (h : Onward before after avoided stack target) (hwaits : Waiting target)
    (hbusy : ¬ Waiting stack) :
    ∃ stack', Step before after stack stack' ∧ Way before after avoided stack' target := by
  rcases h with rfl | hstep
  · exact absurd hwaits hbusy
  · exact hstep

/-! ## Routes -/

/-- Leaving out what has a key that was there before keeps all keys. -/
theorem mem_map_merge {α β : Type} [BEq β] [LawfulBEq β] {key : α → β} {first others : List α}
    {b : β} :
    b ∈ (first ++ others.filter fun x => !first.any fun y => key y == key x).map key ↔
      b ∈ first.map key ∨ b ∈ others.map key := by
  rw [List.map_append, List.mem_append]
  refine or_congr_right' fun hfirst => ⟨fun h => ?_, fun h => ?_⟩
  · obtain ⟨x, hx, rfl⟩ := List.mem_map.1 h
    exact List.mem_map_of_mem (List.mem_filter.1 hx).1
  · obtain ⟨x, hx, rfl⟩ := List.mem_map.1 h
    refine List.mem_map_of_mem (List.mem_filter.2 ⟨hx, ?_⟩)
    rw [Bool.not_eq_true', List.any_eq_false]
    intro y hy hsame
    exact hfirst (List.mem_map.2 ⟨y, hy, eq_of_beq hsame⟩)

/-- A stack is that of a route. -/
def Leads (found : List Route) (stack : List Node) : Prop := stack ∈ found.map Route.stack

variable {first others : List Route}

theorem leads_merge :
    Leads (Route.merge first others) stack ↔ Leads first stack ∨ Leads others stack :=
  mem_map_merge

theorem leads_map_pass (slot : Nat) :
    Leads (first.map (Route.pass slot)) stack ↔ Leads first stack := by
  rw [Leads, List.map_map]
  rfl

theorem leads_single {stack' : List Node} {slots : List Nat} :
    Leads [⟨stack', slots⟩] stack ↔ stack = stack' := List.mem_singleton

theorem leads_preferred {greedy : Bool} :
    Leads (if greedy then Route.merge first others else Route.merge others first) stack ↔
      Leads first stack ∨ Leads others stack := by
  cases greedy with
  | true => exact leads_merge
  | false => exact leads_merge.trans or_comm

variable {entered : List (List Node)}

/-- Following a node finds a stack when there is a way to it on which nothing lies that was entered
before. Ways that come to the stack behind the node are left to the routes from there. -/
def Finds (before after : Option Char) (entered : List (List Node)) (target : List Node)
    (node : Node) : Prop :=
  ∀ {avoided : Set (List Node)} {next : List Node} {leave : Thunk (List Route)},
    (∀ s ∈ entered, s ∈ avoided) → node :: next ∉ entered →
    Onward before after avoided (node :: next) target →
    (Way before after avoided next target → Leads leave.get target) →
    Leads (node.follow before after entered next leave) target

theorem Finds.of_way {a : Node} {next : List Node} {leave : Thunk (List Route)}
    (ha : Finds before after entered target a) (hentered : ∀ s ∈ entered, s ∈ avoided)
    (hway : Way before after avoided (a :: next) target)
    (hleave : Way before after avoided next target → Leads leave.get target) :
    Leads (a.follow before after entered next leave) target :=
  ha hentered (fun hmem => hway.free (hentered _ hmem)) hway.onward hleave

/-- A way that does not come back to the stack behind a round stays in the body. -/
theorem Finds.of_round {a : Node} {stack : List Node} {leave : Thunk (List Route)}
    (ha : Finds before after entered target a) (hentered : ∀ s ∈ entered, s ∈ avoided)
    (hround : Way before after (insert stack avoided) (a :: stack) target) :
    Leads (a.follow before after entered stack leave) target := by
  refine ha.of_way (fun s hs => Set.mem_insert_of_mem _ (hentered s hs)) hround ?_
  exact fun hback => absurd (Set.mem_insert _ _) hback.free

/-- Following a node loses nothing. -/
theorem finds (hwaits : Waiting target) (node : Node) :
    Finds before after entered target node := by
  intro avoided next leave hentered hfresh hway hleave
  induction node generalizing next leave avoided with
  | empty =>
    obtain ⟨_, hstep, hrest⟩ := hway.exists_step hwaits nofun
    cases hstep
    exact hleave hrest
  | one number set =>
    rcases hway with rfl | ⟨_, hstep, -⟩
    · exact leads_single.2 rfl
    · cases hstep
  | look condition =>
    obtain ⟨_, hstep, hrest⟩ := hway.exists_step hwaits nofun
    cases hstep with
    | look _ holds =>
      rw [Node.follow, if_pos holds]
      exact hleave hrest
  | mark slot =>
    obtain ⟨_, hstep, hrest⟩ := hway.exists_step hwaits nofun
    cases hstep
    exact (leads_map_pass slot).2 (hleave hrest)
  | concat a b iha ihb =>
    obtain ⟨_, hstep, hrest⟩ := hway.exists_step hwaits nofun
    cases hstep
    rw [Node.follow]
    refine Finds.of_way iha hentered hrest fun hbehind => ?_
    have hb : b :: next ∉ entered := fun hmem => hbehind.free (hentered _ hmem)
    simp only [Thunk.get, List.contains_iff_mem, hb, if_false]
    exact Finds.of_way ihb hentered hbehind hleave
  | either a b iha ihb =>
    obtain ⟨_, hstep, hrest⟩ := hway.exists_step hwaits nofun
    rw [Node.follow, leads_merge]
    cases hstep with
    | first => exact .inl (Finds.of_way iha hentered hrest hleave)
    | second => exact .inr (Finds.of_way ihb hentered hrest hleave)
  | star greedy a iha =>
    obtain ⟨_, hstep, hrest⟩ := hway.cut.exists_step hwaits nofun
    simp only [Node.follow, List.contains_iff_mem, hfresh, if_false]
    rw [leads_preferred]
    cases hstep with
    | starLeave => exact .inr (hleave (hrest.mono (Set.subset_insert _ _)))
    | starEnter => exact .inl (Finds.of_round iha hentered hrest)
  | rounds greedy a iha =>
    obtain ⟨_, hstep, hrest⟩ := hway.exists_step hwaits nofun
    cases hstep
    rw [Node.follow]
    -- the last time that the way comes to the end of a round, it enters another one or leaves
    rcases hrest.cut (.again greedy a :: next) with hround | hback
    · exact Finds.of_round iha hentered hround
    · obtain ⟨_, hstep, hfurther⟩ := hback.exists_step hwaits nofun
      cases hstep with
      | againEnter => exact Finds.of_round iha hentered hfurther
      | againLeave =>
        have hout := hleave (hfurther.mono (Set.subset_insert _ _))
        exact Finds.of_way iha hentered hrest fun _ => hout
  | again greedy a iha =>
    obtain ⟨_, hstep, hrest⟩ := hway.cut.exists_step hwaits nofun
    rw [Node.follow, leads_preferred]
    cases hstep with
    | againLeave => exact .inr (hleave (hrest.mono (Set.subset_insert _ _)))
    | againEnter => exact .inl (Finds.of_round iha hentered hrest)

/-- Some steps lead from one stack to another that waits. -/
def Arrives (before after : Option Char) (stack target : List Node) : Prop :=
  Relation.ReflTransGen (Step before after) stack target ∧ Waiting target

theorem Arrives.step (hstep : Step before after stack stack')
    (h : Arrives before after stack' target) : Arrives before after stack target :=
  ⟨.head hstep h.1, h.2⟩

/-- The mark that a step from a stack notes. -/
def noted : List Node → List Nat
  | .mark slot :: _ => [slot]
  | _ => []

/-- Steps from one stack to another, with the marks that they note. -/
inductive Walk (before after : Option Char) : List Node → List Nat → List Node → Prop
  | stay (stack : List Node) : Walk before after stack [] stack
  | go {stack stack' target : List Node} {slots : List Nat} (step : Step before after stack stack')
    (rest : Walk before after stack' slots target) :
    Walk before after stack (noted stack ++ slots) target

theorem Walk.steps {slots : List Nat} (h : Walk before after stack slots target) :
    Relation.ReflTransGen (Step before after) stack target := by
  induction h with
  | stay _ => exact .refl
  | go step _ ih => exact .head step ih

/-- A route is a walk from a stack to one that waits. -/
structure Route.Follows (before after : Option Char) (stack : List Node) (route : Route) :
    Prop where
  walk : Walk before after stack route.slots route.stack
  waits : Waiting route.stack

theorem Route.Follows.step {route : Route} (hstep : Step before after stack stack')
    (hnoted : noted stack = []) (h : route.Follows before after stack') :
    route.Follows before after stack := by
  have hwalk := Walk.go hstep h.walk
  rw [hnoted, List.nil_append] at hwalk
  exact ⟨hwalk, h.waits⟩

theorem Route.Follows.pass {route : Route} {next : List Node} (slot : Nat)
    (h : route.Follows before after next) :
    (route.pass slot).Follows before after (.mark slot :: next) :=
  ⟨.go (.mark slot next) h.walk, h.waits⟩

theorem mem_of_mem_merge {route : Route} (h : route ∈ Route.merge first others) :
    route ∈ first ∨ route ∈ others :=
  (List.mem_append.1 h).imp_right fun hothers => (List.mem_filter.1 hothers).1

theorem mem_of_mem_preferred {greedy : Bool} {route : Route}
    (h : route ∈ if greedy then Route.merge first others else Route.merge others first) :
    route ∈ first ∨ route ∈ others := by
  cases greedy with
  | true => exact mem_of_mem_merge h
  | false => exact (mem_of_mem_merge h).symm

/-- Following a node adds nothing: all routes are walks. -/
theorem follows_of_mem_follow (node : Node) {next : List Node} {leave : Thunk (List Route)}
    {route : Route} (hleave : ∀ {route}, route ∈ leave.get → route.Follows before after next)
    (h : route ∈ node.follow before after entered next leave) :
    route.Follows before after (node :: next) := by
  induction node generalizing next leave route with
  | empty => exact (hleave h).step (.empty next) rfl
  | one number set =>
    rw [List.mem_singleton.1 h]
    exact ⟨.stay _, .one number set next⟩
  | look condition =>
    rw [Node.follow] at h
    split at h
    · rename_i holds
      exact (hleave h).step (.look next holds) rfl
    · exact absurd h List.not_mem_nil
  | mark slot =>
    obtain ⟨route, hroute, rfl⟩ := List.mem_map.1 h
    exact (hleave hroute).pass slot
  | concat a b iha ihb =>
    refine (iha (fun hbehind => ?_) h).step (.concat a b next) rfl
    simp only [Thunk.get] at hbehind
    split at hbehind
    · exact absurd hbehind List.not_mem_nil
    · exact ihb hleave hbehind
  | either a b iha ihb =>
    rcases mem_of_mem_merge h with hfirst | hsecond
    · exact (iha hleave hfirst).step (.first a b next) rfl
    · exact (ihb hleave hsecond).step (.second a b next) rfl
  | star greedy a iha =>
    rw [Node.follow] at h
    split at h
    · exact absurd h List.not_mem_nil
    · rcases mem_of_mem_preferred h with hmore | hout
      · have hround := iha (fun hback => absurd hback List.not_mem_nil) hmore
        exact hround.step (.starEnter greedy a next) rfl
      · exact (hleave hout).step (.starLeave greedy a next) rfl
  | rounds greedy a iha =>
    have hagain : ∀ {route}, route ∈ leave.get →
        route.Follows before after (.again greedy a :: next) :=
      fun hout => (hleave hout).step (.againLeave greedy a next) rfl
    exact (iha hagain h).step (.rounds greedy a next) rfl
  | again greedy a iha =>
    rcases mem_of_mem_preferred h with hmore | hout
    · have hround := iha (fun hback => absurd hback List.not_mem_nil) hmore
      exact hround.step (.againEnter greedy a next) rfl
    · exact (hleave hout).step (.againLeave greedy a next) rfl

theorem follows_of_mem_routes {route : Route} (h : route ∈ routes before after entered stack) :
    route.Follows before after stack := by
  induction stack generalizing entered route with
  | nil =>
    rw [List.mem_singleton.1 h]
    exact ⟨.stay [], .done⟩
  | cons node next ih =>
    refine follows_of_mem_follow node ?_ h
    exact fun hbehind => ih hbehind

theorem leads_routes_of_way (hentered : ∀ s ∈ entered, s ∈ avoided)
    (hway : Way before after avoided stack target) (hwaits : Waiting target) :
    Leads (routes before after entered stack) target := by
  induction stack generalizing entered avoided with
  | nil =>
    cases hway with
    | stay _ => exact leads_single.2 rfl
    | go _ step _ => cases step
  | cons node next ih =>
    have hmore : ∀ s ∈ (node :: next) :: entered, s ∈ insert (node :: next) avoided := by
      intro s hs
      rcases List.mem_cons.1 hs with rfl | hs
      · exact Set.mem_insert _ _
      · exact Set.mem_insert_of_mem _ (hentered s hs)
    refine finds hwaits node (fun s hs => hmore s (List.mem_cons_of_mem _ hs))
      (fun hmem => hway.free (hentered _ hmem)) hway.onward.cut ?_
    exact fun hbehind => ih hmore hbehind

/-- The routes from a stack lead to all stacks that wait and can be reached by steps. -/
theorem leads_routes_iff :
    Leads (routes before after [] stack) target ↔ Arrives before after stack target := by
  constructor
  · intro h
    obtain ⟨route, hroute, rfl⟩ := List.mem_map.1 h
    have hfollows := follows_of_mem_routes hroute
    exact ⟨hfollows.walk.steps, hfollows.waits⟩
  · rintro ⟨hsteps, hwaits⟩
    have hway : Way before after ∅ stack target := by
      induction hsteps using Relation.ReflTransGen.head_induction_on with
      | refl => exact .stay (Set.notMem_empty _)
      | head hstep _ ih => exact .go (Set.notMem_empty _) hstep ih
    exact leads_routes_of_way nofun hway hwaits

end

/-! ## Matching a stack -/

/-- All nodes of a stack, one after the other, lead from one place to another. -/
def TakesAll : List Node → Place → Place → Prop
  | [] => Eq
  | node :: next => Relation.Comp node.Takes (TakesAll next)

/-- A stack can be matched from a place, by steps and by taking characters. -/
inductive Reads : List Node → Place → Prop
  | done (p : Place) : Reads [] p
  | one {number : Nat} {set : CharClass} {next : List Node} (before : Option Char) {c : Char}
    {rest : List Char} (hc : set.contains c = true) (hnext : Reads next ⟨some c, rest⟩) :
    Reads (.one number set :: next) ⟨before, c :: rest⟩
  | step {stack stack' : List Node} {p : Place} (hstep : Step p.before p.ahead.head? stack stack')
    (hrest : Reads stack' p) : Reads stack p

section

variable {stack stack' next : List Node} {p q : Place}

theorem Step.takesAll (hstep : Step p.before p.ahead.head? stack stack')
    (h : TakesAll stack' p q) : TakesAll stack p q := by
  cases hstep with
  | empty => exact ⟨p, rfl, h⟩
  | look next holds => exact ⟨p, ⟨holds, rfl⟩, h⟩
  | mark => exact ⟨p, rfl, h⟩
  | concat a b next =>
    obtain ⟨u, ha, v, hb, hnext⟩ := h
    exact ⟨v, ⟨u, ha, hb⟩, hnext⟩
  | first a b next =>
    obtain ⟨u, ha, hnext⟩ := h
    exact ⟨u, .inl ha, hnext⟩
  | second a b next =>
    obtain ⟨u, hb, hnext⟩ := h
    exact ⟨u, .inr hb, hnext⟩
  | starLeave => exact ⟨p, .refl, h⟩
  | starEnter greedy a next =>
    obtain ⟨u, ha, v, hrest, hnext⟩ := h
    exact ⟨v, .head ha hrest, hnext⟩
  | rounds greedy a next =>
    obtain ⟨u, ha, v, hrest, hnext⟩ := h
    exact ⟨v, .head' ha hrest, hnext⟩
  | againLeave => exact ⟨p, .refl, h⟩
  | againEnter greedy a next =>
    obtain ⟨u, ha, v, hrest, hnext⟩ := h
    exact ⟨v, .head ha hrest, hnext⟩

/-- Rounds that follow another one can be matched when the body can. -/
theorem Reads.of_takes_again (greedy : Bool) {a : Node}
    (ha : ∀ {p q : Place} {next : List Node}, a.Takes p q → Reads next q → Reads (a :: next) p)
    (h : Relation.ReflTransGen a.Takes p q) (hq : Reads next q) :
    Reads (.again greedy a :: next) p := by
  induction h using Relation.ReflTransGen.head_induction_on with
  | refl => exact .step (.againLeave greedy a next) hq
  | head hround _ ih => exact .step (.againEnter greedy a next) (ha hround ih)

theorem Reads.of_takes (node : Node) (h : node.Takes p q) (hq : Reads next q) :
    Reads (node :: next) p := by
  induction node generalizing p q next with
  | empty =>
    cases h
    exact .step (.empty next) hq
  | one number set =>
    obtain ⟨before, ahead⟩ := p
    obtain ⟨c, rest, hahead, hc, rfl⟩ := h
    obtain rfl : ahead = c :: rest := hahead
    exact .one before hc hq
  | look condition =>
    obtain ⟨holds, rfl⟩ := h
    exact .step (.look next holds) hq
  | mark slot =>
    cases h
    exact .step (.mark slot next) hq
  | concat a b iha ihb =>
    obtain ⟨u, ha, hb⟩ := h
    exact .step (.concat a b next) (iha ha (ihb hb hq))
  | either a b iha ihb =>
    rcases h with ha | hb
    · exact .step (.first a b next) (iha ha hq)
    · exact .step (.second a b next) (ihb hb hq)
  | star greedy a iha =>
    induction h using Relation.ReflTransGen.head_induction_on with
    | refl => exact .step (.starLeave greedy a next) hq
    | head ha _ ih => exact .step (.starEnter greedy a next) (iha ha ih)
  | rounds greedy a iha =>
    obtain ⟨u, ha, hrest⟩ := Relation.TransGen.head'_iff.1 h
    exact .step (.rounds greedy a next) (iha ha (.of_takes_again greedy iha hrest hq))
  | again greedy a iha => exact .of_takes_again greedy iha h hq

/-- A stack can be matched just when its nodes take some part of the text, one after the other. -/
theorem reads_iff : Reads stack p ↔ ∃ q, TakesAll stack p q := by
  constructor
  · intro h
    induction h with
    | done p => exact ⟨p, rfl⟩
    | one before hc _ ih =>
      obtain ⟨q, hq⟩ := ih
      exact ⟨q, _, ⟨_, _, rfl, hc, rfl⟩, hq⟩
    | step hstep _ ih =>
      obtain ⟨q, hq⟩ := ih
      exact ⟨q, hstep.takesAll hq⟩
  · rintro ⟨q, h⟩
    induction stack generalizing p with
    | nil => exact .done p
    | cons node next ih =>
      obtain ⟨u, hnode, hnext⟩ := h
      exact .of_takes node hnode (ih hnext)

theorem reads_single_iff {node : Node} : Reads [node] p ↔ ∃ q, node.Takes p q := by
  simp [reads_iff, TakesAll, Relation.Comp]

/-- A stack is matched by way of one that waits. -/
theorem reads_iff_exists_arrives :
    Reads stack p ↔ ∃ target, Arrives p.before p.ahead.head? stack target ∧ Reads target p := by
  constructor
  · intro h
    induction h with
    | done p => exact ⟨[], ⟨.refl, .done⟩, .done p⟩
    | one before hc hnext => exact ⟨_, ⟨.refl, .one _ _ _⟩, .one before hc hnext⟩
    | step hstep _ ih =>
      obtain ⟨target, harrives, htarget⟩ := ih
      exact ⟨target, harrives.step hstep, htarget⟩
  · rintro ⟨target, ⟨hsteps, -⟩, htarget⟩
    induction hsteps using Relation.ReflTransGen.head_induction_on with
    | refl => exact htarget
    | head hstep _ ih => exact .step hstep ih

end

/-! ## Threads -/

namespace Thread

/-- A stack leads behind the character `c` to one that waits. -/
def Goes (c : Char) (after : Option Char) (stack target : List Node) : Prop :=
  ∃ number set next, stack = .one number set :: next ∧ set.contains c = true ∧
    Arrives (some c) after next target

section

variable {after before : Option Char} {c : Char} {rest : List Char} {stack target : List Node}
  {place : Nat} {threads : List Thread}

theorem mem_spread_iff (place : Nat) (marks : Marks) :
    target ∈ (spread before after place stack marks).map Thread.stack ↔
      Arrives before after stack target := by
  rw [← leads_routes_iff, Leads, spread, List.map_map]
  rfl

theorem mem_merge_iff {more : List Thread} :
    target ∈ (merge threads more).map Thread.stack ↔
      target ∈ threads.map Thread.stack ∨ target ∈ more.map Thread.stack :=
  mem_map_merge

theorem goes_one_iff {number : Nat} {set : CharClass} {next : List Node} :
    Goes c after (.one number set :: next) target ↔
      set.contains c = true ∧ Arrives (some c) after next target := by
  constructor
  · rintro ⟨_, _, _, heq, hc, harrives⟩
    cases heq
    exact ⟨hc, harrives⟩
  · rintro ⟨hc, harrives⟩
    exact ⟨number, set, next, rfl, hc, harrives⟩

theorem advance_concat (threads : List Thread) (thread : Thread) :
    advance c after place (threads ++ [thread]) =
      match thread.stack with
      | .one _ set :: next =>
        if set.contains c then
          merge (advance c after place threads)
            (spread (some c) after place next thread.marks)
        else advance c after place threads
      | _ => advance c after place threads :=
  List.foldl_concat _ _ _ _

/-- Behind a character there are the threads to which those before it lead. -/
theorem mem_advance_iff (place : Nat) :
    target ∈ (advance c after place threads).map Thread.stack ↔
      ∃ thread ∈ threads, Goes c after thread.stack target := by
  induction threads using List.reverseRecOn with
  | nil => simp [advance]
  | append_singleton threads thread ih =>
    simp only [List.mem_append, List.mem_singleton, or_and_right, exists_or, exists_eq_left]
    rw [← ih, advance_concat]
    split
    · rename_i number set next hstack
      rw [hstack, goes_one_iff]
      split
      · rename_i hc
        rw [mem_merge_iff, mem_spread_iff, and_iff_right hc]
      · rename_i hc
        rw [or_iff_left fun h => hc h.1]
    · rename_i hbusy
      rw [or_iff_left]
      rintro ⟨number, set, next, hstack, -⟩
      exact hbusy number set next hstack

theorem waiting_of_mem_advance (h : target ∈ (advance c after place threads).map Thread.stack) :
    Waiting target := by
  obtain ⟨_, _, _, _, _, _, _, harrives⟩ := (mem_advance_iff place).1 h
  exact harrives.2

theorem reads_nil_iff (hwaits : Waiting stack) : Reads stack ⟨before, []⟩ ↔ stack = [] := by
  constructor
  · intro h
    cases h with
    | done => rfl
    | step hstep => exact absurd hstep hwaits.not_step
  · rintro rfl
    exact .done _

theorem reads_cons_iff (hwaits : Waiting stack) (hbusy : stack ≠ []) :
    Reads stack ⟨before, c :: rest⟩ ↔
      ∃ target, Goes c rest.head? stack target ∧ Reads target ⟨some c, rest⟩ := by
  cases hwaits with
  | done => exact absurd rfl hbusy
  | one number set next =>
    have hone : Reads (.one number set :: next) ⟨before, c :: rest⟩ ↔
        set.contains c = true ∧ Reads next ⟨some c, rest⟩ := by
      constructor
      · intro h
        cases h with
        | one _ hc hnext => exact ⟨hc, hnext⟩
        | step hstep => cases hstep
      · rintro ⟨hc, hnext⟩
        exact .one before hc hnext
    rw [hone, reads_iff_exists_arrives]
    simp only [goes_one_iff, and_assoc, exists_and_left]

/-- What is left to match behind a character is what the threads there can match. -/
theorem exists_reads_advance_iff (hwaits : ∀ thread ∈ threads, Waiting thread.stack)
    (hbusy : ∀ thread ∈ threads, thread.stack ≠ []) :
    (∃ thread ∈ advance c rest.head? place threads, Reads thread.stack ⟨some c, rest⟩) ↔
      ∃ thread ∈ threads, Reads thread.stack ⟨before, c :: rest⟩ := by
  constructor
  · rintro ⟨thread, hthread, hreads⟩
    obtain ⟨source, hsource, hgoes⟩ := (mem_advance_iff place).1 (List.mem_map_of_mem hthread)
    exact ⟨source, hsource,
      (reads_cons_iff (hwaits _ hsource) (hbusy _ hsource)).2 ⟨_, hgoes, hreads⟩⟩
  · rintro ⟨source, hsource, hreads⟩
    obtain ⟨target, hgoes, htarget⟩ :=
      (reads_cons_iff (hwaits _ hsource) (hbusy _ hsource)).1 hreads
    obtain ⟨thread, hthread, rfl⟩ :=
      List.mem_map.1 ((mem_advance_iff place).2 ⟨source, hsource, hgoes⟩)
    exact ⟨thread, hthread, htarget⟩

theorem run_nil {best : Option Marks} {text : List Char} : run best [] place text = best := by
  cases text <;> rfl

/-- A run goes on behind a character with the threads in front of the first that is done. -/
theorem run_cons {best : Option Marks} :
    run best threads place (c :: rest) =
      run (((threads.find? isDone).map Thread.marks) <|> best)
        (advance c rest.head? (place + 1) (threads.takeWhile fun thread => !thread.isDone))
        (place + 1) rest := by
  rw [run]
  split
  · rename_i hlive
    rw [hlive]
    exact run_nil.symm
  · rfl

theorem find?_isDone_eq_none_iff :
    threads.find? isDone = none ↔ ∀ thread ∈ threads, thread.stack ≠ [] := by
  simp [isDone]

theorem takeWhile_not_isDone (hbusy : ∀ thread ∈ threads, thread.stack ≠ []) :
    (threads.takeWhile fun thread => !thread.isDone) = threads := by
  rw [List.takeWhile_eq_self_iff]
  intro thread hthread
  simp [isDone, hbusy thread hthread]

theorem isSome_of_done {best : Option Marks} {thread : Thread} (hthread : thread ∈ threads)
    (hempty : thread.stack = []) :
    (((threads.find? isDone).map Thread.marks) <|> best).isSome = true := by
  cases hfind : threads.find? isDone with
  | none => exact absurd hempty (find?_isDone_eq_none_iff.1 hfind thread hthread)
  | some _ => rfl

/-- A run finds a match when there was one before it or a thread can be matched. -/
theorem isSome_run_iff {best : Option Marks} {text : List Char} (before : Option Char)
    (hwaits : ∀ thread ∈ threads, Waiting thread.stack) :
    (run best threads place text).isSome = true ↔
      best.isSome = true ∨ ∃ thread ∈ threads, Reads thread.stack ⟨before, text⟩ := by
  induction text generalizing best threads place before with
  | nil =>
    rw [run]
    by_cases hbusy : ∀ thread ∈ threads, thread.stack ≠ []
    · rw [find?_isDone_eq_none_iff.2 hbusy, or_iff_left]
      · rfl
      · rintro ⟨thread, hthread, hreads⟩
        exact hbusy thread hthread ((reads_nil_iff (hwaits thread hthread)).1 hreads)
    · obtain ⟨thread, hthread, hempty⟩ : ∃ thread ∈ threads, thread.stack = [] := by
        simpa using hbusy
      exact iff_of_true (isSome_of_done hthread hempty)
        (.inr ⟨thread, hthread, hempty ▸ .done _⟩)
  | cons c rest ih =>
    rw [run_cons, ih (some c)]
    · by_cases hbusy : ∀ thread ∈ threads, thread.stack ≠ []
      · rw [find?_isDone_eq_none_iff.2 hbusy, takeWhile_not_isDone hbusy,
          exists_reads_advance_iff hwaits hbusy]
        rfl
      · obtain ⟨thread, hthread, hempty⟩ : ∃ thread ∈ threads, thread.stack = [] := by
          simpa using hbusy
        exact iff_of_true (.inl (isSome_of_done hthread hempty))
          (.inr ⟨thread, hthread, hempty ▸ .done _⟩)
    · intro thread hthread
      exact waiting_of_mem_advance (List.mem_map_of_mem hthread)

end

end Thread

/-! ## Searching -/

theorem isSome_run_spread_iff {node : Node} {before : Option Char} (blank : Marks) (place : Nat)
    (text : List Char) :
    (Thread.run none (Thread.spread before text.head? place [node] blank) place text).isSome = true
      ↔ ∃ q, node.Takes ⟨before, text⟩ q := by
  rw [Thread.isSome_run_iff before, ← reads_single_iff, reads_iff_exists_arrives]
  · constructor
    · rintro (h | ⟨thread, hthread, hreads⟩)
      · cases h
      · exact ⟨_, (Thread.mem_spread_iff place blank).1 (List.mem_map_of_mem hthread), hreads⟩
    · rintro ⟨target, harrives, hreads⟩
      obtain ⟨thread, hthread, rfl⟩ :=
        List.mem_map.1 ((Thread.mem_spread_iff place blank).2 harrives)
      exact .inr ⟨thread, hthread, hreads⟩
  · intro thread hthread
    exact ((Thread.mem_spread_iff place blank).1 (List.mem_map_of_mem hthread)).2

theorem getLast?_cons_or {c : Char} {front : List Char} {before : Option Char} :
    (c :: front).getLast?.or before = front.getLast?.or (some c) := by
  rw [List.getLast?_cons]
  cases front.getLast? <;> rfl

/-- A search finds a match just when the node takes some part of the text. -/
theorem isSome_search_iff {node : Node} {blank : Marks} {before : Option Char} {place : Nat}
    {text : List Char} :
    (search node blank before place text).isSome = true ↔
      ∃ front back q, text = front ++ back ∧ node.Takes ⟨front.getLast?.or before, back⟩ q := by
  induction text generalizing before place with
  | nil =>
    rw [search]
    refine (isSome_run_spread_iff blank place []).trans ?_
    constructor
    · rintro ⟨q, hq⟩
      exact ⟨[], [], q, rfl, hq⟩
    · rintro ⟨front, back, q, hsplit, hq⟩
      obtain ⟨rfl, rfl⟩ := List.append_eq_nil_iff.1 hsplit.symm
      exact ⟨q, hq⟩
  | cons c rest ih =>
    have hhere : (search node blank before place (c :: rest)).isSome = true ↔
        (∃ q, node.Takes ⟨before, c :: rest⟩ q) ∨
          (search node blank (some c) (place + 1) rest).isSome = true := by
      rw [search, ← isSome_run_spread_iff blank place, List.head?_cons]
      split
      · rename_i hrun
        simp [hrun]
      · rename_i hrun
        simp [hrun]
    rw [hhere, ih]
    constructor
    · rintro (⟨q, hq⟩ | ⟨front, back, q, rfl, hq⟩)
      · exact ⟨[], c :: rest, q, rfl, hq⟩
      · exact ⟨c :: front, back, q, rfl, getLast?_cons_or ▸ hq⟩
    · rintro ⟨front, back, q, hsplit, hq⟩
      cases front with
      | nil => exact .inl ⟨q, hsplit ▸ hq⟩
      | cons d front =>
        obtain ⟨rfl, rfl⟩ := List.cons.inj hsplit
        exact .inr ⟨front, back, q, rfl, getLast?_cons_or ▸ hq⟩

/-- A text matches a regular expression just when its program takes some part of the text. -/
theorem isMatch_iff {regex : Regex} {text : String} :
    regex.isMatch text = true ↔
      ∃ front back q, text.toList = front ++ back ∧
        regex.program.Takes ⟨front.getLast?, back⟩ q := by
  rw [isMatch, find?, Option.isSome_map, isSome_search_iff]
  simp only [Option.or_none]

end ClipSplice.Regex
