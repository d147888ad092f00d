import ClipSplice.Regex.Node

/-!
# Searching

A search follows all ways through a pattern at once, in the order in which they are preferred. A way
that waits for a character is a *route*: a stack of nodes with a set on top. Two routes with the
same stack have the same future, so only the preferred one is kept and their number is bounded by
the size of the pattern. When a route has reached its end, those after it are given up.

Between two characters a node is followed once for every way to reach it. A way that comes back to
a stack in which it has been before, without a character in between, leads nowhere: it would only
repeat what has been followed already. A `star` is one such place, before its first round as after
every other; `rounds` are entered at their body and come back to `again`.
-/

namespace ClipSplice.Regex

/-! ## Routes -/

/-- A way up to the next character: what is still to be matched, either nothing or a set and the
nodes after it, and the marks that were passed. -/
structure Route where
  stack : List Node
  slots : List Nat
deriving Repr, DecidableEq

namespace Route

/-- Pass a mark. -/
def pass (slot : Nat) (route : Route) : Route := { route with slots := slot :: route.slots }

/-- All routes, without those that another one before them makes useless. -/
def merge (routes more : List Route) : List Route :=
  routes ++ more.filter fun route => !routes.any fun r => r.stack == route.stack

end Route

/-- The routes from a node, between the characters `before` and `after`. `next` is the stack behind
the node and `leave` are the routes from there. `entered` are the stacks in which the way here has
already been. -/
def Node.follow (before after : Option Char) (entered : List (List Node)) :
    Node → (next : List Node) → (leave : Thunk (List Route)) → List Route
  | empty, _, leave => leave.get
  | one number set, next, _ => [⟨one number set :: next, []⟩]
  | look condition, _, leave => if condition.holds before after then leave.get else []
  | mark slot, _, leave => leave.get.map (Route.pass slot)
  | concat first rest, next, leave =>
    first.follow before after entered (rest :: next) <| Thunk.mk fun _ =>
      if entered.contains (rest :: next) then []
      else rest.follow before after entered next leave
  | either first second, next, leave =>
    Route.merge (first.follow before after entered next leave)
      (second.follow before after entered next leave)
  | star greedy body, next, leave =>
    if entered.contains (star greedy body :: next) then []
    else
      let more := body.follow before after entered (star greedy body :: next) (Thunk.pure [])
      if greedy then Route.merge more leave.get else Route.merge leave.get more
  | rounds greedy body, next, leave =>
    body.follow before after entered (again greedy body :: next) leave
  | again greedy body, next, leave =>
    let more := body.follow before after entered (again greedy body :: next) (Thunk.pure [])
    if greedy then Route.merge more leave.get else Route.merge leave.get more

/-- The routes from a stack. -/
def routes (before after : Option Char) (entered : List (List Node)) : List Node → List Route
  | [] => [⟨[], []⟩]
  | node :: next =>
    node.follow before after entered next <| Thunk.mk fun _ =>
      routes before after ((node :: next) :: entered) next

/-! ## Threads -/

/-- Positions by the number of their mark. -/
abbrev Marks := List (Option Nat)

/-- A route with all the marks that lie on its way from the start. -/
structure Thread where
  stack : List Node
  marks : Marks
deriving Repr, DecidableEq

namespace Thread

/-- The threads from a stack at position `place`. -/
def spread (before after : Option Char) (place : Nat) (stack : List Node) (marks : Marks) :
    List Thread :=
  (routes before after [] stack).map fun route =>
    ⟨route.stack, route.slots.foldl (fun marks slot => marks.set slot (some place)) marks⟩

/-- All threads, without those that another one before them makes useless. -/
def merge (threads more : List Thread) : List Thread :=
  threads ++ more.filter fun thread => !threads.any fun t => t.stack == thread.stack

/-- The threads behind the character `c`, which ends at position `place`. -/
def advance (c : Char) (after : Option Char) (place : Nat) (threads : List Thread) : List Thread :=
  threads.foldl (fun done thread =>
    match thread.stack with
    | .one _ set :: next =>
      if set.contains c then merge done (spread (some c) after place next thread.marks) else done
    | _ => done) []

/-- Whether a thread has reached the end of the pattern. -/
def isDone (thread : Thread) : Bool := thread.stack.isEmpty

/-- Follow threads through a text from position `place`. `best` is the match that was found
before; a thread that reaches the end is preferred to it and to all threads after it. -/
def run (best : Option Marks) (threads : List Thread) (place : Nat) : List Char → Option Marks
  | [] => ((threads.find? isDone).map Thread.marks) <|> best
  | c :: rest =>
    let best := ((threads.find? isDone).map Thread.marks) <|> best
    match threads.takeWhile fun thread => !thread.isDone with
    | [] => best
    | live => run best (advance c rest.head? (place + 1) live) (place + 1) rest

end Thread

/-- The first match of a node in a text. The text starts at position `place`, behind the character
`before`. -/
def search (node : Node) (blank : Marks) (before : Option Char) (place : Nat) :
    List Char → Option Marks
  | [] => Thread.run none (Thread.spread before none place [node] blank) place []
  | c :: rest =>
    match Thread.run none (Thread.spread before (some c) place [node] blank) place (c :: rest) with
    | some marks => some marks
    | none => search node blank (some c) (place + 1) rest

end ClipSplice.Regex
