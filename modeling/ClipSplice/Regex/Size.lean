import ClipSplice.Regex.CharClass

/-!
# The size of patterns

A pattern is spelled out as two programs that match a text byte by byte: one reads it from the front
and notes what the groups take, the other reads it from the back. A pattern is refused when one of
them grows out of bounds. Most of the room goes into sets of characters, for which every byte of
every encoded character has to be spelled out.

Membership in a set changes at few code points only. `CharClass.cuts` lists them, and testing one
code point of every cell between them gives the set as intervals.
-/

namespace ClipSplice.Regex

/-! ## Sets as intervals -/

/-- The tables that membership in a named set depends on. -/
def NamedSet.tables : NamedSet → List RangeTable
  | digit => [Category.decimalNumberTable]
  | space => [blankTable]
  | word =>
    [.ofText "30-39 41-5a 5f 61-7a"] ++ propertyTable "alphabetic" ++ propertyTable "joincontrol" ++
      [Category.decimalNumberTable, Category.connectorPunctuationTable] ++
      Category.marks.map Category.table
  | categories kinds => kinds.map Category.table
  | script name => (Script.named? name).toList.map Script.own
  | scriptExtensions name =>
    (Script.named? name).toList.flatMap fun found => [found.own, found.joined, found.shared]
  | property name => propertyTable name
  | age version => (Age.upTo version).map NamedTable.table
  | breakClass unit name => (NamedTable.named? name unit.breakClasses).toList.map NamedTable.table
where
  propertyTable (name : String) : List RangeTable :=
    (NamedTable.named? name BinaryProperty.all).toList.map NamedTable.table

namespace CharClass

/-- The code points of the orbits that a set contains in part. -/
def brokenOrbits (a : CharClass) : List Nat :=
  (CaseFolding.orbits.filter fun orbit =>
    let inside (n : Nat) := a.contains (Char.ofNat n)
    orbit.any inside && !orbit.all inside).flatten

/-- Code points at which membership may change: it is the same for all from one of them up to the
next. -/
def cuts : CharClass → List Nat
  | none => []
  | range low high => [low.toNat, high.toNat + 1]
  | named set => set.tables.flatMap fun table => table.ranges.flatMap fun (lo, hi) => [lo, hi + 1]
  | complement a => a.cuts
  | union a b => a.cuts ++ b.cuts
  | intersection a b => a.cuts ++ b.cuts
  | difference a b => a.cuts ++ b.cuts
  | symmetricDifference a b => a.cuts ++ b.cuts
  | foldCase a => a.cuts ++ a.brokenOrbits.flatMap fun n => [n, n + 1]

/-- A list in strictly increasing order with one more member. -/
def insertCut (n : Nat) : List Nat → List Nat
  | [] => [n]
  | m :: rest =>
    if n < m then n :: m :: rest else if n = m then m :: rest else m :: insertCut n rest

theorem mem_insertCut {m n : Nat} {cuts : List Nat} :
    m ∈ insertCut n cuts ↔ m = n ∨ m ∈ cuts := by
  induction cuts with
  | nil => simp [insertCut]
  | cons k rest ih =>
    unfold insertCut
    split
    · simp
    · split
      · rename_i same
        simp [same]
      · simp [ih, or_left_comm]

/-- The cells between cuts in increasing order that lie in a set, with neighbours joined. -/
def joinCells (inside : Nat → Bool) : List Nat → List (Nat × Nat)
  | [] => []
  | [_] => []
  | low :: next :: rest =>
    let later := joinCells inside (next :: rest)
    if !inside low then later
    else
      match later with
      | (lo, hi) :: more => if lo = next then (low, hi) :: more else (low, next - 1) :: later
      | [] => [(low, next - 1)]

/-- The set as intervals of code points in increasing order. -/
def intervals (a : CharClass) : List (Nat × Nat) :=
  joinCells (fun n => n.isValidChar && a.contains (Char.ofNat n))
    (a.cuts.foldr insertCut [0, 0xd800, 0xe000, 0x110000])

end CharClass

/-! ## Characters as bytes -/

/-- An interval of numbers of `k + 1` digits to the base 64 as products of ranges of digits, in
increasing order. -/
def digitRanges : (k : Nat) → (low high : Nat) → List (List (Nat × Nat))
  | 0, low, high => [[(low, high)]]
  | k + 1, low, high =>
    let unit := 64 ^ (k + 1)
    let (a, s) := (low / unit, low % unit)
    let (b, e) := (high / unit, high % unit)
    if a = b then (digitRanges k s e).map ((a, a) :: ·)
    else
      let front := if s = 0 then [] else (digitRanges k s (unit - 1)).map ((a, a) :: ·)
      let back := if e = unit - 1 then [] else (digitRanges k 0 e).map ((b, b) :: ·)
      let first := if s = 0 then a else a + 1
      let last := if e = unit - 1 then b + 1 else b
      let middle :=
        if first < last then [(first, last - 1) :: List.replicate (k + 1) (0, 63)] else []
      front ++ middle ++ back

/-- The code points of each encoded length: how many bytes follow the first, what is added to the
first digit, and the bounds. -/
def encodedLengths : List (Nat × Nat × Nat × Nat) :=
  [(0, 0, 0, 0x7f), (1, 0xc0, 0x80, 0x7ff), (2, 0xe0, 0x800, 0xd7ff), (2, 0xe0, 0xe000, 0xffff),
    (3, 0xf0, 0x10000, 0x10ffff)]

/-- The encoded characters of some intervals as products of ranges of bytes. Of all bytes but the
first only the six low bits are given. -/
def byteRanges (intervals : List (Nat × Nat)) : List (List (Nat × Nat)) :=
  intervals.flatMap fun (low, high) =>
    encodedLengths.flatMap fun (k, lead, first, last) =>
      let (low, high) := (max low first, min high last)
      if high < low then []
      else (digitRanges k low high).map fun digits =>
        digits.mapIdx fun i (a, b) => if i = 0 then (lead + a, lead + b) else (a, b)

/-- What some rows begin with, and how the rows with each beginning go on. -/
def branches {α : Type} [BEq α] : List (List α) → List (α × List (List α))
  | [] => []
  | [] :: rows => branches rows
  | (a :: row) :: rows =>
    match branches rows with
    | (b, more) :: others => if a == b then (b, row :: more) :: others
      else (a, [row]) :: (b, more) :: others
    | [] => [(a, [row])]

/-- The sets of rows that are left at each place at which a row goes on, for rows of bounded
length. -/
def goingOn {α : Type} [BEq α] : (length : Nat) → List (List α) → List (List (List α))
  | 0, _ => []
  | length + 1, rows =>
    match branches rows with
    | [] => []
    | next => rows :: next.flatMap fun (_, rest) => goingOn length rest

/-! ## Sizes -/

/-- How much room a pattern takes in bytes when it is read from the front and from the back. -/
structure Size where
  forward : Nat
  backward : Nat
deriving Repr, DecidableEq

namespace Size

/-- The same size in both directions. -/
def both (n : Nat) : Size := ⟨n, n⟩

instance : Add Size := ⟨fun a b => ⟨a.forward + b.forward, a.backward + b.backward⟩⟩

/-- The size of a piece that is written `n` times. -/
def times (n : Nat) (a : Size) : Size := ⟨n * a.forward, n * a.backward⟩

/-- The room that there is for a pattern. -/
def limit : Nat := 10 * 1024 * 1024

/-- Whether there is room enough. -/
def fits (a : Size) : Bool := a.forward ≤ limit && a.backward ≤ limit

/-- A place in a program. -/
def place : Size := both 32

/-- A place with a choice between two ways. -/
def choice : Size := both 40

/-- The marks at both ends of a group, which only the program from the front notes. -/
def marks : Size := ⟨64, 0⟩

/-- What every program has besides the pattern: where it ends and, from the back, where it may
begin. -/
def frame : Size := ⟨64, 136⟩

/-- The room of a place with `n` ways to go on by ranges of bytes; one way needs no list. -/
def splitting (n : Nat) : Nat := if n = 1 then 32 else 32 + 8 * n

/-- The size of a set of characters. From the front, characters share what is left of them; from the
back, they share what they begin with. -/
def ofIntervals (intervals : List (Nat × Nat)) : Size :=
  match intervals with
  | [] => place
  | (low, high) :: rest =>
    if rest.isEmpty && low = high then both (32 * (Char.ofNat low).utf8Size)
    else if intervals.all fun (_, high) => high < 0x80 then both (32 + splitting intervals.length)
    else
      let rows := byteRanges intervals
      let places := goingOn 4 rows
      let ways (rows : List (List (Nat × Nat))) : Nat := (branches rows).length
      { forward := places.eraseDups.foldl (fun n rows => n + splitting (ways rows)) 32
        backward := places.foldl (fun n rows => n + 32 * ways rows) (64 + 4 * rows.length) }

/-- The size of a piece that is repeated; `solid` says that every round takes a character. -/
def repeated (least : Nat) (most : Option Nat) (solid : Bool) (a : Size) : Size :=
  match least, most with
  | 0, some 1 => a + choice + place
  | least, some most =>
    if least = most then a.times most
    else
      let start := if least = 0 then place else both 0
      start + a.times most + choice.times (most - least) + place
  | 0, none => if solid then a + choice else a + choice + choice + place
  | least + 1, none => a.times (least + 1) + choice

/-- The size of two alternatives. Those of a longer row share one choice. -/
def either (inRow : Bool) (a b : Size) : Size :=
  a + b + if inRow then both 4 else choice + place

end Size

end ClipSplice.Regex
