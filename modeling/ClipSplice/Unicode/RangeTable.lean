/-!
# Sets of code points

The properties that the Unicode standard gives to characters are sets of code points, and each is
written here as the closed intervals that make it up, in increasing order. `RangeTable.ofText`
reads the compact form in which the larger tables are kept: hexadecimal bounds, a hyphen between
the two ends of an interval, blanks between intervals.
-/

namespace ClipSplice

/-- A set of code points: closed intervals in increasing order. -/
structure RangeTable where
  ranges : List (Nat × Nat)
deriving Repr

namespace RangeTable

/-- Search intervals in increasing order; a point below an interval lies in no later one. -/
def search (n : Nat) : List (Nat × Nat) → Bool
  | [] => false
  | (lo, hi) :: rest => if n < lo then false else n ≤ hi || search n rest

/-- Intervals in increasing order: each ends before the next one starts. -/
abbrev Increasing (ranges : List (Nat × Nat)) : Prop :=
  ranges.Pairwise fun a b => a.1 ≤ a.2 ∧ a.2 < b.1

theorem exists_mem_of_search {n : Nat} {ranges : List (Nat × Nat)} (h : search n ranges = true) :
    ∃ r ∈ ranges, r.1 ≤ n ∧ n ≤ r.2 := by
  induction ranges with
  | nil => exact absurd h (by simp [search])
  | cons r rest ih =>
    by_cases below : n < r.1
    · simp [search, below] at h
    · simp only [search, below, if_false, Bool.or_eq_true, decide_eq_true_eq] at h
      rcases h with inside | later
      · exact ⟨r, List.mem_cons_self, Nat.le_of_not_lt below, inside⟩
      · obtain ⟨r', member, bounds⟩ := ih later
        exact ⟨r', List.mem_cons_of_mem r member, bounds⟩

/-- In increasing order the search finds every point that lies in an interval. -/
theorem search_eq_true_iff {n : Nat} {ranges : List (Nat × Nat)} (order : Increasing ranges) :
    search n ranges = true ↔ ∃ r ∈ ranges, r.1 ≤ n ∧ n ≤ r.2 := by
  refine ⟨exists_mem_of_search, ?_⟩
  induction ranges with
  | nil => simp
  | cons r rest ih =>
    rintro ⟨r', member, low, high⟩
    obtain ⟨before, order⟩ := List.pairwise_cons.1 order
    rcases List.mem_cons.1 member with rfl | member
    · simp [search, Nat.not_lt.2 low, high]
    · have later := before r' member
      have found := ih order ⟨r', member, low, high⟩
      simp [search, show ¬ n < r.1 by omega, found]

/-- Whether a character belongs to the set. -/
def contains (table : RangeTable) (c : Char) : Bool := search c.toNat table.ranges

/-- The value of a hexadecimal digit in lower case; every other character counts as zero. -/
def hexValue (c : Char) : Nat :=
  if '0' ≤ c ∧ c ≤ '9' then c.toNat - '0'.toNat
  else if 'a' ≤ c ∧ c ≤ 'f' then c.toNat - 'a'.toNat + 10
  else 0

/-- Read intervals from their text: `low` is the lower end already read, `n` the number so far. -/
def readRanges : List Char → Option Nat → Nat → List (Nat × Nat)
  | [], low, n => [(low.getD n, n)]
  | '-' :: rest, _, n => readRanges rest (some n) 0
  | ' ' :: rest, low, n => (low.getD n, n) :: readRanges rest none 0
  | c :: rest, low, n => readRanges rest low (16 * n + hexValue c)

/-- The set written as text, such as `"41-5a aa b5"`. -/
def ofText (text : String) : RangeTable := ⟨readRanges text.toList none 0⟩

/-- The set whose text runs over several lines. -/
def ofLines (lines : List String) : RangeTable := ofText (" ".intercalate lines)

end RangeTable

end ClipSplice
