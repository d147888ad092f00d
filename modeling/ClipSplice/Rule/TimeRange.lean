import ClipSplice.Rule.DatePattern
import ClipSplice.Time.Comparison

/-!
# Time ranges

A time range is a closed interval of instants, with the place from which the instant to be tested
is taken: the clock, or a date in the name.
-/

namespace ClipSplice

/-- Where the instant that is tested comes from. -/
inductive TimeSource where
  | now
  | embedded (pattern : DatePattern)

/-- The instants from `start` to `finish`, both included. -/
structure TimeRange where
  start : Instant
  finish : Instant
  source : TimeSource := .now

namespace TimeRange

/-- The range that a comparison with an instant stands for. -/
def compare? (comparison : Comparison) (t : Instant) : Option TimeRange :=
  (comparison.bounds? t).map fun (start, finish) => { start, finish }

/-- The same range for the date in a name. -/
def withPattern (range : TimeRange) (pattern : DatePattern) : TimeRange :=
  { range with source := .embedded pattern }

/-- Whether an instant lies in the range. -/
def contains (range : TimeRange) (t : Instant) : Bool := range.start ≤ t && t ≤ range.finish

/-- The instant that is tested for a name. -/
def instant? (range : TimeRange) (name : String) (now : Instant) : Option Instant :=
  match range.source with
  | .now => some now
  | .embedded pattern => pattern.extract? name

/-- Whether the range holds for a name. -/
def holds (range : TimeRange) (name : String) (now : Instant) : Bool :=
  (range.instant? name now).any range.contains

end TimeRange

end ClipSplice
