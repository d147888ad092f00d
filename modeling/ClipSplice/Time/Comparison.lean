import ClipSplice.Time.Instant

/-!
# Comparing with an instant

A comparison with an instant is kept as the closed interval of the instants that satisfy it. Clocks
are taken to count microseconds, so that "before" ends one microsecond early and "after" starts one
microsecond late. "Equal" means the same day, up to its last whole second.
-/

namespace ClipSplice

/-- The ways to compare with an instant. -/
inductive Comparison where
  | equal
  | greater
  | greaterOrEqual
  | less
  | lessOrEqual
deriving Repr, DecidableEq

namespace Comparison

/-- The sign of a comparison. -/
def sign : Comparison → String
  | equal => "="
  | greater => ">"
  | greaterOrEqual => ">="
  | less => "<"
  | lessOrEqual => "<="

/-- The ends of the interval that a comparison stands for. There is none when the calendar ends
within a microsecond. -/
def bounds? (comparison : Comparison) (t : Instant) : Option (Instant × Instant) :=
  match comparison with
  | equal => some (.midnight t.date, .lastSecond t.date)
  | lessOrEqual => some (.first, t)
  | greaterOrEqual => some (t, .last)
  | less => t.previousMicrosecond?.map fun finish => (.first, finish)
  | greater => t.nextMicrosecond?.map fun start => (start, .last)

end Comparison

end ClipSplice
