import Reattempt.Time.Clock

/-!
Timers. A timer counts whole milliseconds and never rings early, so that it rings with the first full
millisecond after its span has elapsed. No span counts for more than thirty years.
-/
namespace Reattempt.Timer

/-- The next full millisecond, in nanoseconds. -/
def roundUp (nanos : Nat) : Nat := (nanos + (10 ^ 6 - 1)) / 10 ^ 6 * 10 ^ 6

/-- Thirty years of 365 days. -/
def farFuture : Duration := .ofSeconds (30 * 365 * 24 * 60 * 60)

/-- The time at which a timer rings, in nanoseconds. -/
def rings (set span : Duration) : Nat := roundUp (set.nanos + min span.nanos farFuture.nanos)

end Reattempt.Timer
