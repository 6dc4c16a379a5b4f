import Reattempt.Fault
import Reattempt.Time.Duration

/-!
A clock that moves only when it is told to. It shows the span since its start; the instants it can
name end at `2 ^ 63` seconds, so that a clock set further than that cannot be read.
-/
namespace Reattempt

/-- The first span since the start, in nanoseconds, that is no instant. -/
def Instant.limit : Nat := 2 ^ 63 * 10 ^ 9

/-- A point in time, as nanoseconds since the start of the clock. -/
structure Instant where
  nanos : Nat
  nanos_lt : nanos < Instant.limit
  deriving DecidableEq

namespace Instant

/-- The span from `earlier` to `later`, zero if `earlier` lies in the future. -/
def since (later earlier : Instant) : Duration :=
  ⟨later.nanos - earlier.nanos, by
    have := later.nanos_lt
    simp only [limit, Duration.maxNanos] at *
    omega⟩

/-- The instant a span later, if there is one. -/
def add? (t : Instant) (d : Duration) : Option Instant :=
  if h : t.nanos + d.nanos < limit then some ⟨t.nanos + d.nanos, h⟩ else none

instance : LE Instant := ⟨fun a b => a.nanos ≤ b.nanos⟩
instance : LT Instant := ⟨fun a b => a.nanos < b.nanos⟩
instance (a b : Instant) : Decidable (a ≤ b) := inferInstanceAs (Decidable (a.nanos ≤ b.nanos))
instance (a b : Instant) : Decidable (a < b) := inferInstanceAs (Decidable (a.nanos < b.nanos))

end Instant

/-- A clock that is moved by hand. -/
structure Clock where
  elapsed : Duration
  deriving DecidableEq, Inhabited

namespace Clock

def start : Clock := ⟨Duration.zero⟩

/-- The instant the clock shows, if it can be named. -/
def now? (c : Clock) : Option Instant :=
  if h : c.elapsed.nanos < Instant.limit then some ⟨c.elapsed.nanos, h⟩ else none

def read (c : Clock) : Except Fault Instant :=
  match c.now? with
  | some t => .ok t
  | none => .error .instantOverflow

/-- Moves the clock forward; a sum that does not exist leaves it as it was. -/
def advance (c : Clock) (d : Duration) : Except Fault Clock :=
  match c.elapsed.add? d with
  | some e => .ok ⟨e⟩
  | none => .error .durationOverflow

/-- The span since an instant, zero if it lies in the future. -/
def elapsedSince (c : Clock) (earlier : Instant) : Except Fault Duration :=
  c.read.map (·.since earlier)

end Clock

end Reattempt
