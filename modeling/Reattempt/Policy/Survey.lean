import Reattempt.Policy.Backoff

/-!
What many draws make of a wait: whether the waits stay within bounds, and whether chance moves them
at all.
-/
namespace Reattempt

/-- The draw at a place in a sequence that fills its range evenly: multiples of a number whose ratio
to the range is close to the golden one. -/
def Draw.ofPlace (n : Nat) : Draw :=
  ⟨(n + 1) * 5566755282872655 % (2 ^ 53 + 1), Nat.mod_lt _ (by decide)⟩

/-- What is seen in a list of waits around a base. -/
structure WaitSurvey where
  withinBounds : Bool
  withinLongest : Bool
  someBelow : Bool
  someAbove : Bool
  varies : Bool
  deriving DecidableEq, Repr

namespace WaitSurvey

def of (waits : List Duration) (base low high longest : Duration) : WaitSurvey where
  withinBounds := waits.all fun d => low ≤ d && d ≤ high
  withinLongest := waits.all fun d => decide (d ≤ longest)
  someBelow := waits.any fun d => decide (d < base)
  someAbove := waits.any fun d => decide (base < d)
  varies := waits.any fun d => waits.head?.any (· ≠ d)

end WaitSurvey

namespace Policy

/-- So many waits for one base. -/
def sampleJitter (p : Policy) (base : Duration) (count : Nat) : List Duration :=
  (List.range count).map fun n => p.applyJitter (.ofPlace n) base

/-- So many waits after one attempt. -/
def sampleDelay (p : Policy) (attempt count : Nat) : List Duration :=
  (List.range count).map fun n => p.calculateDelay (.ofPlace n) attempt

end Policy

end Reattempt
