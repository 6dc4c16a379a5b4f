import Reattempt.Policy.Basic

/-!
Waits between attempts. The base of a wait is free of jitter: it starts at the initial delay and is
multiplied from one retry to the next, up to the longest wait. Jitter spreads each wait around its
base and never enters the next base.
-/
namespace Reattempt

/-- One draw of chance, even over the points from -1 to 1 in steps of `2 ^ -52`. -/
abbrev Draw := Fin (2 ^ 53 + 1)

namespace Draw

/-- The drawn point. -/
def fraction (d : Draw) : Binary64 := .ofSignedUnits false (((d.val : Int) - 2 ^ 52) * 2 ^ 1022)

/-- The draw in the middle, which moves nothing. -/
def middle : Draw := ⟨2 ^ 52, by decide⟩

end Draw

namespace Duration

def toBinary64 (d : Duration) : Binary64 := .ofNat d.nanos

/-- The whole nanoseconds nearest to a value held within zero and the cap. What is not a number is
the cap, and no span read from a value is longer than 64 bits of nanoseconds. -/
def ofBinary64 (x : Binary64) (cap : Duration) : Duration :=
  let limit := cap.toBinary64
  let held := if x.isNan then limit else if x.lt 0 then 0 else if limit.lt x then limit else x
  (ofNanos (min (held.round?.getD (2 ^ 64 - 1)) (2 ^ 64 - 1))).shorter cap

/-- A span multiplied by a factor, up to the cap. -/
def scale (d : Duration) (factor : Binary64) (cap : Duration) : Duration :=
  ofBinary64 (d.toBinary64.mul factor) cap

end Duration

namespace Policy

/-- The base of the wait that follows a wait based on `current`. -/
def nextBackoff (p : Policy) (current : Duration) : Duration :=
  if p.exponential then current.scale p.backoffMultiplier p.maxDelay else p.initialDelay

/-- The wait for a base: moved by the drawn part of the spread, and held within zero and the
longest wait. -/
def applyJitter (p : Policy) (draw : Draw) (base : Duration) : Duration :=
  let base := base.shorter p.maxDelay
  if p.jitterFactor.le 0 || base.isZero then base
  else
    let spread := base.toBinary64.mul p.jitterFactor
    .ofBinary64 (base.toBinary64.add (spread.mul draw.fraction)) p.maxDelay

/-- The base of the wait that follows an attempt, counted from one, in closed form. -/
def closedBackoff (p : Policy) (attempt : Nat) : Duration :=
  if p.exponential then
    p.initialDelay.scale (p.backoffMultiplier.pow (min (attempt - 1) (2 ^ 31 - 1))) p.maxDelay
  else p.initialDelay

/-- The wait that follows an attempt, counted from one. -/
def calculateDelay (p : Policy) (draw : Draw) (attempt : Nat) : Duration :=
  p.applyJitter draw (p.closedBackoff attempt)

/-- So many waits in a row, each from its base, the bases from `base` on. -/
def waits (p : Policy) (draw : Draw) (base : Duration) : Nat → List Duration
  | 0 => []
  | n + 1 => p.applyJitter draw base :: p.waits draw (p.nextBackoff base) n

end Policy

end Reattempt
