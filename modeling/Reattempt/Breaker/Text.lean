import Reattempt.Breaker.Basic
import Reattempt.Json.Writer
import Reattempt.Text.Described

/-!
Breakers as text, and their snapshots as JSON with spans in whole milliseconds.
-/
namespace Reattempt

open Text in
def BreakerConfig.text (c : BreakerConfig) : String :=
  describe "CircuitBreakerConfig"
    [("failure_threshold", toString c.failureThreshold.toNat), ("timeout", c.timeout.text),
      ("min_calls", toString c.minCalls.toNat)]
    false

def Breaker.text (b : Breaker) : String :=
  Text.describe "CircuitBreaker" [("config", b.config.text), ("state", b.circuit.title)] true

namespace BreakerSnapshot

open Document in
def toDocument (s : BreakerSnapshot) : Document :=
  ofFields [("state", text s.circuit.name), ("failure_count", whole s.failures),
    ("success_count", whole s.successes), ("last_failure_age_ms", ofMillisOrNull s.age),
    ("open_remaining_ms", ofMillisOrNull s.remaining)]

def json (s : BreakerSnapshot) : String := Json.write s.toDocument

end BreakerSnapshot

end Reattempt
