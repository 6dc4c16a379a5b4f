import Reattempt.Policy.Basic

/-!
Building policies. A change sets one setting of a policy, the breaker's three thresholds together;
a chain of changes is applied in order and the result validated once, at the end.
-/
namespace Reattempt

/-- One change to a policy under construction. -/
inductive PolicyChange where
  | maxAttempts (n : UInt32)
  | initialDelay (d : Duration)
  | maxDelay (d : Duration)
  | backoffMultiplier (x : Binary64)
  | jitterFactor (x : Binary64)
  | noJitter
  | exponential (on : Bool)
  /-- Sets the thresholds and switches the breaker on. -/
  | circuitBreaker (config : BreakerConfig)
  | breakerEnabled (on : Bool)
  | classifyFailures (on : Bool)
  | retryableKinds (kinds : List FailureKind)
  | nonRetryableKinds (kinds : List FailureKind)
  | retryableStatuses (statuses : List UInt16)
  | nonRetryableStatuses (statuses : List UInt16)

namespace Policy

def apply (p : Policy) : PolicyChange → Policy
  | .maxAttempts n => { p with maxAttempts := n }
  | .initialDelay d => { p with initialDelay := d }
  | .maxDelay d => { p with maxDelay := d }
  | .backoffMultiplier x => { p with backoffMultiplier := x }
  | .jitterFactor x => { p with jitterFactor := x }
  | .noJitter => { p with jitterFactor := 0 }
  | .exponential on => { p with exponential := on }
  | .circuitBreaker config => { p with breakerEnabled := true, breaker := config }
  | .breakerEnabled on => { p with breakerEnabled := on }
  | .classifyFailures on => { p with classifyFailures := on }
  | .retryableKinds ks => { p with retryableKinds := ks }
  | .nonRetryableKinds ks => { p with nonRetryableKinds := ks }
  | .retryableStatuses ss => { p with retryableStatuses := ss }
  | .nonRetryableStatuses ss => { p with nonRetryableStatuses := ss }

/-- The policy after a chain of changes, if it is valid. -/
def build (seed : Policy) (changes : List PolicyChange) : Except ConfigError Policy :=
  let p := changes.foldl apply seed
  p.validate.map fun _ => p

end Policy

end Reattempt
