import Reattempt.Policy.Basic
import Reattempt.Text.Described

/-!
Policies as text, with every setting in the order of declaration.
-/
namespace Reattempt.Policy

open Text in
def text (p : Policy) : String :=
  let kinds := describeSet FailureKind.title
  let statuses := describeSet fun s : UInt16 => toString s.toNat
  describe "RetryPolicy"
    [("max_attempts", toString p.maxAttempts.toNat),
      ("initial_delay", p.initialDelay.text),
      ("max_delay", p.maxDelay.text),
      ("backoff_multiplier", p.backoffMultiplier.write .described),
      ("jitter_factor", p.jitterFactor.write .described),
      ("exponential_backoff", flagText p.exponential),
      ("circuit_breaker_enabled", flagText p.breakerEnabled),
      ("failure_threshold", toString p.breaker.failureThreshold.toNat),
      ("breaker_timeout", p.breaker.timeout.text),
      ("breaker_min_calls", toString p.breaker.minCalls.toNat),
      ("classify_failures", flagText p.classifyFailures),
      ("retryable_kinds", kinds p.retryableKinds),
      ("non_retryable_kinds", kinds p.nonRetryableKinds),
      ("retryable_statuses", statuses p.retryableStatuses),
      ("non_retryable_statuses", statuses p.nonRetryableStatuses)]
    false

end Reattempt.Policy
