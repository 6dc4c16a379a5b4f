import Reattempt.ConfigError

/-!
The thresholds of a circuit breaker. All three must be positive.
-/
namespace Reattempt

/-- The thresholds of a breaker. -/
structure BreakerConfig where
  /-- Failures that open the circuit. -/
  failureThreshold : UInt32
  /-- How long an open circuit waits before it admits probes. -/
  timeout : Duration
  /-- Successful probes that close a half-open circuit. -/
  minCalls : UInt32
  deriving DecidableEq

namespace BreakerConfig

def standard : BreakerConfig := ⟨5, .ofSeconds 60, 3⟩

def checks (c : BreakerConfig) : List (Bool × ConfigError) :=
  [(c.failureThreshold == 0, ⟨"failure_threshold", .positive⟩),
    (c.timeout.isZero, ⟨"breaker_timeout", .positive⟩),
    (c.minCalls == 0, ⟨"breaker_min_calls", .positive⟩)]

def validate (c : BreakerConfig) : Except ConfigError Unit := ConfigError.firstOf c.checks

end BreakerConfig

end Reattempt
