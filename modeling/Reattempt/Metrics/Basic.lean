import Reattempt.Binary64.Arithmetic

/-!
Counters over every call through one engine, and the rates derived from them. The counters
themselves have no limit; a reading of them has 64 bits.
-/
namespace Reattempt

/-- What has been counted. -/
structure Metrics where
  /-- Invocations of operations. -/
  attempts : Nat
  /-- Calls that ended well. -/
  successes : Nat
  /-- Calls that ended in a failure of their own. -/
  failures : Nat
  /-- Retries asked for. -/
  retries : Nat
  deriving DecidableEq, Repr

namespace Metrics

def none : Metrics := ⟨0, 0, 0, 0⟩

instance : Inhabited Metrics := ⟨none⟩

def recordAttempt (m : Metrics) : Metrics := { m with attempts := m.attempts + 1 }
def recordSuccess (m : Metrics) : Metrics := { m with successes := m.successes + 1 }
def recordFailure (m : Metrics) : Metrics := { m with failures := m.failures + 1 }
def recordRetry (m : Metrics) : Metrics := { m with retries := m.retries + 1 }

end Metrics

/-- A reading of the counters. -/
structure MetricsReading where
  attempts : UInt64
  successes : UInt64
  failures : UInt64
  retries : UInt64
  /-- One while the engine's breaker is open, else zero. -/
  openBreakers : Nat
  deriving DecidableEq

namespace MetricsReading

def of (m : Metrics) (circuitOpen : Bool) : MetricsReading where
  attempts := .ofNat m.attempts
  successes := .ofNat m.successes
  failures := .ofNat m.failures
  retries := .ofNat m.retries
  openBreakers := if circuitOpen then 1 else 0

/-- Successes per attempt; one before any attempt. -/
def successRate (r : MetricsReading) : Binary64 :=
  if r.attempts = 0 then 1
  else (Binary64.ofNat r.successes.toNat).div (.ofNat r.attempts.toNat)

def failureRate (r : MetricsReading) : Binary64 := Binary64.sub 1 r.successRate

/-- Calls that have ended. -/
def operations (r : MetricsReading) : Nat := r.successes.toNat + r.failures.toNat

/-- Retries per call that has ended; zero before any has. -/
def averageRetries (r : MetricsReading) : Binary64 :=
  if r.operations = 0 then 0
  else (Binary64.ofNat r.retries.toNat).div (.ofNat r.operations)

end MetricsReading

end Reattempt
