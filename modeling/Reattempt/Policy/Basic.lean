import Reattempt.Binary64.Arithmetic
import Reattempt.Breaker.Config
import Reattempt.Failure.Basic

/-!
Retry policies: how often to try, how long to wait, whether a circuit breaker gates the calls, and
which failures deserve another attempt. `validate` names the first field out of range.
-/
namespace Reattempt

/-- How an engine retries. -/
structure Policy where
  /-- Invocations allowed, the first one included. -/
  maxAttempts : UInt32
  /-- The wait before the first retry. -/
  initialDelay : Duration
  /-- The longest single wait. -/
  maxDelay : Duration
  /-- The growth between one wait and the next. -/
  backoffMultiplier : Binary64
  /-- The relative spread of a wait. -/
  jitterFactor : Binary64
  /-- Waits grow; if not, every wait is based on the first. -/
  exponential : Bool
  breakerEnabled : Bool
  breaker : BreakerConfig
  /-- Failures are classified; if not, every failure is retried. -/
  classifyFailures : Bool
  retryableKinds : List FailureKind
  nonRetryableKinds : List FailureKind
  retryableStatuses : List UInt16
  nonRetryableStatuses : List UInt16

namespace Policy

/-- The policy that every other one starts from. -/
def standard : Policy where
  maxAttempts := 3
  initialDelay := .ofMillis 1000
  maxDelay := .ofSeconds 30
  backoffMultiplier := 2
  jitterFactor := .ofRatio false 1 10
  exponential := true
  breakerEnabled := false
  breaker := .standard
  classifyFailures := true
  retryableKinds := [.connection, .timeout, .resourceAccess]
  nonRetryableKinds := [.invalidArgument, .security]
  retryableStatuses := [408, 429, 500, 502, 503, 504]
  nonRetryableStatuses := [400, 401, 403, 404, 422]

/-- The standard policy with its breaker switched on. -/
def guarded : Policy := { standard with breakerEnabled := true }

/-- More attempts, shorter waits and a quicker breaker. -/
def aggressive : Policy :=
  { standard with
    maxAttempts := 5
    initialDelay := .ofMillis 500
    maxDelay := .ofSeconds 10
    backoffMultiplier := .ofRatio false 3 2
    jitterFactor := .ofRatio false 1 5
    breakerEnabled := true
    breaker := ⟨3, .ofSeconds 30, 3⟩ }

def checks (p : Policy) : List (Bool × ConfigError) :=
  [(p.maxAttempts == 0, ⟨"max_attempts", .positive⟩),
    (p.initialDelay.isZero, ⟨"initial_delay", .positive⟩),
    (decide (p.maxDelay < p.initialDelay), ⟨"max_delay", .atLeastInitialDelay p.initialDelay⟩),
    (!(p.backoffMultiplier.isFinite && Binary64.lt 1 p.backoffMultiplier),
      ⟨"backoff_multiplier", .growing p.backoffMultiplier⟩),
    (!(Binary64.le 0 p.jitterFactor && p.jitterFactor.le 1),
      ⟨"jitter_factor", .fraction p.jitterFactor⟩)]
    ++ if p.breakerEnabled then p.breaker.checks else []

/-- Succeeds for a policy that an engine can run, else names the first field out of range. -/
def validate (p : Policy) : Except ConfigError Unit := ConfigError.firstOf p.checks

/-- Kinds that are never retried win over retryable ones; a kind in neither list is not retried. -/
def retriesKind (p : Policy) (k : FailureKind) : Bool :=
  !p.nonRetryableKinds.contains k && p.retryableKinds.contains k

/-- Codes that are never retried win over retryable ones; a code in neither list is not retried. -/
def retriesStatus (p : Policy) (s : UInt16) : Bool :=
  !p.nonRetryableStatuses.contains s && p.retryableStatuses.contains s

/-- The codes that are retried, each one once and ascending. -/
def retriedStatuses (p : Policy) : List UInt16 :=
  let listed := p.retryableStatuses.foldl (fun marks s => marks.setIfInBounds s.toNat true)
    (Array.replicate (2 ^ 16) false)
  (((List.range (2 ^ 16)).filter fun n => listed.getD n false).map UInt16.ofNat).filter
    p.retriesStatus

/-- Whether a failure deserves another attempt. A kind that is never retried decides at once; else
the status decides, if there is one, and the kind if there is none. -/
def shouldRetry (p : Policy) (f : Failure) : Bool :=
  if !p.classifyFailures then true
  else if p.nonRetryableKinds.contains f.kind then false
  else
    match f.status with
    | some s => p.retriesStatus s
    | none => p.retriesKind f.kind

/-- The two lists have the same members. -/
def sameMembers {α : Type} [BEq α] (xs ys : List α) : Bool :=
  xs.all ys.contains && ys.all xs.contains

/-- Equality of policies: the multiplier and the factor by their numbers, the lists by their
members. -/
def same (p q : Policy) : Bool :=
  p.maxAttempts == q.maxAttempts && p.initialDelay == q.initialDelay && p.maxDelay == q.maxDelay
    && p.backoffMultiplier.same q.backoffMultiplier && p.jitterFactor.same q.jitterFactor
    && p.exponential == q.exponential && p.breakerEnabled == q.breakerEnabled
    && p.breaker == q.breaker && p.classifyFailures == q.classifyFailures
    && sameMembers p.retryableKinds q.retryableKinds
    && sameMembers p.nonRetryableKinds q.nonRetryableKinds
    && sameMembers p.retryableStatuses q.retryableStatuses
    && sameMembers p.nonRetryableStatuses q.nonRetryableStatuses

end Policy

end Reattempt
