import Reattempt.Policy.Change
import Reattempt.Text.Blank

/-!
Settings as a configuration states them: the retry policy with its breaker, the pool that waits out
delays, and the log output. Every setting has a standard value. Settings are valid when the policy
they describe is and the pool can run something.
-/
namespace Reattempt

structure BreakerSettings where
  enabled : Bool
  failureThreshold : UInt32
  timeout : Duration
  minCalls : UInt32
  deriving DecidableEq

structure RetrySettings where
  maxAttempts : UInt32
  initialDelay : Duration
  maxDelay : Duration
  backoffMultiplier : Binary64
  jitterFactor : Binary64
  exponential : Bool
  classifyFailures : Bool
  retryableKinds : List FailureKind
  nonRetryableKinds : List FailureKind
  retryableStatuses : List UInt16
  nonRetryableStatuses : List UInt16
  breaker : BreakerSettings

/-- The worker pool that waits out delays. -/
structure PoolSettings where
  workerThreads : UInt64
  /-- Retries that may wait at once. -/
  maxPending : UInt64
  threadName : String
  deriving DecidableEq

structure LogSettings where
  filter : String
  json : Bool
  deriving DecidableEq

/-- All settings. -/
structure Settings where
  retry : RetrySettings
  pool : PoolSettings
  log : LogSettings

namespace BreakerSettings

def standard : BreakerSettings :=
  let p := Policy.standard
  ⟨p.breakerEnabled, p.breaker.failureThreshold, p.breaker.timeout, p.breaker.minCalls⟩

end BreakerSettings

namespace RetrySettings

def standard : RetrySettings :=
  let p := Policy.standard
  { maxAttempts := p.maxAttempts
    initialDelay := p.initialDelay
    maxDelay := p.maxDelay
    backoffMultiplier := p.backoffMultiplier
    jitterFactor := p.jitterFactor
    exponential := p.exponential
    classifyFailures := p.classifyFailures
    retryableKinds := p.retryableKinds
    nonRetryableKinds := p.nonRetryableKinds
    retryableStatuses := p.retryableStatuses
    nonRetryableStatuses := p.nonRetryableStatuses
    breaker := .standard }

/-- The changes that turn the standard policy into the one described. -/
def changes (s : RetrySettings) : List PolicyChange :=
  [.maxAttempts s.maxAttempts, .initialDelay s.initialDelay, .maxDelay s.maxDelay,
    .backoffMultiplier s.backoffMultiplier, .jitterFactor s.jitterFactor,
    .exponential s.exponential, .classifyFailures s.classifyFailures,
    .retryableKinds s.retryableKinds, .nonRetryableKinds s.nonRetryableKinds,
    .retryableStatuses s.retryableStatuses, .nonRetryableStatuses s.nonRetryableStatuses,
    .circuitBreaker ⟨s.breaker.failureThreshold, s.breaker.timeout, s.breaker.minCalls⟩,
    .breakerEnabled s.breaker.enabled]

/-- The policy described, if it is valid. -/
def toPolicy (s : RetrySettings) : Except ConfigError Policy := Policy.standard.build s.changes

/-- Equality, the multiplier and the factor by their numbers and the lists item by item. -/
def same (s t : RetrySettings) : Bool :=
  s.maxAttempts == t.maxAttempts && s.initialDelay == t.initialDelay && s.maxDelay == t.maxDelay
    && s.backoffMultiplier.same t.backoffMultiplier && s.jitterFactor.same t.jitterFactor
    && s.exponential == t.exponential && s.classifyFailures == t.classifyFailures
    && s.retryableKinds == t.retryableKinds && s.nonRetryableKinds == t.nonRetryableKinds
    && s.retryableStatuses == t.retryableStatuses
    && s.nonRetryableStatuses == t.nonRetryableStatuses && s.breaker == t.breaker

end RetrySettings

namespace PoolSettings

def standard : PoolSettings := ⟨2, 1024, "retry-scheduler"⟩

def checks (s : PoolSettings) : List (Bool × ConfigError) :=
  [(s.workerThreads == 0, ⟨"worker_threads", .atLeastOne⟩),
    (s.maxPending == 0, ⟨"max_pending", .atLeastOne⟩),
    ((Text.trimChars s.threadName.toList).isEmpty, ⟨"thread_name", .notBlank⟩)]

/-- Succeeds if the pool can run something. -/
def validate (s : PoolSettings) : Except ConfigError Unit := ConfigError.firstOf s.checks

end PoolSettings

namespace LogSettings

def standard : LogSettings := ⟨"info", false⟩

end LogSettings

namespace Settings

def standard : Settings := ⟨.standard, .standard, .standard⟩

instance : Inhabited Settings := ⟨standard⟩

/-- The first fault found, in the retry section before the pool. -/
def validate (s : Settings) : Except ConfigError Unit := do
  let _ ← s.retry.toPolicy
  s.pool.validate

def same (s t : Settings) : Bool := s.retry.same t.retry && s.pool == t.pool && s.log == t.log

end Settings

end Reattempt
