import Reattempt.Document.Basic
import Reattempt.Settings.Basic

/-!
Settings in documents. A section or a field that is missing has its standard value, and spans of
time are whole milliseconds under names that end in `_ms`. `ofDocument?` reads what `toDocument`
writes, and every other order and choice of fields.
-/
namespace Reattempt

open Document in
def BreakerSettings.ofDocument? (n : Notation) (d : Document) : Option BreakerSettings := do
  let standard := BreakerSettings.standard
  match ← fields? n ["enabled", "failure_threshold", "timeout_ms", "min_calls"] d with
  | [enabled, threshold, timeout, minCalls] =>
    return {
      enabled := ← orElse? flag? standard.enabled enabled
      failureThreshold := ← orElse? u32? standard.failureThreshold threshold
      timeout := ← orElse? millis? standard.timeout timeout
      minCalls := ← orElse? u32? standard.minCalls minCalls }
  | _ => none

def RetrySettings.fieldNames : List String :=
  ["max_attempts", "initial_delay_ms", "max_delay_ms", "backoff_multiplier", "jitter_factor",
    "exponential_backoff", "classify_failures", "retryable_kinds", "non_retryable_kinds",
    "retryable_statuses", "non_retryable_statuses", "circuit_breaker"]

open Document in
def RetrySettings.ofDocument? (n : Notation) (d : Document) : Option RetrySettings := do
  let standard := RetrySettings.standard
  match ← fields? n fieldNames d with
  | [attempts, initial, longest, multiplier, jitter, exponential, classify, kinds, otherKinds,
      statuses, otherStatuses, breaker] =>
    return {
      maxAttempts := ← orElse? u32? standard.maxAttempts attempts
      initialDelay := ← orElse? millis? standard.initialDelay initial
      maxDelay := ← orElse? millis? standard.maxDelay longest
      backoffMultiplier := ← orElse? number? standard.backoffMultiplier multiplier
      jitterFactor := ← orElse? number? standard.jitterFactor jitter
      exponential := ← orElse? flag? standard.exponential exponential
      classifyFailures := ← orElse? flag? standard.classifyFailures classify
      retryableKinds := ← orElse? (listOf? (kind? n)) standard.retryableKinds kinds
      nonRetryableKinds := ← orElse? (listOf? (kind? n)) standard.nonRetryableKinds otherKinds
      retryableStatuses := ← orElse? (listOf? u16?) standard.retryableStatuses statuses
      nonRetryableStatuses := ← orElse? (listOf? u16?) standard.nonRetryableStatuses otherStatuses
      breaker := ← orElse? (BreakerSettings.ofDocument? n) standard.breaker breaker }
  | _ => none

open Document in
def PoolSettings.ofDocument? (n : Notation) (d : Document) : Option PoolSettings := do
  let standard := PoolSettings.standard
  match ← fields? n ["worker_threads", "max_pending", "thread_name"] d with
  | [threads, pending, name] =>
    return {
      workerThreads := ← orElse? u64? standard.workerThreads threads
      maxPending := ← orElse? u64? standard.maxPending pending
      threadName := ← orElse? text? standard.threadName name }
  | _ => none

open Document in
def LogSettings.ofDocument? (n : Notation) (d : Document) : Option LogSettings := do
  let standard := LogSettings.standard
  match ← fields? n ["filter", "json"] d with
  | [filter, json] =>
    return {
      filter := ← orElse? text? standard.filter filter
      json := ← orElse? flag? standard.json json }
  | _ => none

open Document in
def Settings.ofDocument? (n : Notation) (d : Document) : Option Settings := do
  let standard := Settings.standard
  match ← fields? n ["retry", "scheduler", "logging"] d with
  | [retry, pool, log] =>
    return {
      retry := ← orElse? (RetrySettings.ofDocument? n) standard.retry retry
      pool := ← orElse? (PoolSettings.ofDocument? n) standard.pool pool
      log := ← orElse? (LogSettings.ofDocument? n) standard.log log }
  | _ => none

namespace Document

def ofKinds (ks : List FailureKind) : Document := list (ks.map fun k => text (some k.name))

def ofStatuses (ss : List UInt16) : Document := list (ss.map fun s => whole s.toNat)

end Document

open Document in
def BreakerSettings.toDocument (s : BreakerSettings) : Document :=
  ofFields [("enabled", flag s.enabled), ("failure_threshold", whole s.failureThreshold.toNat),
    ("timeout_ms", ofMillis s.timeout), ("min_calls", whole s.minCalls.toNat)]

open Document in
def RetrySettings.toDocument (s : RetrySettings) : Document :=
  ofFields [("max_attempts", whole s.maxAttempts.toNat), ("initial_delay_ms", ofMillis s.initialDelay),
    ("max_delay_ms", ofMillis s.maxDelay), ("backoff_multiplier", real s.backoffMultiplier),
    ("jitter_factor", real s.jitterFactor), ("exponential_backoff", flag s.exponential),
    ("classify_failures", flag s.classifyFailures), ("retryable_kinds", ofKinds s.retryableKinds),
    ("non_retryable_kinds", ofKinds s.nonRetryableKinds),
    ("retryable_statuses", ofStatuses s.retryableStatuses),
    ("non_retryable_statuses", ofStatuses s.nonRetryableStatuses),
    ("circuit_breaker", s.breaker.toDocument)]

open Document in
def PoolSettings.toDocument (s : PoolSettings) : Document :=
  ofFields [("worker_threads", whole s.workerThreads.toNat), ("max_pending", whole s.maxPending.toNat),
    ("thread_name", text s.threadName)]

open Document in
def LogSettings.toDocument (s : LogSettings) : Document :=
  ofFields [("filter", text s.filter), ("json", flag s.json)]

def Settings.toDocument (s : Settings) : Document :=
  .ofFields [("retry", s.retry.toDocument), ("scheduler", s.pool.toDocument),
    ("logging", s.log.toDocument)]

end Reattempt
