import Reattempt.Breaker.Config
import Reattempt.Time.Clock

/-!
The circuit breaker. Failures that reach the threshold open it; once its cooldown has strictly
elapsed the next look at it makes it half-open and lets probes through; enough successful probes
close it. A success while it is closed takes one failure back.

Reading the clock may fail. The operations `isOpen`, `recordFailure` and `snapshot` take a reading,
and say what is left behind when there is none.
-/
namespace Reattempt

/-- Where a breaker stands. -/
inductive Circuit where
  /-- Calls flow. -/
  | closed
  /-- Calls are rejected. -/
  | opened
  /-- Calls flow as probes. -/
  | halfOpen
  deriving DecidableEq, Repr

namespace Circuit

def name : Circuit → String
  | closed => "CLOSED"
  | opened => "OPEN"
  | halfOpen => "HALF_OPEN"

/-- The name used in descriptions of a structure. -/
def title : Circuit → String
  | closed => "Closed"
  | opened => "Open"
  | halfOpen => "HalfOpen"

end Circuit

/-- A breaker: its thresholds, where it stands, and what it has counted. -/
structure Breaker where
  config : BreakerConfig
  circuit : Circuit
  failures : Nat
  successes : Nat
  lastFailure : Option Instant
  deriving DecidableEq

/-- A point-in-time view of a breaker. -/
structure BreakerSnapshot where
  circuit : Circuit
  failures : Nat
  successes : Nat
  /-- Time since the most recent failure. -/
  age : Option Duration
  /-- Cooldown left; only while open. -/
  remaining : Option Duration
  deriving DecidableEq

namespace Breaker

/-- One more, up to the largest count. -/
def countUp (n : Nat) : Nat := min (n + 1) (2 ^ 32 - 1)

/-- A closed breaker that has counted nothing. -/
def fresh (config : BreakerConfig) : Breaker := ⟨config, .closed, 0, 0, none⟩

def new (config : BreakerConfig) : Except ConfigError Breaker :=
  config.validate.map fun _ => fresh config

/-- The breaker after a look at an instant: half-open if it was open and the cooldown has strictly
elapsed, else unchanged. -/
def look (b : Breaker) (now : Instant) : Breaker :=
  match b.circuit, b.lastFailure with
  | .opened, some t =>
    if b.config.timeout < now.since t then { b with circuit := .halfOpen, failures := 0, successes := 0 }
    else b
  | .opened, none => { b with circuit := .halfOpen, failures := 0, successes := 0 }
  | _, _ => b

/-- Whether calls must be rejected, and the breaker after the look. Only an open breaker with a
failure behind it reads the clock. -/
def isOpen (b : Breaker) (reading : Except Fault Instant) : Breaker × Except Fault Bool :=
  match b.circuit, b.lastFailure, reading with
  | .opened, some _, .error f => (b, .error f)
  | .opened, some _, .ok now => let b := b.look now; (b, .ok (b.circuit == .opened))
  | .opened, none, _ => ({ b with circuit := .halfOpen, failures := 0, successes := 0 }, .ok false)
  | _, _, _ => (b, .ok false)

def recordSuccess (b : Breaker) : Breaker :=
  match b.circuit with
  | .closed => { b with failures := b.failures - 1 }
  | .halfOpen =>
    if b.config.minCalls.toNat ≤ countUp b.successes then
      { b with circuit := .closed, failures := 0, successes := 0 }
    else { b with successes := countUp b.successes }
  | .opened => b

/-- Counts a failure, before it is dated. -/
def countFailure (b : Breaker) : Breaker := { b with failures := countUp b.failures }

/-- Dates the failure just counted, and opens the circuit if the threshold is met. -/
def dateFailure (b : Breaker) (now : Instant) : Breaker :=
  { b with
    lastFailure := some now
    circuit := if b.config.failureThreshold.toNat ≤ b.failures then .opened else b.circuit }

/-- Records a failure. It is counted before the clock is read. -/
def recordFailure (b : Breaker) (reading : Except Fault Instant) : Breaker × Option Fault :=
  match reading with
  | .ok now => (b.countFailure.dateFailure now, none)
  | .error f => (b.countFailure, some f)

/-- Records so many failures, up to the first that meets a fault. -/
def recordFailures (b : Breaker) (reading : Except Fault Instant) : Nat → Breaker × Option Fault
  | 0 => (b, none)
  | n + 1 =>
    match b.recordFailure reading with
    | (b, none) => b.recordFailures reading n
    | (b, some f) => (b, some f)

/-- Forces the circuit closed and forgets all counts. -/
def reset (b : Breaker) : Breaker := fresh b.config

/-- The view at an instant, without applying a pending transition. -/
def snapshotAt (b : Breaker) (now : Instant) : BreakerSnapshot :=
  let age := b.lastFailure.map now.since
  { circuit := b.circuit
    failures := b.failures
    successes := b.successes
    age
    remaining := if b.circuit = .opened then age.map b.config.timeout.monus else none }

/-- The view now. The clock is read only if there is a failure to date. -/
def snapshot (b : Breaker) (reading : Except Fault Instant) : Except Fault BreakerSnapshot :=
  match b.lastFailure, reading with
  | none, _ => .ok ⟨b.circuit, b.failures, b.successes, none, none⟩
  | some _, .ok now => .ok (b.snapshotAt now)
  | some _, .error f => .error f

end Breaker

end Reattempt
