import Reattempt.Breaker.Basic
import Reattempt.Engine.Operation
import Reattempt.Engine.Scheduler
import Reattempt.Metrics.Basic
import Reattempt.Policy.Backoff

/-!
An engine and what it knows between steps: its clock, metrics and breaker, every call with the
attempt that waits to be run, the cancellation tokens of callers, and the scheduler's room. A
journal keeps what happened, newest first.
-/
namespace Reattempt

/-- An engine: its policy, the scheduler that its retries are handed to, and the draw of chance for
the wait after each attempt of each call. -/
structure Engine (Room : Type) where
  policy : Policy
  scheduler : Scheduler Room
  chance : Nat → Nat → Draw

namespace Engine

/-- The time from which on no retry of a call may start, and the span it was derived from. -/
structure Deadline where
  expires : Instant
  budget : Duration
  deriving DecidableEq

/-- What a call needs from one attempt to the next. -/
structure Continuation where
  /-- The attempt to be made, counted from one. -/
  attempt : Nat
  /-- The base of the wait after it, free of jitter. -/
  backoff : Duration
  deadline : Option Deadline
  deriving DecidableEq

/-- What a caller still holds of a call. -/
inductive Handle where
  /-- A handle from which the outcome has not been taken. -/
  | live
  /-- A handle from which the outcome has been taken. -/
  | spent
  /-- Nothing. -/
  | gone
  deriving DecidableEq, Repr

/-- One call. -/
structure Call where
  name : String
  operation : Operation
  /-- The token it was started with. -/
  token : Option String
  /-- Cancelled by way of its handle. -/
  cancelled : Bool
  invocations : Nat
  /-- The attempt that waits to be run. -/
  waiting : Option Continuation
  /-- The outcomes handed to the caller, oldest first. -/
  delivered : List Outcome
  handle : Handle

/-- A call of which nothing is known. -/
def Call.blank : Call := ⟨"", fun _ => ⟨none, none, .value 0⟩, none, false, 0, none, [], .gone⟩

/-- What happened. -/
inductive Event where
  /-- The breaker was asked whether it is open. -/
  | looked
  /-- The breaker was forced closed. -/
  | reset
  | invoked (call attempt : Nat)
  | requested (r : Request)
  | settled (call : Nat) (outcome : Outcome)

/-- An event and the time on the clock. -/
structure Entry where
  time : Duration
  event : Event

/-- What an engine knows between steps. -/
structure State (Room : Type) where
  clock : Clock
  metrics : Metrics
  breaker : Option Breaker
  /-- The tokens of callers, and whether each is cancelled. -/
  tokens : List (String × Bool)
  /-- The calls, in the order in which they were started. -/
  calls : List Call
  room : Room
  journal : List Entry

variable {Room : Type}

/-- An engine that runs a policy, if the policy is valid and its breaker, where it is enabled, can be
made. -/
def new (policy : Policy) (scheduler : Scheduler Room) (chance : Nat → Nat → Draw) :
    Except ConfigError (Engine Room) := do
  policy.validate
  if policy.breakerEnabled then
    discard (Breaker.new policy.breaker)
  return ⟨policy, scheduler, chance⟩

/-- The state before the first step. -/
def initial (e : Engine Room) (room : Room) : State Room where
  clock := .start
  metrics := .none
  breaker := if e.policy.breakerEnabled then some (.fresh e.policy.breaker) else none
  tokens := []
  calls := []
  room
  journal := []

namespace State

def call (s : State Room) (id : Nat) : Call := s.calls.getD id .blank

def modifyCall (s : State Room) (id : Nat) (f : Call → Call) : State Room :=
  { s with calls := s.calls.modify id f }

def log (s : State Room) (e : Event) : State Room :=
  { s with journal := ⟨s.clock.elapsed, e⟩ :: s.journal }

def tokenCancelled (s : State Room) (token : String) : Bool :=
  (s.tokens.lookup token).getD false

/-- Whether a call is cancelled, by way of its handle or of the token it was started with. -/
def isCancelled (s : State Room) (id : Nat) : Bool :=
  (s.call id).cancelled || (s.call id).token.any s.tokenCancelled

/-- Makes a token known. -/
def addToken (s : State Room) (token : String) : State Room :=
  if (s.tokens.lookup token).isSome then s else { s with tokens := s.tokens ++ [(token, false)] }

/-- Cancels a token that is known. -/
def cancelToken (s : State Room) (token : String) : State Room :=
  { s with tokens := s.tokens.map fun (name, done) => (name, done || name == token) }

/-- Cancels a call by way of its handle. -/
def cancelCall (s : State Room) (id : Nat) : State Room :=
  s.modifyCall id fun c => { c with cancelled := true }

/-- Hands a call its outcome. -/
def deliver (s : State Room) (id : Nat) (o : Outcome) : State Room :=
  (s.modifyCall id fun c => { c with delivered := c.delivered ++ [o] }).log (.settled id o)

/-- Lets an attempt wait. -/
def hold (s : State Room) (id : Nat) (c : Continuation) : State Room :=
  s.modifyCall id fun call => { call with waiting := some c }

/-- Takes the waiting attempt of a call. -/
def release (s : State Room) (id : Nat) : State Room :=
  s.modifyCall id fun call => { call with waiting := none }

/-- Counts a failed call in the metrics and in the breaker, which reads the clock. -/
def countFailure (s : State Room) : State Room × Option Fault :=
  let s := { s with metrics := s.metrics.recordFailure }
  match s.breaker with
  | none => (s, none)
  | some b =>
    let (b, fault) := b.recordFailure s.clock.read
    ({ s with breaker := some b }, fault)

/-- Counts a call that ended well. -/
def countSuccess (s : State Room) : State Room :=
  { s with metrics := s.metrics.recordSuccess, breaker := s.breaker.map (·.recordSuccess) }

/-- Asks the breaker, if there is one, whether it is open. -/
def look (s : State Room) : State Room × Except Fault Bool :=
  match s.breaker with
  | none => (s, .ok false)
  | some b =>
    let (b, answer) := b.isOpen s.clock.read
    ({ s with breaker := some b }.log .looked, answer)

/-- The cooldown left. -/
def remaining (s : State Room) : Except Fault (Option Duration) :=
  match s.breaker with
  | none => .ok none
  | some b => (b.snapshot s.clock.read).map (·.remaining)

end State

end Engine

end Reattempt
