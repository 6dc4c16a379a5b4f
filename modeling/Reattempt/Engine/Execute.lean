import Reattempt.Engine.Attempt

/-!
Starting calls, and reading an engine from outside. A call that the breaker admits makes its first
attempt before `execute` returns; a fault in it leaves the caller without a handle.
-/
namespace Reattempt.Engine

variable {Room : Type}

/-- What a caller asks for besides the operation. -/
structure Options where
  /-- A token that stops the retries of the call once it is cancelled. -/
  token : Option String
  /-- The time after which no retry may start. -/
  deadline : Option Duration

namespace State

/-- The deadline a span from now, if there is such a time. -/
def deadlineAfter (s : State Room) : Option Duration → Except Fault (Option Deadline)
  | none => .ok none
  | some budget => s.clock.read.map fun now => (now.add? budget).map (⟨·, budget⟩)

/-- Takes a new call in, with a handle for the caller. -/
def enroll (s : State Room) (name : String) (operation : Operation) (token : Option String) :
    State Room :=
  let s := token.elim s s.addToken
  { s with calls := s.calls ++ [⟨name, operation, token, false, 0, none, [], .live⟩] }

/-- Gives up the handle of a call, which cancels the call. -/
def dropHandle (s : State Room) (id : Nat) : State Room :=
  s.modifyCall id fun c => { c with cancelled := true, handle := .gone }

end State

/-- Starts a call. -/
def execute (e : Engine Room) (name : String) (operation : Operation) (options : Options)
    (s : State Room) : State Room × Option Fault :=
  let id := s.calls.length
  match (s.enroll name operation options.token).look with
  | (s, .error fault) => (s.dropHandle id, some fault)
  | (s, .ok true) =>
    match s.remaining with
    | .error fault => (s.dropHandle id, some fault)
    | .ok remaining => (s.deliver id (.error (.circuitOpen remaining)), none)
  | (s, .ok false) =>
    match s.deadlineAfter options.deadline with
    | .error fault => (s.dropHandle id, some fault)
    | .ok deadline =>
      match e.run id (e.policy.maxAttempts.toNat - 1) (.first e.policy deadline) s with
      | (s, some fault) => (s.dropHandle id, some fault)
      | (s, none) => (s, none)

namespace State

/-- Whether new calls are rejected now; asking may move the breaker. -/
def isOpen (s : State Room) : State Room × Except Fault Bool := s.look

/-- The metrics now; the gauge asks the breaker. -/
def reading (s : State Room) : State Room × Except Fault MetricsReading :=
  let (s, answer) := s.look
  (s, answer.map (MetricsReading.of s.metrics))

/-- Forces the breaker closed. -/
def resetBreaker (s : State Room) : State Room :=
  match s.breaker with
  | none => s
  | some b => { s with breaker := some b.reset }.log .reset

/-- Where the breaker stands, without asking it. -/
def circuit? (s : State Room) : Option Circuit := s.breaker.map (·.circuit)

/-- The breaker's counters, without asking it. -/
def breakerSnapshot (s : State Room) : Except Fault (Option BreakerSnapshot) :=
  match s.breaker with
  | none => .ok none
  | some b => (b.snapshot s.clock.read).map some

/-- Moves the clock forward. -/
def advance (s : State Room) (d : Duration) : State Room × Option Fault :=
  match s.clock.advance d with
  | .ok clock => ({ s with clock }, none)
  | .error fault => (s, some fault)

/-- Sets the clock, forward or back. -/
def setElapsed (s : State Room) (d : Duration) : State Room := { s with clock := ⟨d⟩ }

/-- The requests in the journal, oldest first. -/
def requests (s : State Room) : List Request :=
  (s.journal.filterMap fun entry =>
    match entry.event with
    | .requested r => some r
    | _ => none).reverse

end State

end Reattempt.Engine
