import Reattempt.Engine.State

/-!
Attempts. An attempt of a call that is cancelled ends the call without an invocation; any other
invokes the operation and then ends the call or hands the next attempt to the scheduler. Every path
ends in one delivery or in one waiting attempt.

A fault unwinds through whoever runs the attempt. Where a breaker cannot date a failure because the
clock cannot be read, the failure is counted again while that unwinds, and everything ends.
-/
namespace Reattempt.Engine

variable {Room : Type}

namespace State

def succeed (s : State Room) (id : Nat) (v : Int) : State Room :=
  s.countSuccess.deliver id (.ok v)

/-- Ends a call in a failure. -/
def fail (s : State Room) (id : Nat) (e : Ending) : State Room × Option Fault :=
  match s.countFailure with
  | (s, none) => (s.deliver id (.error e), none)
  | (s, some _) => (s, some .collapse)

/-- Ends a call in a failure while a fault unwinds. -/
def unwind (s : State Room) (id : Nat) (e : Ending) (fault : Fault) : State Room × Option Fault :=
  match s.countFailure with
  | (s, none) => (s.deliver id (.error e), some fault)
  | (s, some _) => (s, some .collapse)

/-- Ends a call whose attempt was dropped before it was run. If the failure cannot be dated, the
call never learns of it. -/
def abandon (s : State Room) (id : Nat) (c : Continuation) : State Room × Option Fault :=
  match s.countFailure with
  | (s, none) => (s.deliver id (.error (.scheduling (c.attempt - 1) .shutDown)), none)
  | (s, some fault) => (s, some fault)

/-- Invokes the operation of a call once more. -/
def invoke (s : State Room) (id attempt : Nat) : State Room × Except Fault (Except Failure Int) :=
  let play := (s.call id).operation (s.call id).invocations
  let s := ({ s with metrics := s.metrics.recordAttempt }.log (.invoked id attempt)).modifyCall id
    fun c => { c with invocations := c.invocations + 1 }
  match s.clock.advance (play.advance.getD .zero) with
  | .error fault => (s, .error fault)
  | .ok clock =>
    let s := play.cancel.elim { s with clock } ({ s with clock }.cancelToken ·)
    match play.response with
    | .value v => (s, .ok (.ok v))
    | .failure f => (s, .ok (.error f))
    | .panic message => (s, .error (.raised message))

/-- Whether a wait would end after the deadline. A wait whose end cannot be named would. -/
def misses (s : State Room) (deadline : Option Deadline) (delay : Duration) :
    Except Fault (Option Deadline) :=
  match deadline with
  | none => .ok none
  | some d =>
    s.clock.read.map fun now =>
      match now.add? delay with
      | some resumed => if d.expires < resumed then some d else none
      | none => some d

end State

namespace Continuation

def first (p : Policy) (deadline : Option Deadline) : Continuation := ⟨1, p.initialDelay, deadline⟩

/-- The attempt after a failed one. -/
def next (c : Continuation) (p : Policy) : Continuation :=
  { c with attempt := c.attempt + 1, backoff := p.nextBackoff c.backoff }

end Continuation

/-- The wait after an attempt. -/
def delay (e : Engine Room) (id : Nat) (c : Continuation) : Duration :=
  e.policy.applyJitter (e.chance id c.attempt) c.backoff

/-- Hands an attempt to the scheduler. -/
def hand (e : Engine Room) (s : State Room) (id : Nat) (c : Continuation) (delay : Duration) :
    State Room × Handling × Option ScheduleError :=
  let request : Request :=
    ⟨id, (s.call id).name, c.attempt, delay, s.clock.elapsed, s.isCancelled id⟩
  let answer := e.scheduler s.room request
  ({ s with room := answer.room }.log (.requested request), answer.handling, answer.refusal)

/-- What follows an attempt that was handed over and not run: one that was refused fails the call,
whether the scheduler kept it or not. -/
def settleHanded (s : State Room) (id : Nat) (c : Continuation) (held : Bool) :
    Option ScheduleError → State Room × Option Fault
  | some e => s.fail id (.scheduling (c.attempt - 1) e)
  | none => if held then (s.hold id c, none) else s.abandon id c

/-- Runs an attempt of a call; `left` is how many attempts the policy allows after it. A scheduler
that cannot make its pause has lost the attempt and remembers nothing of it. -/
def run (e : Engine Room) (id : Nat) : Nat → Continuation → State Room → State Room × Option Fault
  | left, c, s =>
    if s.isCancelled id then (s.deliver id (.error (.cancelled (c.attempt - 1))), none)
    else
      match s.invoke id c.attempt with
      | (s, .error fault) => s.unwind id (.operationPanicked c.attempt) fault
      | (s, .ok (.ok v)) => (s.succeed id v, none)
      | (s, .ok (.error f)) =>
        match left with
        | 0 => s.fail id (.operation c.attempt f)
        | left + 1 =>
          if !e.policy.shouldRetry f then s.fail id (.operation c.attempt f)
          else
            let wait := e.delay id c
            match s.misses c.deadline wait with
            | .error fault => s.unwind id (.scheduling (c.attempt - 1) .shutDown) fault
            | .ok (some d) => s.fail id (.deadlineExceeded c.attempt d.budget)
            | .ok none =>
              let next := c.next e.policy
              let asked := { s with metrics := s.metrics.recordRetry }
              match e.hand asked id next wait with
              | (s, .hold, refusal) => settleHanded s id next true refusal
              | (s, .drop, refusal) => settleHanded s id next false refusal
              | (s, .run pause contained, _) =>
                match s.clock.advance (pause.getD .zero) with
                | .error fault =>
                  { s with room := asked.room }.unwind id (.scheduling c.attempt .shutDown) fault
                | .ok clock =>
                  let (s, fault) := e.run id left next { s with clock }
                  (s, if contained then Fault.contain fault else fault)

/-- Runs the waiting attempt of a call. If none waits, nothing happens. -/
def runWaiting (e : Engine Room) (id : Nat) (s : State Room) : State Room × Option Fault :=
  match (s.call id).waiting with
  | none => (s, none)
  | some c => e.run id (e.policy.maxAttempts.toNat - c.attempt) c (s.release id)

/-- Drops the waiting attempt of a call. If none waits, nothing happens. -/
def dropWaiting (id : Nat) (s : State Room) : State Room × Option Fault :=
  match (s.call id).waiting with
  | none => (s, none)
  | some c => (s.release id).abandon id c

end Reattempt.Engine
