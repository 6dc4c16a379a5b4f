import Reattempt.Engine.Handle
import Reattempt.Queue.Basic

/-!
An engine whose retries wait in a queue until they are let go. An attempt that is let go has left the
queue before it runs, so a fault in it leaves the others where they are.
-/
namespace Reattempt

/-- Holds every attempt that the queue accepts. -/
def Scheduler.queueing : Scheduler (Queue Request) := fun q r =>
  match q.push r.delay r with
  | .ok q => ⟨q, .hold, none⟩
  | .error e => ⟨q, .drop, some e⟩

namespace Engine.Queued

/-- How many runs the waiting attempts of a queue can come to. -/
def budget (e : Engine (Queue Request)) (s : State (Queue Request)) : Nat :=
  s.room.waiting.foldr (fun r n => e.policy.maxAttempts.toNat - r.attempt + 1 + n) 0

/-- Runs the oldest attempt; false if none waits. -/
def runNext (e : Engine (Queue Request)) (s : State (Queue Request)) :
    State (Queue Request) × Except Fault Bool :=
  match s.room.pop? with
  | none => (s, .ok false)
  | some (r, room) =>
    match e.runWaiting r.call { s with room } with
    | (s, some fault) => (s, .error fault)
    | (s, none) => (s, .ok true)

/-- Runs attempts until none waits, and counts them. -/
def runAll (e : Engine (Queue Request)) (s : State (Queue Request)) :
    State (Queue Request) × Except Fault Nat :=
  go (budget e s + 1) 0 s
where
  go : Nat → Nat → State (Queue Request) → State (Queue Request) × Except Fault Nat
    | 0, ran, s => (s, .ok ran)
    | left + 1, ran, s =>
      match runNext e s with
      | (s, .error fault) => (s, .error fault)
      | (s, .ok false) => (s, .ok ran)
      | (s, .ok true) => go left (ran + 1) s

/-- Runs attempts until none waits, whatever faults they meet. -/
def drain (e : Engine (Queue Request)) (s : State (Queue Request)) : State (Queue Request) :=
  go (budget e s + 1) s
where
  go : Nat → State (Queue Request) → State (Queue Request)
    | 0, s => s
    | left + 1, s =>
      match runNext e s with
      | (s, .ok false) => s
      | (s, _) => go left s

/-- Drops attempts in order, and goes on after a fault. -/
def dropAll (s : State (Queue Request)) : List Request → State (Queue Request) × Option Fault
  | [] => (s, none)
  | r :: rest =>
    let (s, fault) := dropWaiting r.call s
    let (s, later) := dropAll s rest
    (s, Fault.meet fault later)

/-- Accepts nothing more and drops all that waits. -/
def shutdown (s : State (Queue Request)) : State (Queue Request) × Option Fault :=
  let (dropped, room) := s.room.shutdown
  dropAll { s with room } dropped

end Engine.Queued

end Reattempt
