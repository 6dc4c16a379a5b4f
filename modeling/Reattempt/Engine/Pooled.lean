import Reattempt.Engine.Handle
import Reattempt.Pool.Basic
import Reattempt.Pool.Timer
import Reattempt.SetupError

/-!
An engine whose retries wait in a pool. A waiting attempt wakes when its delay has elapsed, at once
when its call is cancelled, and is dropped when the pool is shut down; it gives its permit back
before it runs, and the pool keeps its faults to itself. Attempts wake and time passes only while
somebody waits, and time goes from one timer to the next. Whoever waits goes on before an attempt
that wakes at the same time.
-/
namespace Reattempt

/-- Holds every attempt that the pool accepts. -/
def Scheduler.pooling : Scheduler (Pool Request) := fun p r =>
  match p.accept r with
  | .ok p => ⟨p, .hold, none⟩
  | .error e => ⟨p, .drop, some e⟩

namespace Engine.Pooled

/-- How many runs the waiting attempts of a pool can come to. -/
def budget (e : Engine (Pool Request)) (s : State (Pool Request)) : Nat :=
  s.room.waiting.foldr (fun r n => e.policy.maxAttempts.toNat - r.attempt + 1 + n) 0

/-- The time at which the delay of an attempt has elapsed, in nanoseconds. -/
def due (r : Request) : Nat := Timer.rings r.asked r.delay

/-- Whether an attempt stops waiting now. -/
def ready (s : State (Pool Request)) (r : Request) : Bool :=
  s.room.stopping || s.isCancelled r.call || due r ≤ s.clock.elapsed.nanos

/-- Wakes one attempt that is ready. -/
def wakeOne? (e : Engine (Pool Request)) (s : State (Pool Request)) :
    Option (State (Pool Request)) :=
  (s.room.wake? (ready s)).map fun (r, room) =>
    if room.stopping then (dropWaiting r.call { s with room }).1
    else (e.runWaiting r.call { s with room }).1

/-- Wakes all attempts that are ready, and those that become so meanwhile. -/
def wake (e : Engine (Pool Request)) (s : State (Pool Request)) : State (Pool Request) :=
  go (budget e s) s
where
  go : Nat → State (Pool Request) → State (Pool Request)
    | 0, s => s
    | left + 1, s =>
      match wakeOne? e s with
      | none => s
      | some s => go left s

/-- The next time at which an attempt wakes by itself. -/
def nextDue (s : State (Pool Request)) : Option Nat := (s.room.waiting.map due).min?

/-- Lets time pass until a timer for `target` rings, from one wake to the next. -/
def passTime (e : Engine (Pool Request)) (target : Nat) :
    Nat → State (Pool Request) → State (Pool Request)
  | 0, s => s
  | left + 1, s =>
    let s := wake e s
    match (nextDue s).filter (· < target) with
    | some t => passTime e target left { s with clock := ⟨.ofNanos t⟩ }
    | none => { s with clock := ⟨.ofNanos target⟩ }

/-- Whether the pool has yet to see an attempt end. -/
def settle (s : State (Pool Request)) (settling : Bool) : State (Pool Request) :=
  { s with room := { s.room with settling } }

/-- Waits for a span of time. To wait for no time at all is not to wait. -/
def advance (e : Engine (Pool Request)) (d : Duration) (s : State (Pool Request)) :
    State (Pool Request) :=
  if d.isZero then s
  else settle (passTime e (Timer.rings s.clock.elapsed d) (budget e s + 1) s) false

/-- Lets time pass from one wake to the next until a call has its outcome. -/
def awaitOutcome (e : Engine (Pool Request)) (id : Nat) :
    Nat → State (Pool Request) → State (Pool Request)
  | 0, s => s
  | left + 1, s =>
    if (s.outcome? id).isSome then s
    else
      let s := wake e s
      let s := settle s !s.room.stopping
      match (s.outcome? id).isSome, nextDue s with
      | false, some t => awaitOutcome e id left { s with clock := ⟨.ofNanos t⟩ }
      | _, _ => s

/-- Waits until a call has its outcome, and takes it. The one who waits goes on at the outcome, which
an attempt has before it ends; an attempt that is dropped ends with it. -/
def await (e : Engine (Pool Request)) (id : Nat) (s : State (Pool Request)) :
    State (Pool Request) × Answered :=
  match (s.call id).handle with
  | .spent => (s.dropHandle id, .fault .alreadyResolved)
  | _ => s.wait (awaitOutcome e id (budget e s + 1)) id

/-- Asks the pool for shutdown and waits that long at most for it to run dry. Whoever does not wait
does not see the waiting attempts go. -/
def shutdown (e : Engine (Pool Request)) (timeout : Duration) (s : State (Pool Request)) :
    State (Pool Request) × Except PoolError Unit :=
  let s := { s with room := s.room.stop }
  if timeout.isZero && !s.room.isDry then (s, .error (.timeout timeout))
  else (settle (wake e s) false, .ok ())

end Engine.Pooled

end Reattempt
