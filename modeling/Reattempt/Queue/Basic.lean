import Reattempt.Engine.Error

/-!
A queue of attempts that wait until they are let go, oldest first. It may have a capacity; once shut
down it takes nothing more, and what it held is dropped. The delays of accepted attempts are kept.
-/
namespace Reattempt

/-- A queue of attempts. -/
structure Queue (α : Type) where
  capacity : Option Nat
  /-- What waits, oldest first. -/
  waiting : List α
  /-- The delays of all that was ever accepted, oldest first. -/
  delays : List Duration
  stopped : Bool

namespace Queue

variable {α : Type}

def empty (capacity : Option Nat) : Queue α := ⟨capacity, [], [], false⟩

/-- Why nothing would be accepted now: a queue that is shut down says so even when it is full. -/
def refusal? (q : Queue α) : Option ScheduleError :=
  if q.stopped then some .shutDown
  else q.capacity.bind fun n => if n ≤ q.waiting.length then some (.saturated n) else none

def push (q : Queue α) (delay : Duration) (a : α) : Except ScheduleError (Queue α) :=
  match q.refusal? with
  | some e => .error e
  | none => .ok { q with waiting := q.waiting ++ [a], delays := q.delays ++ [delay] }

/-- The oldest of what waits, and the queue without it. -/
def pop? (q : Queue α) : Option (α × Queue α) :=
  match q.waiting with
  | [] => none
  | a :: rest => some (a, { q with waiting := rest })

/-- What waited, oldest first, and the queue that takes nothing more. -/
def shutdown (q : Queue α) : List α × Queue α := (q.waiting, { q with waiting := [], stopped := true })

end Queue

end Reattempt
