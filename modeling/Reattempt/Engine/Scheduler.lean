import Reattempt.Engine.Error

/-!
Schedulers, as far as an engine can see them. An engine hands every attempt but the first to a
scheduler, which runs it, holds it or drops it, and may refuse it on top of that. What a scheduler
remembers, the attempts it holds among it, is its room.
-/
namespace Reattempt

/-- An attempt that waits for its delay to elapse. -/
structure Request where
  /-- The number of the call. -/
  call : Nat
  operation : String
  /-- The attempt, counted from one. -/
  attempt : Nat
  delay : Duration
  /-- The time at which the attempt was handed over. -/
  asked : Duration
  /-- The call was already cancelled then. -/
  cancelled : Bool
  deriving DecidableEq

/-- What a scheduler does with an attempt. -/
inductive Handling where
  /-- It runs the attempt before it answers, after that much time. A contained run keeps a fault of
  the operation to itself. -/
  | run (wait : Option Duration) (contained : Bool)
  | hold
  | drop
  deriving DecidableEq

/-- A scheduler's answer, and its room afterwards. -/
structure Answer (Room : Type) where
  room : Room
  handling : Handling
  refusal : Option ScheduleError

/-- A scheduler. -/
abbrev Scheduler (Room : Type) := Room → Request → Answer Room

end Reattempt
