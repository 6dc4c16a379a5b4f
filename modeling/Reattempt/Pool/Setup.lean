import Reattempt.Fault
import Reattempt.Pool.Basic
import Reattempt.Settings.Basic
import Reattempt.SetupError
import Reattempt.Text.Described

/-!
Setting up a pool: on threads that it shares, on threads of its own, or on those of whoever calls.
-/
namespace Reattempt.Pool

variable {α : Type}

/-- A pool of that capacity, if its permits can be counted. -/
def assemble (capacity : Nat) : Except Fault (Pool α) :=
  if maxPermits < capacity then .error (.tooManyPermits maxPermits) else .ok (empty capacity)

/-- A pool on shared threads. -/
def shared (capacity : Nat) : Except Fault (Except PoolError (Pool α)) :=
  if capacity = 0 then .ok (.error (.invalidSettings ⟨"max_pending", .atLeastOne⟩))
  else (assemble capacity).map .ok

/-- A pool on the threads of a caller who has none. -/
def onCaller : PoolError :=
  .noRuntime ("there is no reactor running, must be called from the context of a "
    ++ "Tokio 1.x runtime")

/-- A name that a thread can bear. -/
def checkName (name : String) : Except Fault Unit :=
  let bytes := name.toUTF8.toList.map UInt8.toNat
  match bytes.findIdx? (· = 0) with
  | some place => .error (.unfitThreadName place bytes)
  | none => .ok ()

/-- How threads are started that bear a name: with a fault, or with what the system says against it,
or without either. -/
abbrev Start := UInt64 → String → Except Fault (Except String Unit)

/-- A system that has as many threads as it is asked for. -/
def Start.plentiful : Start := fun _ name => (checkName name).map .ok

/-- A pool on threads of its own, which are started that way. -/
def dedicatedBy (start : Start) (s : PoolSettings) : Except Fault (Except PoolError (Pool α)) :=
  match s.validate with
  | .error e => .ok (.error (.invalidSettings e))
  | .ok _ =>
    match start s.workerThreads s.threadName with
    | .error fault => .error fault
    | .ok (.error message) => .ok (.error (.creationFailed message))
    | .ok (.ok _) => (assemble s.maxPending.toNat).map .ok

/-- A pool on threads of its own. -/
def dedicated (s : PoolSettings) : Except Fault (Except PoolError (Pool α)) :=
  dedicatedBy .plentiful s

open Text in
def text (p : Pool α) (ownsThreads : Bool) : String :=
  describe "TokioDelayScheduler"
    [("capacity", toString p.capacity), ("pending", toString p.pending),
      ("owns_runtime", flagText ownsThreads), ("shut_down", flagText p.stopping)]
    true

end Reattempt.Pool
