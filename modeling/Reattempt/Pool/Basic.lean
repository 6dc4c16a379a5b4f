import Reattempt.Engine.Error

/-!
A pool in which attempts wait out their delays. Every waiting attempt holds one of the pool's
permits and gives it back when it stops waiting; once shutdown has been asked for, nothing more is
accepted.
-/
namespace Reattempt

/-- A pool of waiting attempts. -/
structure Pool (α : Type) where
  capacity : Nat
  /-- Permits that are free. -/
  permits : Nat
  /-- What waits, in the order of acceptance. -/
  waiting : List α
  /-- Somebody has gone on as soon as an attempt was run, and the pool has not seen it end yet. -/
  settling : Bool
  stopping : Bool

namespace Pool

variable {α : Type}

/-- The most permits a pool can count. -/
def maxPermits : Nat := 2 ^ 61 - 1

def empty (capacity : Nat) : Pool α := ⟨capacity, capacity, [], false, false⟩

/-- Attempts that wait, going by the permits. -/
def pending (p : Pool α) : Nat := p.capacity - p.permits

/-- Why nothing would be accepted now. -/
def refusal? (p : Pool α) : Option ScheduleError :=
  if p.stopping then some .shutDown
  else if p.permits = 0 then some (.saturated p.capacity)
  else none

def accept (p : Pool α) (a : α) : Except ScheduleError (Pool α) :=
  match p.refusal? with
  | some e => .error e
  | none => .ok { p with permits := p.permits - 1, waiting := p.waiting ++ [a] }

/-- The first waiting attempt that is ready, and the pool with its permit back. -/
def wake? (p : Pool α) (ready : α → Bool) : Option (α × Pool α) :=
  (p.waiting.find? ready).map fun a =>
    (a, { p with permits := p.permits + 1, waiting := p.waiting.eraseP ready })

/-- Whether nothing is left that the pool would have to wait for. -/
def isDry (p : Pool α) : Bool := p.waiting.isEmpty && !p.settling

/-- Asks for shutdown. -/
def stop (p : Pool α) : Pool α := { p with stopping := true }

end Pool

end Reattempt
