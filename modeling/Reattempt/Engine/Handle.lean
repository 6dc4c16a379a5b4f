import Reattempt.Engine.Execute

/-!
Handles. The outcome of a call can be taken once, by asking or by waiting for it; giving up the
handle cancels the call, and so does waiting, once there is an outcome.
-/
namespace Reattempt.Engine

variable {Room : Type}

/-- What a caller finds who asks for an outcome. -/
inductive Answered where
  | noHandle
  | pending
  | outcome (result : Except CallError Int)
  | fault (f : Fault)

namespace State

/-- The outcome of a call that can no longer tell it. -/
def lost (s : State Room) (id : Nat) : Except CallError Int :=
  .error ⟨(s.call id).name, .scheduling 0 .shutDown⟩

/-- The outcome as the caller sees it. -/
def outcome? (s : State Room) (id : Nat) : Option (Except CallError Int) :=
  match (s.call id).delivered.head?, (s.call id).waiting with
  | some o, _ => some (o.mapError (⟨(s.call id).name, ·⟩))
  | none, some _ => none
  | none, none => some (s.lost id)

/-- Takes the outcome if there is one. -/
def take (s : State Room) (id : Nat) : State Room × Answered :=
  match s.outcome? id with
  | some result => (s.modifyCall id fun c => { c with handle := .spent }, .outcome result)
  | none => (s, .pending)

/-- Asks for the outcome. Whoever has taken it before finds it lost. -/
def poll (s : State Room) (id : Nat) : State Room × Answered :=
  match (s.call id).handle with
  | .gone => (s, .noHandle)
  | .spent => (s, .outcome (s.lost id))
  | .live => s.take id

/-- Asks for the outcome as one who awaits it. To await it again is a fault. -/
def await (s : State Room) (id : Nat) : State Room × Answered :=
  match (s.call id).handle with
  | .gone => (s, .noHandle)
  | .spent => (s, .fault .alreadyResolved)
  | .live => s.take id

/-- Waits for the outcome while `drain` does what is left to be done. The handle is given up. -/
def wait (drain : State Room → State Room) (s : State Room) (id : Nat) : State Room × Answered :=
  match (s.call id).handle with
  | .gone => (s, .noHandle)
  | .spent => ((drain s).dropHandle id, .fault .alreadyResolved)
  | .live =>
    let (s, answer) := (drain s).take id
    (s.dropHandle id, answer)

/-- Whether the caller still has a handle. -/
def hasHandle (s : State Room) (id : Nat) : Bool := (s.call id).handle != .gone

end State

end Reattempt.Engine
