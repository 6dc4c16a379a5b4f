import Reattempt.Proofs.Emptying
import Reattempt.Proofs.Veils

/-!
Panics of queued attempts. A fault in an operation unwinds through whoever empties the queue, and on
its way the call is settled and its failure is counted. What it leaves behind is what an ordinary
failure of the call would have left, as far as any other call can see. Main statement:
`panic_contained`.

If the failure cannot be dated, a second fault meets the first one, and there is nothing left to be
said of anything afterwards.
-/
namespace Reattempt.Engine

/-- The state in which an attempt that was let go is about to be made. -/
def State.letGo {Room : Type} (s : State Room) (r : Request) (room : Room) : State Room :=
  (s.withRoom room).release r.call

variable {p : Policy} {chance : Nat → Nat → Draw} {capacity : Option Nat} {k : Nat}
  {s₀ s t : State (Queue Request)} {r : Request} {room : Queue Request} {c : Continuation}
  {fault : Fault} {operation : Operation} {f : Failure} {as : List (Action (Queue Request))}

/-! ### An attempt that was let go -/

theorem letGo_part {α : Type} (part : Call → α)
    (hpart : ∀ c : Call, part { c with waiting := none } = part c) (s : State (Queue Request))
    (r : Request) (room : Queue Request) (j : Nat) :
    part ((s.letGo r room).call j) = part (s.call j) :=
  State.part_of_modify (s := s.withRoom room) part rfl hpart j

/-- A round lets the attempt at the head of the queue go, and what comes of it comes of the round. -/
theorem runNext_of_letGo {result : State (Queue Request) × Option Fault}
    (hpop : s.room.pop? = some (r, room)) (hw : (s.call r.call).waiting = some c)
    (hrun : (queued p chance).run r.call (p.maxAttempts.toNat - c.attempt) c (s.letGo r room) =
      result) :
    Queued.runNext (queued p chance) s = (result.1, result.2.elim (.ok true) .error) := by
  have hwaiting : ((s.withRoom room).call r.call).waiting = some c := hw
  have hround : (queued p chance).runWaiting r.call (s.withRoom room) = result := by
    simp only [runWaiting, hwaiting]
    exact hrun
  rw [runNext_of_pop _ hpop, hround]

end Reattempt.Engine
