import Reattempt.Engine.Handle
import Reattempt.Policy.Text

/-!
Engines, handles and requests as text.
-/
namespace Reattempt

open Text in
def Request.text (r : Request) : String :=
  describe "ScheduledAttempt"
    [("operation", quote r.operation), ("attempt", toString r.attempt),
      ("cancelled", flagText r.cancelled)]
    true

namespace Engine

variable {Room : Type}

open Text in
def State.handleText (s : State Room) (id : Nat) : String :=
  describe "RetryHandle"
    [("name", quote (s.call id).name), ("cancelled", flagText (s.isCancelled id))] true

def text (e : Engine Room) (s : State Room) : String :=
  let circuit := s.circuit?.elim "None" fun c => "Some(" ++ c.title ++ ")"
  Text.describe "RetryEngine" [("policy", e.policy.text), ("circuit_breaker", circuit)] true

end Engine

end Reattempt
