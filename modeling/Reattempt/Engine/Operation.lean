import Reattempt.Failure.Basic
import Reattempt.Time.Duration

/-!
Operations, as far as an engine can see them: each invocation may take time, may cancel a token that
it can reach, and then responds.
-/
namespace Reattempt

/-- How an invocation ends. -/
inductive Response where
  | value (v : Int)
  | failure (f : Failure)
  | panic (message : String)

/-- One invocation: what it does, in this order, and how it ends. -/
structure Play where
  /-- Time that passes. -/
  advance : Option Duration
  /-- A token that it cancels. -/
  cancel : Option String
  response : Response

/-- An operation, by the number of invocations before. -/
abbrev Operation := Nat → Play

/-- Plays a script, and its last entry again and again. -/
def Operation.ofScript (first : Play) : List Play → Operation
  | [], _ => first
  | _ :: _, 0 => first
  | next :: rest, n + 1 => ofScript next rest n

end Reattempt
