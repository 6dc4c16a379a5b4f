/-!
Faults: failures that are not values but unwind through whoever is waiting for one.
-/
namespace Reattempt

/-- What unwinds. -/
inductive Fault where
  /-- Two spans of time have no sum. -/
  | durationOverflow
  /-- The clock stands at a time that no instant can name. -/
  | instantOverflow
  /-- A pool was asked for more permits than can be counted. -/
  | tooManyPermits (limit : Nat)
  /-- A thread cannot bear a name with a zero byte in it; its bytes, and the place of the first. -/
  | unfitThreadName (place : Nat) (bytes : List Nat)
  /-- An operation gave up by itself. -/
  | raised (message : String)
  /-- A result was awaited again after it had been handed out. -/
  | alreadyResolved
  /-- A second fault met the first while it unwound: everything ends. -/
  | collapse
  deriving DecidableEq, Repr

namespace Fault

/-- Two things that may unwind at once: if both do, everything ends. -/
def meet : Option Fault → Option Fault → Option Fault
  | none, f | f, none => f
  | some _, some _ => some collapse

/-- What is left of a fault where somebody catches it. -/
def contain : Option Fault → Option Fault
  | some collapse => some collapse
  | _ => none

def message : Fault → String
  | .durationOverflow => "overflow when adding durations"
  | .instantOverflow => "overflow when adding duration to instant"
  | .tooManyPermits limit =>
    "a semaphore may not have more than MAX_PERMITS permits (" ++ toString limit ++ ")"
  | .unfitThreadName place bytes =>
    "thread name may not contain interior null bytes: NulError(" ++ toString place ++ ", ["
      ++ ", ".intercalate (bytes.map toString) ++ "])"
  | .raised message => message
  | .alreadyResolved => "called after complete"
  | .collapse => "fault while unwinding"

end Fault

end Reattempt
