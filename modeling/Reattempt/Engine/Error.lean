import Reattempt.Failure.Basic
import Reattempt.Severity
import Reattempt.Time.DurationText

/-!
How a call can end without a value. The attempts that an error reports are invocations of the
operation that were made.
-/
namespace Reattempt

/-- Why a scheduler refuses an attempt. -/
inductive ScheduleError where
  | shutDown
  /-- As many attempts wait as may wait. -/
  | saturated (capacity : Nat)
  deriving DecidableEq, Repr

namespace ScheduleError

def message : ScheduleError → String
  | shutDown => "delay scheduler is shut down"
  | saturated capacity =>
    "delay scheduler is saturated (" ++ toString capacity ++ " attempts pending)"

def classification : ScheduleError → Classification
  | shutDown => .permanent
  | saturated _ => { Classification.permanent with retryable := true, severity := .warning }

end ScheduleError

/-- The way a call ended. -/
inductive Ending where
  /-- The breaker rejected the call; its cooldown goes on for `retryAfter`. -/
  | circuitOpen (retryAfter : Option Duration)
  /-- The last attempt failed and no other was allowed. -/
  | operation (attempts : Nat) (failure : Failure)
  /-- A retry was refused or dropped by the scheduler. -/
  | scheduling (attempts : Nat) (cause : ScheduleError)
  | operationPanicked (attempts : Nat)
  | cancelled (attempts : Nat)
  /-- The next retry would have started after the deadline. -/
  | deadlineExceeded (attempts : Nat) (budget : Duration)
  deriving DecidableEq

namespace Ending

/-- The name of the way. -/
def title : Ending → String
  | circuitOpen _ => "CircuitOpen"
  | operation .. => "Operation"
  | scheduling .. => "Scheduling"
  | operationPanicked _ => "OperationPanicked"
  | cancelled _ => "Cancelled"
  | deadlineExceeded .. => "DeadlineExceeded"

def attempts : Ending → Nat
  | circuitOpen _ => 0
  | operation n _ | scheduling n _ | operationPanicked n | cancelled n | deadlineExceeded n _ => n

def isCircuitOpen : Ending → Bool
  | circuitOpen _ => true
  | _ => false

def isCancelled : Ending → Bool
  | cancelled _ => true
  | _ => false

/-- The failure of the operation itself. -/
def failure? : Ending → Option Failure
  | operation _ f => some f
  | _ => none

/-- Whether the ending counts as a failure of the call: a call that was rejected or cancelled did
not fail. -/
def countsAsFailure : Ending → Bool
  | circuitOpen _ | cancelled _ => false
  | _ => true

/-- The text of what lies underneath, if anything does. -/
def source? : Ending → Option String
  | operation _ f => some f.text
  | scheduling _ e => some e.message
  | _ => none

def classification : Ending → Classification
  | circuitOpen retryAfter => ⟨true, .warning, false, retryAfter⟩
  | scheduling _ e => e.classification
  | operation .. | operationPanicked _ => .permanent
  | cancelled _ => { Classification.permanent with severity := .info }
  | deadlineExceeded .. => { Classification.permanent with severity := .warning }

end Ending

/-- The error of a call. -/
structure CallError where
  name : String
  ending : Ending
  deriving DecidableEq

def CallError.message (e : CallError) : String :=
  let quoted := "'" ++ e.name ++ "'"
  match e.ending with
  | .circuitOpen _ => "circuit breaker is open, " ++ quoted ++ " was not attempted"
  | .operation n _ => "operation " ++ quoted ++ " failed after " ++ toString n ++ " attempt(s)"
  | .scheduling n _ =>
    "retry of " ++ quoted ++ " could not be scheduled after " ++ toString n ++ " attempt(s)"
  | .operationPanicked n => "operation " ++ quoted ++ " panicked on attempt " ++ toString n
  | .cancelled n => "operation " ++ quoted ++ " was cancelled after " ++ toString n ++ " attempt(s)"
  | .deadlineExceeded n budget =>
    "operation " ++ quoted ++ " exceeded its " ++ budget.text ++ " deadline after " ++ toString n
      ++ " attempt(s)"

/-- What a call comes to: the value of its operation, or the way it ended without one. -/
abbrev Outcome := Except Ending Int

end Reattempt
