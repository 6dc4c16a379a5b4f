import Reattempt.Failure.Kind

/-!
Failures that operations report, each with a kind and, where a protocol gives one, a status code.
-/
namespace Reattempt

/-- The kind that an HTTP status stands for. -/
def FailureKind.ofStatus (status : UInt16) : FailureKind :=
  if status = 408 then timeout
  else if status = 429 then rateLimited
  else if 500 ≤ status ∧ status ≤ 599 then server
  else if 400 ≤ status ∧ status ≤ 499 then client
  else other

/-- The conditions of the operating system that have a kind of their own. -/
inductive SystemCondition where
  | connectionRefused
  | connectionReset
  | connectionAborted
  | notConnected
  | brokenPipe
  | addressNotAvailable
  | timedOut
  | wouldBlock
  | notFound
  | alreadyExists
  | permissionDenied
  | invalidInput
  | invalidData
  | unexpectedEnd
  | unlisted
  deriving DecidableEq, Repr

def SystemCondition.kind : SystemCondition → FailureKind
  | connectionRefused | connectionReset | connectionAborted | notConnected | brokenPipe
  | addressNotAvailable => .connection
  | timedOut | wouldBlock => .timeout
  | notFound | alreadyExists => .resourceAccess
  | permissionDenied => .security
  | invalidInput => .invalidArgument
  | invalidData | unexpectedEnd => .serialization
  | unlisted => .other

/-- A failure of an operation. -/
inductive Failure where
  /-- A ready-made failure of a kind. -/
  | plain (kind : FailureKind) (message : String)
  /-- A ready-made failure with a status, from which its kind follows. -/
  | http (status : UInt16) (message : String)
  /-- A failure of the operating system. -/
  | system (condition : SystemCondition) (message : String)
  /-- A failure that the caller classifies itself. -/
  | custom (kind : FailureKind) (status : Option UInt16) (message : String)
  deriving DecidableEq, Repr

namespace Failure

def kind : Failure → FailureKind
  | plain k _ | custom k _ _ => k
  | http s _ => .ofStatus s
  | system c _ => c.kind

def status : Failure → Option UInt16
  | plain .. | system .. => none
  | http s _ => some s
  | custom _ s _ => s

/-- The message of a ready-made failure. -/
def message? : Failure → Option String
  | plain _ m | http _ m => some m
  | system .. | custom .. => none

/-- The failure as text. -/
def text (f : Failure) : String :=
  match f with
  | plain _ m | http _ m => f.kind.name ++ " failure: " ++ m
  | system _ m | custom _ _ m => m

end Failure

end Reattempt
