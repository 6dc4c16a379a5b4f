import Reattempt.Time.Duration

/-!
What an error means to whoever meets it: how severe it is, whether trying again could help, and how
long to wait before that.
-/
namespace Reattempt

/-- How severe an error is, from expected conditions to integrity at risk. -/
inductive Severity where
  | info
  | warning
  | error
  | critical
  deriving DecidableEq, Repr

namespace Severity

def rank : Severity → Nat
  | info => 0
  | warning => 1
  | error => 2
  | critical => 3

def compare (a b : Severity) : Ordering := Ord.compare a.rank b.rank

/-- The more severe of two. -/
def worse (a b : Severity) : Severity := if a.rank ≤ b.rank then b else a

def name : Severity → String
  | info => "INFO"
  | warning => "WARN"
  | error => "ERROR"
  | critical => "CRITICAL"

end Severity

/-- The classification of an error. -/
structure Classification where
  retryable : Bool
  severity : Severity
  critical : Bool
  retryAfter : Option Duration
  deriving DecidableEq

/-- An error that calls for attention and that no retry mends. -/
def Classification.permanent : Classification := ⟨false, .error, false, none⟩

end Reattempt
