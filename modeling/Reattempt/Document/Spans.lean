import Reattempt.Document.Basic
import Reattempt.Json.Reader
import Reattempt.Json.Writer

/-!
A timeout and, perhaps, what remains of it, as they travel: whole milliseconds, and `null` for a
missing rest. Both fields are required, and a list must hold exactly the two.
-/
namespace Reattempt

structure TimeoutSpans where
  timeout : Duration
  remaining : Option Duration
  deriving DecidableEq

namespace TimeoutSpans

def toDocument (s : TimeoutSpans) : Document :=
  .ofFields [("timeout", .ofMillis s.timeout), ("remaining", .ofMillisOrNull s.remaining)]

def write (s : TimeoutSpans) : String := Json.write s.toDocument

open Document in
def ofDocument? (d : Document) : Option TimeoutSpans := do
  match ← fields? .json ["timeout", "remaining"] d with
  | [some timeout, some remaining] => return ⟨← timeout.millis?, ← remaining.millisOrNull?⟩
  | _ => none

def read? (s : String) : Option TimeoutSpans := (Json.read? s).bind ofDocument?

end TimeoutSpans

end Reattempt
