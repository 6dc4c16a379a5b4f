import Reattempt.Text.Digits
import Reattempt.Time.Duration

/-!
Spans of time in messages: the largest of the units s, ms, µs and ns of which there is at least one,
and the rest as decimal places without zeros at the end.
-/
namespace Reattempt.Duration

/-- The decimal places of `rest / 10 ^ width`, with the point, or nothing for zero. -/
def places (rest width : Nat) : String :=
  let digits := Nat.toDigits 10 rest
  let padded := List.replicate (width - digits.length) '0' ++ digits
  let kept := (padded.reverse.dropWhile (· = '0')).reverse
  if kept.isEmpty then "" else "." ++ String.ofList kept

/-- The span in units of `10 ^ width` nanoseconds. -/
def inUnit (nanos width : Nat) (unit : String) : String :=
  toString (nanos / Nat.pow 10 width) ++ places (nanos % Nat.pow 10 width) width ++ unit

/-- The text of a span in a message. -/
def text (d : Duration) : String :=
  if 10 ^ 9 ≤ d.nanos then inUnit d.nanos 9 "s"
  else if 10 ^ 6 ≤ d.nanos then inUnit d.nanos 6 "ms"
  else if 10 ^ 3 ≤ d.nanos then inUnit d.nanos 3 "µs"
  else inUnit d.nanos 0 "ns"

end Reattempt.Duration
