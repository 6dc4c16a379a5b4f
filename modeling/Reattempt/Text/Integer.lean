import Reattempt.Text.Digits

/-!
Unsigned decimal integers with an upper limit. A plus sign is allowed, a minus sign never is, and
the first character that is at fault decides which of the two errors is reported.
-/
namespace Reattempt.Text

/-- Why a text is not an integer within the limit. -/
inductive IntegerError where
  | empty
  | invalidDigit
  | tooLarge
  deriving DecidableEq, Repr

def IntegerError.message : IntegerError → String
  | .empty => "cannot parse integer from empty string"
  | .invalidDigit => "invalid digit found in string"
  | .tooLarge => "number too large to fit in target type"

/-- Reads digits after a number already read, refusing to pass the limit. -/
def readDigits (limit : Nat) : Nat → List Char → Except IntegerError Nat
  | n, [] => .ok n
  | n, c :: cs =>
    match digit? c with
    | none => .error .invalidDigit
    | some d => if limit < 10 * n + d then .error .tooLarge else readDigits limit (10 * n + d) cs

/-- Reads a whole text as an integer up to the limit. -/
def readUnsigned (limit : Nat) : List Char → Except IntegerError Nat
  | [] => .error .empty
  | ['+'] => .error .invalidDigit
  | '+' :: cs => readDigits limit 0 cs
  | cs => readDigits limit 0 cs

end Reattempt.Text
