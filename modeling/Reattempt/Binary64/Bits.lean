import Reattempt.Binary64.Basic
import Reattempt.Text.Digits

/-!
The sixty-four bits of a value: sign, eleven bits of exponent, fifty-two of fraction. All patterns
that are not a number read as the one such value.
-/
namespace Reattempt.Binary64

def ofBits (bits : Nat) : Binary64 :=
  let negative := bits / 2 ^ 63 % 2 = 1
  let exponent := bits / 2 ^ 52 % 2 ^ 11
  let fraction := bits % 2 ^ 52
  if exponent = 2047 then (if fraction = 0 then infinity negative else nan)
  else if exponent = 0 then pack negative fraction
  else pack negative ((2 ^ 52 + fraction) * Nat.pow 2 (exponent - 1))

/-- The bits; nothing for what is not a number, whose pattern is not fixed. -/
def bits? : Binary64 → Option Nat
  | nan => none
  | infinity s => some ((if s then 2 ^ 63 else 0) + 2047 * 2 ^ 52)
  | finite s u _ =>
    let sign := if s then 2 ^ 63 else 0
    if u < 2 ^ 52 then some (sign + u)
    else some (sign + (u.log2 - 51) * 2 ^ 52 + (u / Nat.pow 2 (u.log2 - 52) - 2 ^ 52))

/-- The bits as sixteen hexadecimal digits. -/
def bitsText? (x : Binary64) : Option String :=
  x.bits?.map fun n =>
    let digits := Text.hexText n
    "0x" ++ String.ofList (List.replicate (16 - digits.length) '0') ++ digits

end Reattempt.Binary64
