import Reattempt.Binary64.Shortest

/-!
How a value is written: which decimal exponents are written positionally, whether a whole number
keeps its `.0`, how an exponent is marked, and which of two equally near decimals is taken. `fixed`
writes a set number of places instead.
-/
namespace Reattempt.Binary64

/-- The decisions of one way of writing a value. -/
structure Layout where
  /-- Whether a leading digit of that power of ten is written positionally. -/
  positional : Int → Bool
  /-- A whole number ends in `.0`. -/
  keepsPoint : Bool
  /-- What stands between the digits and a positive exponent. -/
  mark : String
  /-- Which of two shortest decimals equally near to the value is written. -/
  tie : TieBreak

namespace Layout

/-- Values inside messages: always positional, and a whole number has no point. -/
def message : Layout := ⟨fun _ => true, false, "e", .away⟩

/-- Values inside descriptions of a structure. -/
def described : Layout := ⟨fun e => -4 ≤ e && e < 16, true, "e", .away⟩

/-- Values inside JSON texts. -/
def json : Layout := ⟨fun e => -5 ≤ e && e < 16, true, "e+", .even⟩

end Layout

def zeros (n : Nat) : String := String.ofList (List.replicate n '0')

/-- Digits with a point after the first `whole` of them; zeros fill what is missing. -/
def writePositional (keepsPoint : Bool) (digits : List Char) (whole : Int) : String :=
  if whole ≤ 0 then "0." ++ zeros (-whole).toNat ++ String.ofList digits
  else if digits.length ≤ whole.toNat then
    String.ofList digits ++ zeros (whole.toNat - digits.length) ++ (if keepsPoint then ".0" else "")
  else String.ofList (digits.take whole.toNat) ++ "." ++ String.ofList (digits.drop whole.toNat)

def writeScientific (mark : String) (digits : List Char) (exponent : Int) : String :=
  let head := String.ofList (digits.take 1)
  let tail := if digits.length ≤ 1 then "" else "." ++ String.ofList (digits.drop 1)
  let power := if exponent < 0 then "e-" ++ toString exponent.natAbs else mark ++ toString exponent.natAbs
  head ++ tail ++ power

/-- The text of a decimal number under a layout. -/
def Decimal.write (d : Decimal) (l : Layout) : String :=
  let digits := Nat.toDigits 10 d.digits
  let whole : Int := digits.length + d.exponent
  if d.digits = 0 then (if l.keepsPoint then "0.0" else "0")
  else if l.positional (whole - 1) then writePositional l.keepsPoint digits whole
  else writeScientific l.mark digits (whole - 1)

def write (l : Layout) : Binary64 → String
  | nan => "NaN"
  | infinity s => if s then "-inf" else "inf"
  | finite s u _ => (if s then "-" else "") ++ (shortest l.tie u).write l

/-- The text with exactly that many places after the point, a tie going to the even digit. -/
def fixed (places : Nat) : Binary64 → String
  | nan => "NaN"
  | infinity s => if s then "-inf" else "inf"
  | finite s u _ =>
    let n := divNearestEven (u * Nat.pow 10 places) unitsOfOne
    let whole := toString (n / Nat.pow 10 places)
    let part := toString (n % Nat.pow 10 places)
    (if s then "-" else "") ++ whole ++
      (if places = 0 then "" else "." ++ zeros (places - part.length) ++ part)

end Reattempt.Binary64
