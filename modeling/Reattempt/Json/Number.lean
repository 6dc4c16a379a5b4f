import Reattempt.Binary64.Decimal
import Reattempt.Document.Basic

/-!
JSON numbers. An integer that 64 bits hold is exact. Any other number is a significand of at most 64
bits, as many leading digits as it holds, scaled by a power of ten in floating-point arithmetic: the
scaling rounds once more, so such a number may end beside the nearest value. A number that leaves
the format on the way is out of range.
-/
namespace Reattempt.Json

/-- The parts of a number. -/
structure Numeral where
  negative : Bool
  whole : List Char
  /-- Digits after a point; nothing if there is no point. -/
  fraction : Option (List Char)
  /-- An exponent: whether it is negative, and its digits. -/
  exponent : Option (Bool × List Char)

/-- A significand being filled, and the power of ten it stands for. -/
structure Significand where
  digits : Nat
  exponent : Int
  full : Bool

namespace Significand

def limit : Nat := 2 ^ 64 - 1

/-- Takes a digit before the point: once one does not fit, all the rest only count. -/
def takeWhole (s : Significand) (c : Char) : Significand :=
  let d := 10 * s.digits + (Text.digit? c).getD 0
  if s.full then { s with exponent := s.exponent + 1 }
  else if d ≤ limit then { s with digits := d }
  else { s with exponent := s.exponent + 1, full := true }

/-- Takes a digit after the point: from one that does not fit on, they are dropped. -/
def takeFraction (s : Significand) (c : Char) : Significand :=
  let d := 10 * s.digits + (Text.digit? c).getD 0
  if s.full then s
  else if d ≤ limit then { s with digits := d, exponent := s.exponent - 1 }
  else { s with full := true }

def ofDigits (whole fraction : List Char) : Significand :=
  let s := whole.foldl takeWhole ⟨0, 0, false⟩
  fraction.foldl takeFraction { s with full := false }

end Significand

/-- A value times a power of ten, in steps of at most `10 ^ 308`. Nothing if it grows past the
format. Three steps bring any 64-bit significand to zero. -/
def scaleByTen : Nat → Binary64 → Int → Option Binary64
  | 0, x, _ => some x
  | left + 1, x, e =>
    if e.natAbs ≤ 308 then
      let power := Binary64.ofNat (Nat.pow 10 e.natAbs)
      if 0 ≤ e then
        let y := x.mul power
        if y.isFinite then some y else none
      else some (x.div power)
    else if x.same 0 then some x
    else if 0 ≤ e then none
    else scaleByTen left (x.div (.ofNat (10 ^ 308))) (e + 308)

/-- The value of a number with a fraction, an exponent, or too many digits. -/
def Numeral.real (n : Numeral) : Option Binary64 :=
  let s := Significand.ofDigits n.whole (n.fraction.getD [])
  let sign (x : Binary64) : Binary64 := if n.negative then x.neg else x
  match n.exponent with
  | none => (scaleByTen 4 (.ofNat s.digits) s.exponent).map sign
  | some (down, digits) =>
    let e := Text.digitsValue digits
    if 2 ^ 31 ≤ e then
      if s.digits ≠ 0 ∧ !down then none else some (sign 0)
    else
      (scaleByTen 4 (.ofNat s.digits) (s.exponent + if down then -(e : Int) else e)).map sign

/-- The datum a number stands for. -/
def Numeral.document (n : Numeral) : Document :=
  let value := Text.digitsValue n.whole
  if n.fraction.isSome || n.exponent.isSome then .real n.real
  else if n.negative then
    if value ≠ 0 ∧ value ≤ 2 ^ 63 then .whole (-value) else .real n.real
  else if value < 2 ^ 64 then .whole value
  else .real n.real

/-- A number at the front of a text, and the rest. -/
def scanNumeral? (cs : List Char) : Option (Numeral × List Char) :=
  let (negative, cs) : Bool × List Char :=
    match cs with
    | '-' :: r => (true, r)
    | r => (false, r)
  let whole := cs.takeWhile Text.isDigit
  let rest := cs.dropWhile Text.isDigit
  if whole.isEmpty || (whole.head? == some '0' && 1 < whole.length) then none
  else
    let (fraction, rest) : Option (List Char) × List Char :=
      match rest with
      | '.' :: r => (some (r.takeWhile Text.isDigit), r.dropWhile Text.isDigit)
      | r => (none, r)
    let (exponent, rest) : Option (Bool × List Char) × List Char :=
      match rest with
      | c :: r =>
        if c = 'e' ∨ c = 'E' then
          let (down, r) : Bool × List Char :=
            match r with
            | '-' :: r => (true, r)
            | '+' :: r => (false, r)
            | r => (false, r)
          (some (down, r.takeWhile Text.isDigit), r.dropWhile Text.isDigit)
        else (none, c :: r)
      | [] => (none, [])
    if fraction == some [] || exponent.any (·.2.isEmpty) then none
    else some (⟨negative, whole, fraction, exponent⟩, rest)

end Reattempt.Json
