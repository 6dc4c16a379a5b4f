import Reattempt.Binary64.Decimal

/-!
The shortest decimal that reads back: on the coarsest decimal grid that has a point in the interval
of numbers which round to the value, the point nearest to the value.
-/
namespace Reattempt.Binary64

/-- A decimal number `digits * 10 ^ exponent`. -/
structure Decimal where
  digits : Nat
  exponent : Int
  deriving DecidableEq, Repr

/-- The same number without zeros at the end of its digits. -/
def Decimal.strip (d : Decimal) : Decimal :=
  go (Text.digitCount d.digits) d
where
  go : Nat → Decimal → Decimal
    | 0, d => d
    | n + 1, d => if d.digits % 10 = 0 then go n ⟨d.digits / 10, d.exponent + 1⟩ else d

/-- The interval of numbers that round to so many units, in quarters of a unit, and whether its
ends belong to it. Below a power of two the neighbours are half as far apart. -/
structure Interval where
  low : Nat
  high : Nat
  closed : Bool

def intervalOf (units : Nat) : Interval :=
  let step := Nat.pow 2 (units.log2 - 52)
  let below := if units = Nat.pow 2 units.log2 ∧ 52 < units.log2 then step else 2 * step
  { low := 4 * units - below
    high := 4 * units + 2 * step
    closed := units / step % 2 = 0 }

def Interval.contains (i : Interval) (point scale : Nat) : Bool :=
  if i.closed then i.low * scale ≤ point && point ≤ i.high * scale
  else i.low * scale < point && point < i.high * scale

/-- Which of two points equally near to a value is taken. -/
inductive TieBreak where
  /-- The one farther from zero. -/
  | away
  /-- The one whose last digit is even. -/
  | even
  deriving DecidableEq, Repr

/-- The point nearest to the value on the grid of multiples of `10 ^ exponent`, if it or the point
on the other side of the value reads back. -/
def gridPoint? (tie : TieBreak) (units : Nat) (exponent : Int) : Option Nat :=
  let unit := 4 * unitsOfOne * Nat.pow 10 exponent.toNat
  let scale := Nat.pow 10 (-exponent).toNat
  let value := 4 * units * scale
  let d := value / unit
  let i := intervalOf units
  match i.contains (d * unit) scale, i.contains ((d + 1) * unit) scale with
  | true, true =>
    let down := value - d * unit
    let up := (d + 1) * unit - value
    if down < up then some d
    else if up < down then some (d + 1)
    else
      match tie with
      | .away => some (d + 1)
      | .even => some (d + d % 2)
  | true, false => some d
  | false, true => some (d + 1)
  | false, false => none

/-- The power of ten of the leading digit of a positive number of units. -/
def leadingExponent (units : Nat) : Int :=
  if unitsOfOne ≤ units then Text.digitCount (units / unitsOfOne) - 1
  else -(Text.digitCount ((unitsOfOne - 1) / units) : Int)

/-- Tries the grids on which the value has one digit more each time. -/
def searchGrids (tie : TieBreak) (units : Nat) (leading : Int) : Nat → Nat → Decimal
  | 0, _ => ⟨0, 0⟩
  | left + 1, digits =>
    let exponent := leading - digits
    match gridPoint? tie units exponent with
    | some d => ⟨d, exponent⟩
    | none => searchGrids tie units leading left (digits + 1)

/-- The shortest decimal that rounds to so many units. Seventeen digits always suffice. -/
def shortest (tie : TieBreak) (units : Nat) : Decimal :=
  if units = 0 then ⟨0, 0⟩ else (searchGrids tie units (leadingExponent units) 18 0).strip

end Reattempt.Binary64
