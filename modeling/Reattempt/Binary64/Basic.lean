import Reattempt.Power

/-!
Binary floating-point numbers of 64 bits, as exact integers. Every finite one is a whole number
of units of `2 ^ -1074`, so a finite value is a sign and a natural number of units, its order is the
order of the naturals, and rounding is one function, `nearestUnits`: to the nearest number of units
that 53 binary digits can hold, a tie going to the even one.
-/
namespace Reattempt

/-- The units in the number one: `2 ^ 1074`. -/
def Binary64.unitsOfOne : Nat := 2 ^ 1074

/-- A number of units the format can hold: below the overflow limit, and nothing but zeros after
the first 53 binary digits. -/
def Binary64.OnGrid (units : Nat) : Prop := units < 2 ^ 2098 ∧ units % Nat.pow 2 (units.log2 - 52) = 0

instance (units : Nat) : Decidable (Binary64.OnGrid units) :=
  inferInstanceAs (Decidable (_ ∧ _))

/-- A floating-point number. All that is not a number is one value. -/
inductive Binary64 where
  | nan
  | infinity (negative : Bool)
  | finite (negative : Bool) (units : Nat) (onGrid : Binary64.OnGrid units)
  deriving DecidableEq

namespace Binary64

/-- The quotient as a whole number, the nearest one, of two equally near ones the even one. -/
def divNearestEven (num den : Nat) : Nat :=
  let q := num / den
  let r := num % den
  if 2 * r < den then q else if den < 2 * r then q + 1 else q + q % 2

/-- The number of units nearest to `num / den` that has at most 53 significant binary digits. -/
def nearestUnits (num den : Nat) : Nat :=
  let step := Nat.pow 2 ((num / den).log2 - 52)
  divNearestEven num (den * step) * step

/-- A value of that many units; infinite when the format ends before it. -/
def pack (negative : Bool) (units : Nat) : Binary64 :=
  if h : OnGrid units then finite negative units h else infinity negative

/-- The value nearest to `num / den`. -/
def ofRatio (negative : Bool) (num den : Nat) : Binary64 :=
  pack negative (nearestUnits (num * unitsOfOne) den)

/-- Zero of either sign. -/
def zero (negative : Bool) : Binary64 := pack negative 0

/-- The value nearest to a whole number. -/
def ofNat (n : Nat) : Binary64 := ofRatio false n 1

instance (n : Nat) : OfNat Binary64 n := ⟨ofNat n⟩

instance : Inhabited Binary64 := ⟨ofNat 0⟩

def isNan : Binary64 → Bool
  | nan => true
  | _ => false

def isFinite : Binary64 → Bool
  | finite .. => true
  | _ => false

def isNegative : Binary64 → Bool
  | nan => false
  | infinity s | finite s .. => s

/-- A place on a line on which infinity stands above every finite number of units; nothing for
what is not a number. -/
def rank : Binary64 → Option Int
  | nan => none
  | infinity s => some (if s then -(2 ^ 2098) else 2 ^ 2098)
  | finite s u _ => some (if s then -u else u)

/-- Strictly below. What is not a number is neither below nor above anything. -/
def lt (x y : Binary64) : Bool :=
  match x.rank, y.rank with
  | some a, some b => a < b
  | _, _ => false

/-- Below or equal; the two zeros are equal. -/
def le (x y : Binary64) : Bool :=
  match x.rank, y.rank with
  | some a, some b => a ≤ b
  | _, _ => false

/-- Numerically equal: the two zeros are, and what is not a number equals nothing. -/
def same (x y : Binary64) : Bool :=
  match x.rank, y.rank with
  | some a, some b => a == b
  | _, _ => false

end Binary64

end Reattempt
