import Reattempt.Binary64.Basic

/-!
Arithmetic: each operation is the exact result, rounded once. The whole numbers that a value
rounds to, and powers by repeated squaring, are built on it.
-/
namespace Reattempt.Binary64

def neg : Binary64 → Binary64
  | nan => nan
  | infinity s => infinity !s
  | finite s u h => finite (!s) u h

/-- The signed number of units as a value; `negative` is the sign of a zero. -/
def ofSignedUnits (negative : Bool) (units : Int) : Binary64 :=
  if units = 0 then zero negative
  else pack (units < 0) (nearestUnits units.natAbs 1)

def add : Binary64 → Binary64 → Binary64
  | nan, _ | _, nan => nan
  | infinity s, infinity t => if s = t then infinity s else nan
  | infinity s, finite .. | finite .., infinity s => infinity s
  | finite s u _, finite t v _ =>
    ofSignedUnits (s && t) ((if s then -(u : Int) else u) + (if t then -(v : Int) else v))

def sub (x y : Binary64) : Binary64 := add x y.neg

def mul : Binary64 → Binary64 → Binary64
  | nan, _ | _, nan => nan
  | infinity s, infinity t => infinity (s != t)
  | infinity s, finite t u _ | finite t u _, infinity s =>
    if u = 0 then nan else infinity (s != t)
  | finite s u _, finite t v _ => pack (s != t) (nearestUnits (u * v) unitsOfOne)

def div : Binary64 → Binary64 → Binary64
  | nan, _ | _, nan => nan
  | infinity _, infinity _ => nan
  | infinity s, finite t .. => infinity (s != t)
  | finite s .., infinity t => zero (s != t)
  | finite s u _, finite t v _ =>
    if v = 0 then (if u = 0 then nan else infinity (s != t))
    else pack (s != t) (nearestUnits (u * unitsOfOne) v)

/-- A power by repeated squaring: the factors that the binary digits of the exponent select,
multiplied from the lowest digit up. A square that no later digit needs is not formed. -/
def powBy (result base : Binary64) (exponent : Nat) : Binary64 :=
  let result := if exponent % 2 = 1 then result.mul base else result
  if exponent / 2 = 0 then result else powBy result (base.mul base) (exponent / 2)
termination_by exponent
decreasing_by omega

def pow (base : Binary64) (exponent : Nat) : Binary64 := powBy 1 base exponent

/-- The whole number nearest to a value that is not below zero, a half going up. Anything else
counts as zero, and infinity as no whole number at all. -/
def round? : Binary64 → Option Nat
  | nan => some 0
  | infinity s => if s then some 0 else none
  | finite s u _ => some (if s then 0 else (u + unitsOfOne / 2) / unitsOfOne)

end Reattempt.Binary64
