import Reattempt.Power

/-!
Spans of time in whole nanoseconds, up to the largest that whole seconds of 64 bits and a rest below
one second can name. Sums that pass it do not exist; differences stop at zero.
-/
namespace Reattempt

/-- The longest span, in nanoseconds. -/
def Duration.maxNanos : Nat := 2 ^ 64 * 10 ^ 9 - 1

/-- A span of time. -/
structure Duration where
  nanos : Nat
  nanos_le : nanos ≤ Duration.maxNanos
  deriving DecidableEq

namespace Duration

/-- That many nanoseconds, or the longest span. -/
def ofNanos (n : Nat) : Duration := ⟨min n maxNanos, Nat.min_le_right ..⟩

def ofMillis (n : Nat) : Duration := ofNanos (n * 10 ^ 6)

def ofSeconds (n : Nat) : Duration := ofNanos (n * 10 ^ 9)

def zero : Duration := ofNanos 0

instance : Inhabited Duration := ⟨zero⟩

def isZero (d : Duration) : Bool := d.nanos == 0

instance : LE Duration := ⟨fun a b => a.nanos ≤ b.nanos⟩
instance : LT Duration := ⟨fun a b => a.nanos < b.nanos⟩
instance (a b : Duration) : Decidable (a ≤ b) := inferInstanceAs (Decidable (a.nanos ≤ b.nanos))
instance (a b : Duration) : Decidable (a < b) := inferInstanceAs (Decidable (a.nanos < b.nanos))

/-- The sum, if it can be named. -/
def add? (a b : Duration) : Option Duration :=
  if h : a.nanos + b.nanos ≤ maxNanos then some ⟨a.nanos + b.nanos, h⟩ else none

/-- The difference, zero where `b` is longer. -/
def monus (a b : Duration) : Duration :=
  ⟨a.nanos - b.nanos, Nat.le_trans (Nat.sub_le ..) a.nanos_le⟩

/-- The shorter of two spans. -/
def shorter (a b : Duration) : Duration := if a ≤ b then a else b

/-- Whole milliseconds, in 64 bits: a longer span counts as the largest number of them. -/
def wholeMillis (d : Duration) : Nat := min (d.nanos / 10 ^ 6) (2 ^ 64 - 1)

@[simp] theorem nanos_ofNanos (n : Nat) : (ofNanos n).nanos = min n maxNanos := rfl

@[simp] theorem nanos_monus (a b : Duration) : (a.monus b).nanos = a.nanos - b.nanos := rfl

theorem ext_nanos {a b : Duration} (h : a.nanos = b.nanos) : a = b := by
  cases a; cases b; simp_all

end Duration

end Reattempt
