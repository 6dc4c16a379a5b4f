import Mathlib.Tactic.Ring
import Reattempt.Proofs.Rounding

/-!
Powers by repeated squaring. A power is exact up to the exponent up to which all powers can be held,
and above it no smaller than what can be held below the next power. Where a small number times a
power is a whole number below `2 ^ 53`, the power can be held (`exists_isPower`).
-/
namespace Reattempt

namespace Binary64

variable {u q v d w a b e k n cap top low : Nat} {x y : Binary64}

/-- The number of units of a finite value. -/
def units : Binary64 → Nat
  | finite _ u _ => u
  | _ => 0

theorem exists_one : ∃ h, (1 : Binary64) = finite false unitsOfOne h := by
  have hone := ofNat_of_lt (n := 1) (by decide)
  simp only [Nat.one_mul] at hone
  exact ⟨_, hone⟩

/-! ### Powers by repeated squaring -/

theorem ite_mul_induction {R : Nat → Binary64 → Prop}
    (mul : ∀ {a b x y}, R a x → R b y → R (a + b) (x.mul y)) (ha : R a x) (hb : R b y) (e : Nat) :
    R (a + b * (e % 2)) (if e % 2 = 1 then x.mul y else x) := by
  rcases Nat.mod_two_eq_zero_or_one e with heven | hodd
  · rw [heven]
    exact ha
  · rw [if_pos hodd, hodd, Nat.mul_one]
    exact mul ha hb

/-- What passes to products, exponents being added, passes to powers. -/
theorem powBy_induction {R : Nat → Binary64 → Prop}
    (mul : ∀ {a b x y}, R a x → R b y → R (a + b) (x.mul y)) (ha : R a x) (hb : R b y) (e : Nat) :
    R (a + b * e) (powBy x y e) := by
  -- The last digit of the exponent goes into the result, the others go to the square.
  fun_induction powBy x y e generalizing a b with
  | case1 x y e result =>
    rename_i hhalf
    have hresult : R (a + b * (e % 2)) result := ite_mul_induction mul ha hb e
    rwa [Nat.mod_eq_of_lt (by omega)] at hresult
  | case2 x y e result hhalf =>
    rename_i ih
    have hresult : R (a + b * (e % 2)) result := ite_mul_induction mul ha hb e
    have hsum : a + b * e = a + b * (e % 2) + (b + b) * (e / 2) := by
      conv_lhs => rw [← Nat.mod_add_div e 2]
      ring
    rw [hsum]
    exact ih hresult (mul hb hb)

theorem pow_one (h : OnGrid u) : (finite false u h).pow 1 = finite false u h := by
  obtain ⟨onGrid, hone⟩ := exists_one
  have hmul : (finite false unitsOfOne onGrid).mul (finite false u h) = finite false u h :=
    mul_finite h (Nat.mul_comm ..)
  have hodd : 1 % 2 = 1 := rfl
  have hhalf : 1 / 2 = 0 := rfl
  unfold pow powBy
  simp only [hone, hodd, hhalf, if_true, hmul]

/-- The value is the `k`-th power of the one of `u` units. -/
def IsPower (u k : Nat) (x : Binary64) : Prop :=
  ∃ q h, x = finite false q h ∧ q * unitsOfOne ^ k = u ^ k * unitsOfOne

theorem mul_eq_of_powers {qa qb : Nat} (ha : qa * unitsOfOne ^ a = u ^ a * unitsOfOne)
    (hb : qb * unitsOfOne ^ b = u ^ b * unitsOfOne) :
    qa * qb * unitsOfOne ^ (a + b) = u ^ (a + b) * unitsOfOne * unitsOfOne := by
  calc qa * qb * unitsOfOne ^ (a + b) = (qa * unitsOfOne ^ a) * (qb * unitsOfOne ^ b) := by ring
    _ = u ^ (a + b) * unitsOfOne * unitsOfOne := by rw [ha, hb]; ring

theorem IsPower.mul (hx : IsPower u a x) (hy : IsPower u b y) (h : ∃ z, IsPower u (a + b) z) :
    IsPower u (a + b) (x.mul y) := by
  obtain ⟨qa, onGrid, rfl, hqa⟩ := hx
  obtain ⟨qb, onGrid', rfl, hqb⟩ := hy
  obtain ⟨_, q, hq, -, hpower⟩ := h
  have hprod : qa * qb = q * unitsOfOne := by
    apply Nat.eq_of_mul_eq_mul_right (Nat.pow_pos (n := a + b) unitsOfOne_pos)
    rw [mul_eq_of_powers hqa hqb, ← hpower, Nat.mul_right_comm]
  exact ⟨q, hq, mul_finite hq hprod, hpower⟩

/-- Up to the exponent `top` every power of the value of `u` units can be held, and the powers above
have at least `low` units. -/
structure Powers (u top low : Nat) : Prop where
  exists_power : ∀ k ≤ top, ∃ x, IsPower u k x
  one_le : unitsOfOne ≤ u
  short : Short low
  one_le_low : unitsOfOne ≤ low
  low_le : low * unitsOfOne ^ (top + 1) ≤ u ^ (top + 1) * unitsOfOne

namespace Powers

variable (h : Powers u top low)

include h

theorem low_pos : 0 < low := Nat.lt_of_lt_of_le unitsOfOne_pos h.one_le_low

theorem low_mul_le (hk : top < k) : low * unitsOfOne ^ k ≤ u ^ k * unitsOfOne := by
  obtain ⟨j, rfl⟩ := Nat.exists_eq_add_of_lt hk
  have hpow : unitsOfOne ^ j ≤ u ^ j := Nat.pow_le_pow_left h.one_le j
  calc low * unitsOfOne ^ (top + j + 1) = low * unitsOfOne ^ (top + 1) * unitsOfOne ^ j := by ring
    _ ≤ u ^ (top + 1) * unitsOfOne * u ^ j := Nat.mul_le_mul h.low_le hpow
    _ = u ^ (top + j + 1) * unitsOfOne := by ring

/-- A power, where it can be held, and else a value that is large enough. -/
def Stage (u top low k : Nat) (x : Binary64) : Prop :=
  if k ≤ top then IsPower u k x else AtLeast x low

theorem atLeast_mul (hx : IsPower u a x) (hy : IsPower u b y) (hab : top < a + b) :
    AtLeast (x.mul y) low := by
  obtain ⟨qa, onGrid, rfl, hqa⟩ := hx
  obtain ⟨qb, onGrid', rfl, hqb⟩ := hy
  apply (atLeast_finite (Nat.le_refl qa)).mul (atLeast_finite (Nat.le_refl qb)) h.short h.low_pos
  apply Nat.le_of_mul_le_mul_right _ (Nat.pow_pos (n := a + b) unitsOfOne_pos)
  rw [mul_eq_of_powers hqa hqb, Nat.mul_right_comm]
  exact Nat.mul_le_mul_right _ (h.low_mul_le hab)

theorem atLeast_one (hx : IsPower u k x) : AtLeast x unitsOfOne := by
  obtain ⟨q, onGrid, rfl, hq⟩ := hx
  apply atLeast_finite
  apply Nat.le_of_mul_le_mul_right _ (Nat.pow_pos (n := k) unitsOfOne_pos)
  rw [hq, Nat.mul_comm]
  exact Nat.mul_le_mul_right _ (Nat.pow_le_pow_left h.one_le k)

theorem stage_mul (hx : Stage u top low a x) (hy : Stage u top low b y) :
    Stage u top low (a + b) (x.mul y) := by
  have large {v w : Nat} (hv : AtLeast x v) (hw : AtLeast y w) (hvw : low * unitsOfOne ≤ v * w) :
      AtLeast (x.mul y) low := hv.mul hw h.short h.low_pos hvw
  -- Both factors may be exact and the product not; else one of them is large enough already.
  unfold Stage at hx hy ⊢
  split at hx <;> split at hy
  · split
    · exact hx.mul hy (h.exists_power _ (by assumption))
    · exact h.atLeast_mul hx hy (by omega)
  · rw [if_neg (by omega)]
    exact large (h.atLeast_one hx) hy (Nat.le_of_eq (Nat.mul_comm ..))
  · rw [if_neg (by omega)]
    exact large hx (h.atLeast_one hy) (Nat.le_refl _)
  · rw [if_neg (by omega)]
    exact large hx hy (Nat.mul_le_mul_left _ h.one_le_low)

theorem stage_pow (hu : OnGrid u) (k : Nat) :
    Stage u top low k ((finite false u hu).pow k) := by
  have hone : Stage u top low 0 1 := by
    obtain ⟨onGrid, h1⟩ := exists_one
    rw [Stage, if_pos (Nat.zero_le _)]
    exact ⟨_, onGrid, h1, by rw [Nat.pow_zero, Nat.pow_zero, Nat.mul_comm]⟩
  have hself : Stage u top low 1 (finite false u hu) := by
    unfold Stage
    split
    · exact ⟨u, hu, rfl, by rw [Nat.pow_one, Nat.pow_one]⟩
    · obtain rfl : top = 0 := by omega
      have hle := h.low_le
      rw [Nat.zero_add, Nat.pow_one, Nat.pow_one] at hle
      exact atLeast_finite (Nat.le_of_mul_le_mul_right hle unitsOfOne_pos)
  have hpow := powBy_induction h.stage_mul hone hself k
  rwa [Nat.zero_add, Nat.one_mul] at hpow

end Powers

/-! ### Exact products -/

/-- A power of two that divides a multiple of `a` by a small factor nearly divides `a`. -/
theorem two_pow_dvd_of_dvd_mul (hpos : 0 < d) (hlt : d < 2 ^ n) (h : 2 ^ e ∣ d * a) :
    2 ^ e ∣ a * 2 ^ n := by
  -- The odd part of the factor does not matter, and its power of two is below the bound.
  obtain ⟨l, m, hm, rfl⟩ := Nat.exists_eq_two_pow_mul_odd (Nat.ne_of_gt hpos)
  have hl : l ≤ n := by
    apply (Nat.pow_le_pow_iff_right Nat.one_lt_two).mp
    exact Nat.le_trans (Nat.le_mul_of_pos_right _ hm.pos) (Nat.le_of_lt hlt)
  have hdvd : 2 ^ e ∣ m * (2 ^ l * a) := by
    rwa [Nat.mul_comm (2 ^ l) m, Nat.mul_assoc] at h
  have hcoprime := (Nat.Coprime.pow_right e hm.coprime_two_right).symm.dvd_of_dvd_mul_left hdvd
  rw [Nat.mul_comm a]
  exact hcoprime.trans (Nat.mul_dvd_mul_right (Nat.pow_dvd_pow 2 hl) a)

theorem unitsOfOne_pow (k : Nat) : unitsOfOne ^ k = 2 ^ (1074 * k) := by
  rw [unitsOfOne_eq, Nat.pow_mul]

theorem pos_of_mul_pow (hd : 0 < d) (hu : 0 < u) (h : d * u ^ k = w * unitsOfOne ^ k) : 0 < w := by
  apply Nat.pos_of_mul_pos_right
  rw [← h]
  exact Nat.mul_pos hd (Nat.pow_pos hu)

/-- Where a whole number times a power is a whole number below `2 ^ 53`, the power can be held. -/
theorem exists_isPower (hd : 0 < d) (hdlt : d < 2 ^ 53) (hu : 0 < u) (hw : w < 2 ^ 53)
    (h : d * u ^ k = w * unitsOfOne ^ k) : ∃ x, IsPower u k x := by
  have hk : 0 < unitsOfOne ^ k := Nat.pow_pos unitsOfOne_pos
  -- The small factor keeps fewer than 53 powers of two from the power, and a unit has more.
  have hdvd : unitsOfOne ^ k ∣ u ^ k * unitsOfOne := by
    have hsmall : 2 ^ (1074 * k) ∣ u ^ k * 2 ^ 53 := by
      apply two_pow_dvd_of_dvd_mul hd hdlt
      rw [h, unitsOfOne_pow]
      exact Nat.dvd_mul_left ..
    rw [unitsOfOne_pow]
    exact hsmall.trans (Nat.mul_dvd_mul_left _ dvd_unitsOfOne)
  obtain ⟨q, hq⟩ := hdvd
  -- The power has few digits because it divides a whole number that has few.
  have hpower : q * unitsOfOne ^ k = u ^ k * unitsOfOne := by rw [hq, Nat.mul_comm]
  have hprod : d * q = w * unitsOfOne := by
    apply Nat.eq_of_mul_eq_mul_right hk
    calc d * q * unitsOfOne ^ k = d * u ^ k * unitsOfOne := by
          rw [Nat.mul_assoc, hpower, Nat.mul_assoc]
      _ = w * unitsOfOne * unitsOfOne ^ k := by rw [h, Nat.mul_right_comm]
  have hwpos := pos_of_mul_pow hd hu h
  have hle : q ≤ w * unitsOfOne := hprod ▸ Nat.le_mul_of_pos_left q hd
  have hshort : Short q := by
    apply short_of_dvd (k := 1074) hwpos hw
    rw [← unitsOfOne_eq, ← hprod]
    exact Nat.dvd_mul_left ..
  exact ⟨_, q, onGrid_iff.mpr ⟨Nat.lt_of_le_of_lt hle (onGrid_ofNat hw).1, hshort⟩, rfl, hpower⟩

theorem exists_quotient (a : Nat) (hb : 0 < b) : ∃ q, q * b ≤ a ∧ a < (q + 1) * b := by
  refine ⟨a / b, Nat.div_mul_le_self a b, ?_⟩
  rw [Nat.mul_comm]
  exact Nat.lt_mul_div_succ a hb

theorem half_below (h : cap ≤ 2 ^ 51) : (2 * cap - 1) * (2 ^ 52 + 1) ≤ 2 * cap * 2 ^ 52 := by omega

/-- Below a power there is a number of units that can be held and is hardly smaller. -/
theorem exists_low (hu : unitsOfOne ≤ u) (hcap : cap ≤ 2 ^ 51)
    (h : cap * unitsOfOne ^ k ≤ d * u ^ k) :
    ∃ low, Short low ∧ unitsOfOne ≤ low ∧ low * unitsOfOne ^ k ≤ u ^ k * unitsOfOne ∧
      (2 * cap - 1) * (unitsOfOne / 2) ≤ d * low := by
  have hk : 0 < unitsOfOne ^ k := Nat.pow_pos unitsOfOne_pos
  obtain ⟨q, hq, hq'⟩ := exists_quotient (u ^ k * unitsOfOne) hk
  have hone : unitsOfOne ≤ q := by
    apply Nat.le_of_lt_succ
    apply Nat.lt_of_mul_lt_mul_right (a := unitsOfOne ^ k)
    apply Nat.lt_of_le_of_lt _ hq'
    rw [Nat.mul_comm]
    exact Nat.mul_le_mul_right _ (Nat.pow_le_pow_left hu k)
  refine ⟨cut q, short_cut q, short_unitsOfOne.le_cut hone,
    Nat.le_trans (Nat.mul_le_mul_right _ (cut_le q)) hq, ?_⟩
  -- The cut takes off too little to come half a nanosecond below the cap.
  have hcapq : cap * unitsOfOne ≤ d * (q + 1) := by
    apply Nat.le_of_mul_le_mul_right _ hk
    calc cap * unitsOfOne * unitsOfOne ^ k = cap * unitsOfOne ^ k * unitsOfOne :=
          Nat.mul_right_comm ..
      _ ≤ d * u ^ k * unitsOfOne := Nat.mul_le_mul_right _ h
      _ = d * (u ^ k * unitsOfOne) := Nat.mul_assoc ..
      _ ≤ d * ((q + 1) * unitsOfOne ^ k) := Nat.mul_le_mul_left _ (Nat.le_of_lt hq')
      _ = d * (q + 1) * unitsOfOne ^ k := (Nat.mul_assoc ..).symm
  have hdigits : 2 ^ 53 ≤ unitsOfOne := Nat.le_of_dvd unitsOfOne_pos dvd_unitsOfOne
  have hcut : (q + 1) * 2 ^ 52 ≤ cut q * (2 ^ 52 + 1) :=
    succ_mul_le_cut (Nat.le_trans (by omega) hone)
  apply Nat.le_of_mul_le_mul_right _ (by decide : 0 < 2 ^ 52 + 1)
  calc (2 * cap - 1) * (unitsOfOne / 2) * (2 ^ 52 + 1)
      = (2 * cap - 1) * (2 ^ 52 + 1) * (unitsOfOne / 2) := Nat.mul_right_comm ..
    _ ≤ 2 * cap * 2 ^ 52 * (unitsOfOne / 2) := Nat.mul_le_mul_right _ (half_below hcap)
    _ = cap * (2 * (unitsOfOne / 2)) * 2 ^ 52 := by ring
    _ = cap * unitsOfOne * 2 ^ 52 := by rw [two_mul_half]
    _ ≤ d * (q + 1) * 2 ^ 52 := Nat.mul_le_mul_right _ hcapq
    _ = d * ((q + 1) * 2 ^ 52) := Nat.mul_assoc ..
    _ ≤ d * (cut q * (2 ^ 52 + 1)) := Nat.mul_le_mul_left _ hcut
    _ = d * cut q * (2 ^ 52 + 1) := (Nat.mul_assoc ..).symm

theorem two_mul_le_two_pow (ha : a = 2 ^ n) (h : a < 2 ^ e) : 2 * a ≤ 2 ^ e := by
  subst ha
  rw [Nat.mul_comm, ← Nat.pow_succ]
  exact Nat.pow_le_pow_right Nat.two_pos ((Nat.pow_lt_pow_iff_right Nat.one_lt_two).mp h)

/-- A value above one grows at least as powers of two do where it meets whole numbers. -/
theorem two_pow_le (hd : 0 < d) (hu : unitsOfOne < u) (h : d * u ^ k = w * unitsOfOne ^ k) :
    2 ^ k ≤ w := by
  have hk : 0 < unitsOfOne ^ k := Nat.pow_pos unitsOfOne_pos
  have hpos : 0 < u := Nat.lt_trans unitsOfOne_pos hu
  have hwpos := pos_of_mul_pow hd hpos h
  obtain ⟨t, m, hm, rfl⟩ := Nat.exists_eq_two_pow_mul_odd (Nat.ne_of_gt hpos)
  rcases Nat.lt_or_ge m 2 with hone | htwo
  · -- The value is a power of two.
    obtain rfl : m = 1 := by have := hm.pos; omega
    have hdouble : 2 * unitsOfOne ≤ 2 ^ t * 1 := by
      obtain ⟨n, hn⟩ := exists_two_pow
      rw [Nat.mul_one] at hu ⊢
      exact two_mul_le_two_pow hn hu
    apply Nat.le_of_mul_le_mul_right _ hk
    calc 2 ^ k * unitsOfOne ^ k = (2 * unitsOfOne) ^ k := (Nat.mul_pow ..).symm
      _ ≤ (2 ^ t * 1) ^ k := Nat.pow_le_pow_left hdouble k
      _ ≤ d * (2 ^ t * 1) ^ k := Nat.le_mul_of_pos_left _ hd
      _ = w * unitsOfOne ^ k := h
  · -- The odd part of the value is above one and passes to the whole number.
    have hdvd : m ^ k ∣ w * 2 ^ (1074 * k) := by
      rw [← unitsOfOne_pow, ← h, Nat.mul_pow]
      exact ⟨d * (2 ^ t) ^ k, by ring⟩
    have hodd : m ^ k ∣ w :=
      ((Nat.Coprime.pow_right _ hm.coprime_two_right).pow_left k).dvd_of_dvd_mul_right hdvd
    exact Nat.le_trans (Nat.pow_le_pow_left htwo k) (Nat.le_of_dvd hwpos hodd)

end Binary64

end Reattempt
