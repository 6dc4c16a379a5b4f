import Mathlib.Algebra.Order.Ring.Nat
import Mathlib.Algebra.Order.Ring.Nat
import Mathlib.Algebra.Ring.Parity
import Mathlib.Data.Nat.Factorization.Basic
import Mathlib.Data.Nat.Log
import Reattempt.Proofs.Waits

/-!
Rounding. A number of units that 53 binary digits can hold is rounded to itself, and what is not
below it is not rounded to below it. Hence a product that can be held is exact, and one that is not
below a number that can be held stays so. A whole number of nanoseconds below `2 ^ 53` is read as it
is, and what is half a nanosecond below the cap or more is read as the cap.
-/
namespace Reattempt

namespace Binary64

variable {u v w n k num den : Nat} {x y : Binary64}

/-- A number of units that 53 binary digits can hold, whatever its size. -/
def Short (u : Nat) : Prop := ∃ q k, u = q * 2 ^ k ∧ q < 2 ^ 53

/-- The leading 53 binary digits of a number, with zeros after them. -/
def cut (u : Nat) : Nat := u / 2 ^ (u.log2 - 52) * 2 ^ (u.log2 - 52)

theorem short_of_lt (h : u < 2 ^ 53) : Short u := ⟨u, 0, by rw [Nat.pow_zero, Nat.mul_one], h⟩

theorem Short.mul_two_pow (h : Short u) (k : Nat) : Short (u * 2 ^ k) := by
  obtain ⟨q, l, rfl, hq⟩ := h
  exact ⟨q, l + k, by rw [Nat.pow_add, Nat.mul_assoc], hq⟩

/-- A factor of a number that can be held can be held. -/
theorem short_of_dvd (hpos : 0 < v) (hlt : v < 2 ^ 53) (h : u ∣ v * 2 ^ k) : Short u := by
  have hu : u ≠ 0 := by
    rintro rfl
    have := Nat.mul_pos hpos (Nat.two_pow_pos k)
    rw [Nat.eq_zero_of_zero_dvd h] at this
    cases this
  obtain ⟨l, m, hm, rfl⟩ := Nat.exists_eq_two_pow_mul_odd hu
  -- The odd part of the factor has no share in the power of two.
  have hodd : m ∣ v :=
    (Nat.Coprime.pow_right k hm.coprime_two_right).dvd_of_dvd_mul_right (dvd_of_mul_left_dvd h)
  exact ⟨m, l, Nat.mul_comm .., Nat.lt_of_le_of_lt (Nat.le_of_dvd hpos hodd) hlt⟩

theorem leading_lt (u : Nat) : u / 2 ^ (u.log2 - 52) < 2 ^ 53 := by
  apply (Nat.div_lt_iff_lt_mul (Nat.two_pow_pos _)).mpr
  rw [← Nat.pow_add]
  apply Nat.lt_of_lt_of_le Nat.lt_log2_self
  exact Nat.pow_le_pow_right (by decide) (by omega)

theorem short_cut (u : Nat) : Short (cut u) := ⟨_, _, rfl, leading_lt u⟩

theorem cut_le (u : Nat) : cut u ≤ u := Nat.div_mul_le_self ..

theorem Short.dvd (h : Short u) : 2 ^ (u.log2 - 52) ∣ u := by
  obtain ⟨q, k, rfl, hq⟩ := h
  rcases Nat.eq_zero_or_pos q with rfl | hpos
  · rw [Nat.zero_mul]
    exact Nat.dvd_zero _
  · have hlog : (q * 2 ^ k).log2 < 53 + k := by
      apply (Nat.log2_lt (Nat.ne_of_gt (Nat.mul_pos hpos (Nat.two_pow_pos k)))).mpr
      rw [Nat.pow_add]
      exact Nat.mul_lt_mul_of_pos_right hq (Nat.two_pow_pos k)
    exact Nat.dvd_mul_left_of_dvd (Nat.pow_dvd_pow 2 (by omega)) q

theorem onGrid_iff : OnGrid u ↔ u < 2 ^ 2098 ∧ Short u := by
  constructor
  · rintro ⟨hlt, hmod⟩
    have hcut : cut u = u := Nat.div_mul_cancel (Nat.dvd_of_mod_eq_zero hmod)
    exact ⟨hlt, hcut ▸ short_cut u⟩
  · rintro ⟨hlt, hshort⟩
    exact ⟨hlt, Nat.mod_eq_zero_of_dvd hshort.dvd⟩

theorem two_pow_log2_le_cut (hpos : 0 < u) : 2 ^ u.log2 ≤ cut u := by
  have hdvd : 2 ^ (u.log2 - 52) ∣ 2 ^ u.log2 := Nat.pow_dvd_pow 2 (by omega)
  calc 2 ^ u.log2 = 2 ^ u.log2 / 2 ^ (u.log2 - 52) * 2 ^ (u.log2 - 52) :=
        (Nat.div_mul_cancel hdvd).symm
    _ ≤ cut u :=
        Nat.mul_le_mul_right _ (Nat.div_le_div_right (Nat.log2_self_le (Nat.ne_of_gt hpos)))

/-- Cutting a number does not take it below one that can be held. -/
theorem Short.le_cut (h : Short v) (hle : v ≤ u) : v ≤ cut u := by
  rcases Nat.eq_zero_or_pos v with rfl | hv
  · exact Nat.zero_le _
  · rcases Nat.lt_or_ge v (2 ^ u.log2) with hlt | hge
    · exact Nat.le_trans (Nat.le_of_lt hlt) (two_pow_log2_le_cut (Nat.lt_of_lt_of_le hv hle))
    · -- `v` has as many digits, so that it is cut at the same place.
      have hlog : v.log2 = u.log2 := by
        apply Nat.le_antisymm
        · rw [Nat.log2_eq_log_two, Nat.log2_eq_log_two]
          exact Nat.log_mono_right hle
        · exact (Nat.le_log2 (Nat.ne_of_gt hv)).mpr hge
      calc v = v / 2 ^ (u.log2 - 52) * 2 ^ (u.log2 - 52) := (Nat.div_mul_cancel (hlog ▸ h.dvd)).symm
        _ ≤ cut u := Nat.mul_le_mul_right _ (Nat.div_le_div_right hle)

/-- What is cut off a number of 53 digits or more is a small part of what is left. -/
theorem succ_mul_le_cut (h : 2 ^ 52 ≤ u) : (u + 1) * 2 ^ 52 ≤ cut u * (2 ^ 52 + 1) := by
  have hpos : 0 < u := Nat.lt_of_lt_of_le (Nat.two_pow_pos 52) h
  have hlog : 52 ≤ u.log2 := (Nat.le_log2 (Nat.ne_of_gt hpos)).mpr h
  have hstep : 2 ^ (u.log2 - 52) * 2 ^ 52 ≤ cut u := by
    rw [← Nat.pow_add, Nat.sub_add_cancel hlog]
    exact two_pow_log2_le_cut hpos
  have hrest : u + 1 ≤ cut u + 2 ^ (u.log2 - 52) := Nat.lt_div_mul_add (Nat.two_pow_pos _)
  calc (u + 1) * 2 ^ 52 ≤ (cut u + 2 ^ (u.log2 - 52)) * 2 ^ 52 := Nat.mul_le_mul_right _ hrest
    _ = cut u * 2 ^ 52 + 2 ^ (u.log2 - 52) * 2 ^ 52 := Nat.add_mul ..
    _ ≤ cut u * 2 ^ 52 + cut u := Nat.add_le_add_left hstep _
    _ = cut u * (2 ^ 52 + 1) := (Nat.mul_succ ..).symm

/-! ### The nearest number of units -/

theorem divNearestEven_mul (n : Nat) (hden : 0 < den) : divNearestEven (n * den) den = n := by
  simp only [divNearestEven, Nat.mul_div_cancel n hden, Nat.mul_mod_left, Nat.mul_zero, if_pos hden]

theorem div_le_divNearestEven (num den : Nat) : num / den ≤ divNearestEven num den := by
  simp only [divNearestEven]
  split
  · exact Nat.le_refl _
  · split <;> omega

/-- A whole number and half of one more, less than one in any case. -/
theorem half_up (n : Nat) (hden : 0 < den) : (n * den + den / 2) / den = n := by
  rw [Nat.mul_comm, Nat.mul_add_div hden, Nat.div_eq_of_lt (Nat.div_lt_self hden Nat.one_lt_two),
    Nat.add_zero]

theorem half_up_le (h : num ≤ n * den) (hden : 0 < den) : (num + den / 2) / den ≤ n := by
  calc (num + den / 2) / den ≤ (n * den + den / 2) / den :=
        Nat.div_le_div_right (Nat.add_le_add_right h _)
    _ = n := half_up n hden

theorem le_half_up (heven : 2 * (den / 2) = den) (hden : 0 < den)
    (h : (2 * n - 1) * (den / 2) ≤ num) : n ≤ (num + den / 2) / den := by
  have hhalves : n * den = 2 * n * (den / 2) := by
    rw [Nat.mul_right_comm, heven, Nat.mul_comm]
  apply (Nat.le_div_iff_mul_le hden).mpr
  calc n * den ≤ (2 * n - 1 + 1) * (den / 2) := by
        rw [hhalves]
        exact Nat.mul_le_mul_right _ (by omega)
    _ = (2 * n - 1) * (den / 2) + den / 2 := Nat.succ_mul ..
    _ ≤ num + den / 2 := Nat.add_le_add_right h _

/-- What can be held is rounded to itself. -/
theorem nearestUnits_mul (h : Short u) (hden : 0 < den) : nearestUnits (u * den) den = u := by
  obtain ⟨c, hc⟩ := h.dvd
  have hpos : 0 < den * 2 ^ (u.log2 - 52) := Nat.mul_pos hden (Nat.two_pow_pos _)
  have hnum : u * den = c * (den * 2 ^ (u.log2 - 52)) := by
    calc u * den = 2 ^ (u.log2 - 52) * c * den := by rw [← hc]
      _ = c * (den * 2 ^ (u.log2 - 52)) := by rw [Nat.mul_assoc, Nat.mul_comm, Nat.mul_assoc]
  have hstep : Nat.pow 2 (u.log2 - 52) = 2 ^ (u.log2 - 52) := rfl
  simp only [nearestUnits, Nat.mul_div_cancel u hden, hstep]
  rw [hnum, divNearestEven_mul c hpos, Nat.mul_comm, ← hc]

/-- Rounding does not pass a number that can be held. -/
theorem Short.le_nearestUnits (h : Short v) (hden : 0 < den) (hle : v * den ≤ num) :
    v ≤ nearestUnits num den := by
  have hround := div_le_divNearestEven num (den * 2 ^ ((num / den).log2 - 52))
  rw [← Nat.div_div_eq_div_mul] at hround
  calc v ≤ cut (num / den) := h.le_cut ((Nat.le_div_iff_mul_le hden).mpr hle)
    _ ≤ nearestUnits num den := Nat.mul_le_mul_right _ hround

theorem unitsOfOne_eq : unitsOfOne = 2 ^ 1074 := by rw [unitsOfOne]

/-- The exponent has a name, so that nothing evaluates the power. -/
theorem exists_exponent : ∃ n, n = 1074 ∧ unitsOfOne = 2 ^ n := ⟨1074, rfl, unitsOfOne_eq⟩

theorem exists_two_pow : ∃ n, unitsOfOne = 2 ^ n := ⟨1074, unitsOfOne_eq⟩

theorem unitsOfOne_pos : 0 < unitsOfOne := by
  obtain ⟨n, hone⟩ := exists_two_pow
  rw [hone]
  exact Nat.two_pow_pos n

theorem short_unitsOfOne : Short unitsOfOne := by
  obtain ⟨n, hone⟩ := exists_two_pow
  exact ⟨1, n, by rw [hone, Nat.one_mul], by decide⟩

theorem exists_two_pow_double : ∃ n, unitsOfOne = 2 ^ n * 2 := by
  obtain ⟨n, hn, hone⟩ := exists_exponent
  obtain ⟨k, rfl⟩ : ∃ k, n = k + 1 := ⟨n - 1, by omega⟩
  exact ⟨k, by rw [hone, Nat.pow_succ]⟩

theorem exists_two_pow_half : ∃ n, unitsOfOne / 2 = 2 ^ n := by
  obtain ⟨n, hone⟩ := exists_two_pow_double
  exact ⟨n, by rw [hone, Nat.mul_div_cancel _ Nat.two_pos]⟩

theorem two_mul_half : 2 * (unitsOfOne / 2) = unitsOfOne := by
  obtain ⟨n, hone⟩ := exists_two_pow_double
  rw [hone, Nat.mul_div_cancel _ Nat.two_pos, Nat.mul_comm]

theorem dvd_unitsOfOne : 2 ^ 53 ∣ unitsOfOne := by
  obtain ⟨n, hn, hone⟩ := exists_exponent
  rw [hone]
  exact Nat.pow_dvd_pow 2 (by omega)

/-- A number of up to 95 binary digits lies within the format. -/
theorem mul_unitsOfOne_lt (h : n < 2 ^ 95) : n * unitsOfOne < 2 ^ 2098 := by
  obtain ⟨k, hk, hone⟩ := exists_exponent
  calc n * unitsOfOne < 2 ^ 95 * unitsOfOne := Nat.mul_lt_mul_of_pos_right h unitsOfOne_pos
    _ = 2 ^ (95 + k) := by rw [hone, Nat.pow_add]
    _ ≤ 2 ^ 2098 := by
      apply Nat.pow_le_pow_right
      · decide
      · omega

theorem pack_of_onGrid (negative : Bool) (h : OnGrid u) : pack negative u = finite negative u h :=
  dif_pos h

/-! ### Values that are not below a number of units -/

/-- The value is positive and has at least so many units. -/
def AtLeast (x : Binary64) (u : Nat) : Prop :=
  x = infinity false ∨ ∃ v h, x = finite false v h ∧ u ≤ v

theorem atLeast_finite {h : OnGrid v} (hle : u ≤ v) : AtLeast (finite false v h) u :=
  .inr ⟨v, h, rfl, hle⟩

theorem atLeast_pack (h : u ≤ v) : AtLeast (pack false v) u := by
  unfold pack
  split
  · exact atLeast_finite h
  · exact .inl rfl

/-- A product is not below what can be held and is not above the product of the bounds. -/
theorem AtLeast.mul (hx : AtLeast x u) (hy : AtLeast y v) (hw : Short w) (hpos : 0 < w)
    (h : w * unitsOfOne ≤ u * v) : AtLeast (x.mul y) w := by
  have huv : 0 < u * v := Nat.lt_of_lt_of_le (Nat.mul_pos hpos unitsOfOne_pos) h
  have hu : 0 < u := Nat.pos_of_mul_pos_right huv
  have hv : 0 < v := Nat.pos_of_mul_pos_left huv
  -- An infinite factor makes the product infinite, for neither factor is zero.
  obtain rfl | ⟨a, onGrid, rfl, ha⟩ := hx <;> obtain rfl | ⟨b, onGrid', rfl, hb⟩ := hy
  · exact .inl rfl
  · simp only [Binary64.mul, if_neg (Nat.ne_of_gt (Nat.lt_of_lt_of_le hv hb))]
    exact .inl rfl
  · simp only [Binary64.mul, if_neg (Nat.ne_of_gt (Nat.lt_of_lt_of_le hu ha))]
    exact .inl rfl
  · apply atLeast_pack
    exact hw.le_nearestUnits unitsOfOne_pos (Nat.le_trans h (Nat.mul_le_mul ha hb))

/-- A product that can be held is exact. -/
theorem mul_finite {hu : OnGrid u} {hv : OnGrid v} (hw : OnGrid w) (h : u * v = w * unitsOfOne) :
    (finite false u hu).mul (finite false v hv) = finite false w hw := by
  simp only [mul, bne_self_eq_false, h]
  rw [nearestUnits_mul (onGrid_iff.mp hw).2 unitsOfOne_pos, pack_of_onGrid]

/-! ### Order -/

theorem lt_finite {hu : OnGrid u} {hv : OnGrid v} :
    (finite false u hu).lt (finite false v hv) = decide (u < v) := by
  simp only [lt, rank, Bool.false_eq_true, if_false, Int.ofNat_lt]

/-- A finite value lies within the format. -/
theorem OnGrid.lt_limit (h : OnGrid u) : (u : Int) < 2 ^ 2098 := by
  have hlimit : ((2 ^ 2098 : Nat) : Int) = 2 ^ 2098 := Int.natCast_pow 2 2098
  rw [← hlimit]
  exact Int.ofNat_lt.mpr h.1

theorem lt_infinity (h : OnGrid u) : (finite false u h).lt (infinity false) = true := by
  simp only [lt, rank, Bool.false_eq_true, if_false]
  exact decide_eq_true h.lt_limit

theorem infinity_lt (h : OnGrid u) : (infinity false).lt (finite false u h) = false := by
  simp only [lt, rank, Bool.false_eq_true, if_false]
  exact decide_eq_false (Int.not_lt.mpr (Int.le_of_lt h.lt_limit))

theorem round?_finite {h : OnGrid u} :
    (finite false u h).round? = some ((u + unitsOfOne / 2) / unitsOfOne) := by
  simp only [round?, Bool.false_eq_true, if_false]

/-! ### Whole numbers -/

theorem onGrid_ofNat (h : n < 2 ^ 53) : OnGrid (n * unitsOfOne) := by
  have hshort : Short (n * unitsOfOne) := ⟨n, 1074, by rw [unitsOfOne_eq], h⟩
  exact onGrid_iff.mpr ⟨mul_unitsOfOne_lt (by omega), hshort⟩

theorem ofNat_of_lt (h : n < 2 ^ 53) :
    ofNat n = finite false (n * unitsOfOne) (onGrid_ofNat h) := by
  have hunits := nearestUnits_mul (onGrid_iff.mp (onGrid_ofNat h)).2 Nat.one_pos
  rw [Nat.mul_one] at hunits
  rw [ofNat, ofRatio, hunits, pack_of_onGrid]

theorem zero_eq : (0 : Binary64) = finite false (0 * unitsOfOne) (onGrid_ofNat (by decide)) := by
  have hpos : 0 < 2 ^ 53 := by decide
  exact ofNat_of_lt hpos

theorem lt_zero {h : OnGrid u} : (finite false u h).lt 0 = false := by
  rw [zero_eq, lt_finite, Nat.zero_mul]
  exact decide_eq_false (Nat.not_lt_zero u)

theorem infinity_lt_zero : (infinity false).lt 0 = false := by
  rw [zero_eq]
  exact infinity_lt _

end Binary64

namespace Duration

open Binary64

variable {x : Binary64} {cap d : Duration} {u w : Nat}

theorem toBinary64_of_lt (h : d.nanos < 2 ^ 53) :
    d.toBinary64 = .finite false (d.nanos * unitsOfOne) (onGrid_ofNat h) := ofNat_of_lt h

/-- What is read is no longer than the cap, which has less than 64 bits. -/
theorem nanos_read {r : Nat} (hcap : cap.nanos < 2 ^ 53) (hle : r ≤ cap.nanos) :
    ((ofNanos (min r (2 ^ 64 - 1))).shorter cap).nanos = r := by
  have hmax := cap.nanos_le
  have hr : (ofNanos (min r (2 ^ 64 - 1))).nanos = r := by
    rw [nanos_ofNanos]
    omega
  have hshort : ofNanos (min r (2 ^ 64 - 1)) ≤ cap := hr.trans_le hle
  rw [shorter_of_le hshort, hr]

/-- What lies within zero and the cap is read as the nearest whole number of nanoseconds. -/
theorem nanos_ofBinary64_of_round {r : Nat} (hcap : cap.nanos < 2 ^ 53) (hnan : x.isNan = false)
    (hzero : x.lt 0 = false) (hlt : (cap.toBinary64).lt x = false) (hread : x.round? = some r)
    (hle : r ≤ cap.nanos) : (ofBinary64 x cap).nanos = r := by
  refine Eq.trans (congrArg nanos ?_) (nanos_read hcap hle)
  simp only [ofBinary64, hnan, hzero, hlt, Bool.false_eq_true, if_false, hread, Option.getD_some]

/-- What lies above the cap is read as the cap. -/
theorem ofBinary64_of_lt (hcap : cap.nanos < 2 ^ 53) (hnan : x.isNan = false)
    (hzero : x.lt 0 = false) (hlt : (cap.toBinary64).lt x = true) : ofBinary64 x cap = cap := by
  have hread : (cap.toBinary64).round? = some cap.nanos := by
    rw [toBinary64_of_lt hcap, round?_finite, half_up _ unitsOfOne_pos]
  apply ext_nanos
  refine Eq.trans (congrArg nanos ?_) (nanos_read hcap (Nat.le_refl _))
  simp only [ofBinary64, hnan, hzero, hlt, Bool.false_eq_true, if_false, if_true, hread,
    Option.getD_some]

theorem nanos_ofBinary64 {h : OnGrid u} (hcap : cap.nanos < 2 ^ 53)
    (hle : u ≤ cap.nanos * unitsOfOne) :
    (ofBinary64 (.finite false u h) cap).nanos = (u + unitsOfOne / 2) / unitsOfOne := by
  have hlt : (cap.toBinary64).lt (finite false u h) = false := by
    rw [toBinary64_of_lt hcap, lt_finite]
    exact decide_eq_false (Nat.not_lt.mpr hle)
  exact nanos_ofBinary64_of_round hcap rfl lt_zero hlt round?_finite (half_up_le hle unitsOfOne_pos)

/-- A whole number of nanoseconds within the cap is read as it is. -/
theorem nanos_ofBinary64_whole {h : OnGrid (w * unitsOfOne)} (hcap : cap.nanos < 2 ^ 53)
    (hle : w ≤ cap.nanos) : (ofBinary64 (.finite false (w * unitsOfOne) h) cap).nanos = w := by
  rw [nanos_ofBinary64 hcap (Nat.mul_le_mul_right _ hle), half_up w unitsOfOne_pos]

/-- What is at most half a nanosecond below the cap is read as the cap. -/
theorem ofBinary64_of_atLeast (hcap : cap.nanos < 2 ^ 53)
    (h : AtLeast x ((2 * cap.nanos - 1) * (unitsOfOne / 2))) : ofBinary64 x cap = cap := by
  obtain rfl | ⟨u, onGrid, rfl, hu⟩ := h
  · apply ofBinary64_of_lt hcap rfl infinity_lt_zero
    rw [toBinary64_of_lt hcap]
    exact lt_infinity _
  · rcases Nat.lt_or_ge (cap.nanos * unitsOfOne) u with hlt | hge
    · apply ofBinary64_of_lt hcap rfl lt_zero
      rw [toBinary64_of_lt hcap, lt_finite]
      exact decide_eq_true hlt
    · apply ext_nanos
      rw [nanos_ofBinary64 hcap hge]
      exact Nat.le_antisymm (half_up_le hge unitsOfOne_pos)
        (le_half_up two_mul_half unitsOfOne_pos hu)

end Duration

end Reattempt
