import Reattempt.Proofs.ClosedForm

/-!
How bases grow. The base that follows is the product with the multiplier, rounded to whole
nanoseconds, or the ceiling if that is less. The product is never rounded to below the base it is
made of, and it is above the base unless less than half a nanosecond was to be added. The ceiling
is the longest wait if that has at most 64 bits and is not rounded down when it is read. Main
statement: `nextBackoff_progress`.
-/
namespace Reattempt

namespace Binary64

variable {a b c e k m n u v : Nat}

/-- The number nearest to another that 53 binary digits can hold. -/
def rounded (n : Nat) : Nat := nearestUnits n 1

theorem divNearestEven_mul_mul (hc : 0 < c) :
    divNearestEven (a * c) (b * c) = divNearestEven a b := by
  simp only [divNearestEven, Nat.mul_div_mul_right a b hc, Nat.mul_mod_mul_right, ← Nat.mul_assoc,
    Nat.mul_lt_mul_right hc]

/-- Only the ratio is rounded. -/
theorem nearestUnits_mul_mul (hc : 0 < c) : nearestUnits (a * c) (b * c) = nearestUnits a b := by
  simp only [nearestUnits, Nat.mul_div_mul_right a b hc]
  rw [Nat.mul_right_comm b c, divNearestEven_mul_mul hc]

theorem divNearestEven_le_succ (a b : Nat) : divNearestEven a b ≤ a / b + 1 := by
  simp only [divNearestEven]
  split
  · exact Nat.le_succ _
  · split <;> omega

/-- What is rounded moves by half the divisor at most. -/
theorem divNearestEven_near (hb : 0 < b) : 2 * a ≤ 2 * (divNearestEven a b * b) + b ∧
    2 * (divNearestEven a b * b) ≤ 2 * a + b := by
  have hdiv := Nat.div_add_mod' a b
  have hmod := Nat.mod_lt a hb
  have hsucc : (a / b + 1) * b = a / b * b + b := Nat.succ_mul ..
  simp only [divNearestEven]
  split
  · omega
  · split
    · omega
    · rcases Nat.mod_two_eq_zero_or_one (a / b) with hq | hq <;> rw [hq]
      · rw [Nat.add_zero]
        omega
      · omega

/-- The distance of the numbers around another that 53 binary digits can hold. -/
def step (n : Nat) : Nat := 2 ^ (n.log2 - 52)

theorem step_pos (n : Nat) : 0 < step n := Nat.two_pow_pos _

theorem step_le (hpos : 0 < n) : step n ≤ n :=
  calc step n ≤ 2 ^ n.log2 := Nat.pow_le_pow_right (by decide) (Nat.sub_le _ _)
    _ ≤ n := Nat.log2_self_le (Nat.ne_of_gt hpos)

theorem log2_mono (h : a ≤ b) : a.log2 ≤ b.log2 := by
  rw [Nat.log2_eq_log_two, Nat.log2_eq_log_two]
  exact Nat.log_mono_right h

theorem step_dvd_step (h : a ≤ b) : step a ∣ step b :=
  Nat.pow_dvd_pow 2 (Nat.sub_le_sub_right (log2_mono h) _)

theorem step_mono (h : a ≤ b) : step a ≤ step b := Nat.le_of_dvd (step_pos b) (step_dvd_step h)

theorem rounded_eq (n : Nat) : rounded n = divNearestEven n (step n) * step n := by
  have hstep : Nat.pow 2 (n.log2 - 52) = step n := rfl
  rw [rounded, nearestUnits, Nat.div_one, hstep, Nat.one_mul]

theorem step_dvd_rounded (n : Nat) : step n ∣ rounded n := by
  rw [rounded_eq]
  exact Nat.dvd_mul_left _ _

theorem rounded_near (n : Nat) :
    2 * n ≤ 2 * rounded n + step n ∧ 2 * rounded n ≤ 2 * n + step n := by
  rw [rounded_eq]
  exact divNearestEven_near (step_pos n)

/-- What is rounded down to below a place in the same spacing misses it by half a step at least. -/
theorem two_mul_add_step_le (hdvd : step a ∣ v) (h : rounded a < v) : 2 * a + step a ≤ 2 * v := by
  have hmissing : rounded a + step a ≤ v :=
    Nat.le_of_lt_add_of_dvd (Nat.add_lt_add_right h _)
      (Nat.dvd_add (step_dvd_rounded a) (Nat.dvd_refl _)) hdvd
  have hnear := (rounded_near a).1
  omega

theorem Short.rounded_eq (h : Short u) : rounded u = u := by
  rw [rounded]
  have heq := nearestUnits_mul h Nat.one_pos
  rwa [Nat.mul_one] at heq

theorem Short.le_rounded (h : Short v) (hle : v ≤ u) : v ≤ rounded u := by
  apply h.le_nearestUnits Nat.one_pos
  rwa [Nat.mul_one]

theorem short_of_le (h : u ≤ 2 ^ 53) : Short u := by
  rcases Nat.lt_or_eq_of_le h with hlt | rfl
  · exact short_of_lt hlt
  · exact ⟨1, 53, (Nat.one_mul _).symm, by decide⟩

theorem short_rounded (n : Nat) : Short (rounded n) := by
  rw [rounded_eq]
  apply Short.mul_two_pow
  apply short_of_le
  exact Nat.le_trans (divNearestEven_le_succ _ _) (leading_lt n)

theorem rounded_le_two_mul (n : Nat) : rounded n ≤ 2 * n := by
  rcases Nat.eq_zero_or_pos n with rfl | hpos
  · decide
  · have hnear := (rounded_near n).2
    have hstep := step_le hpos
    omega

/-- Zeros after a number do not matter. -/
theorem rounded_mul_two_pow (n k : Nat) : rounded (n * 2 ^ k) = rounded n * 2 ^ k := by
  rcases Nat.lt_or_ge n (2 ^ 53) with hlt | hge
  · rw [((short_of_lt hlt).mul_two_pow k).rounded_eq, (short_of_lt hlt).rounded_eq]
  · have hne : n ≠ 0 := Nat.ne_of_gt (Nat.lt_of_lt_of_le (Nat.two_pow_pos 53) hge)
    have hlog : (n * 2 ^ k).log2 = n.log2 + k := by
      apply (Nat.log2_eq_iff (Nat.mul_ne_zero hne (Nat.ne_of_gt (Nat.two_pow_pos k)))).mpr
      rw [Nat.pow_add, Nat.add_right_comm, Nat.pow_add]
      exact ⟨Nat.mul_le_mul_right _ (Nat.log2_self_le hne),
        Nat.mul_lt_mul_of_pos_right Nat.lt_log2_self (Nat.two_pow_pos k)⟩
    have hlarge : 53 ≤ n.log2 := (Nat.le_log2 hne).mpr hge
    have hstep : step (n * 2 ^ k) = step n * 2 ^ k := by
      rw [step, hlog, step, ← Nat.pow_add, Nat.sub_add_comm (by omega)]
    rw [rounded_eq, hstep, divNearestEven_mul_mul (Nat.two_pow_pos k), ← Nat.mul_assoc,
      ← rounded_eq]

theorem rounded_mul_unitsOfOne (n : Nat) : rounded (n * unitsOfOne) = rounded n * unitsOfOne := by
  obtain ⟨k, hk⟩ := exists_two_pow
  rw [hk, rounded_mul_two_pow]

theorem Short.mul_unitsOfOne (h : Short u) : Short (u * unitsOfOne) := by
  obtain ⟨k, hk⟩ := exists_two_pow
  rw [hk]
  exact h.mul_two_pow k

theorem onGrid_rounded (h : n < 2 ^ 94) : OnGrid (rounded n * unitsOfOne) := by
  have hlt : rounded n < 2 ^ 95 := Nat.lt_of_le_of_lt (rounded_le_two_mul n) (by omega)
  exact onGrid_iff.mpr ⟨mul_unitsOfOne_lt hlt, (short_rounded n).mul_unitsOfOne⟩

theorem ofNat_eq_rounded (h : n < 2 ^ 94) :
    ofNat n = finite false (rounded n * unitsOfOne) (onGrid_rounded h) := by
  rw [ofNat, ofRatio, ← rounded, rounded_mul_unitsOfOne, pack_of_onGrid]

/-- A product with a whole number. -/
theorem mul_whole {h : OnGrid (a * unitsOfOne)} {h' : OnGrid m} :
    (finite false (a * unitsOfOne) h).mul (finite false m h') = pack false (rounded (a * m)) := by
  have hunits : nearestUnits (a * unitsOfOne * m) unitsOfOne = rounded (a * m) :=
    calc nearestUnits (a * unitsOfOne * m) unitsOfOne
        = nearestUnits (a * m * unitsOfOne) (1 * unitsOfOne) := by
          rw [Nat.mul_right_comm, Nat.one_mul]
      _ = rounded (a * m) := nearestUnits_mul_mul unitsOfOne_pos
  simp only [mul, bne_self_eq_false, hunits]

/-! ### Growth -/

/-- So many nanoseconds, times a number of units, in whole nanoseconds. -/
def grown (m n : Nat) : Nat := (rounded (rounded n * m) + unitsOfOne / 2) / unitsOfOne

/-- The units between the number one and the next one. -/
def gapOfOne : Nat := 2 ^ 1022

theorem exists_two_pow_gap : ∃ n, gapOfOne = 2 ^ n ∧ unitsOfOne = 2 ^ (52 + n) := by
  obtain ⟨k, hk, hone⟩ := exists_exponent
  obtain ⟨n, hn, hgap⟩ : ∃ n, n = 1022 ∧ gapOfOne = 2 ^ n := ⟨1022, rfl, by rw [gapOfOne]⟩
  obtain rfl : k = 52 + n := by omega
  exact ⟨n, hgap, hone⟩

theorem gapOfOne_pos : 0 < gapOfOne := by
  obtain ⟨n, hgap, -⟩ := exists_two_pow_gap
  rw [hgap]
  exact Nat.two_pow_pos n

theorem unitsOfOne_eq_gap : unitsOfOne = 2 ^ 52 * gapOfOne := by
  obtain ⟨n, hgap, hone⟩ := exists_two_pow_gap
  rw [hgap, hone, Nat.pow_add]

theorem step_unitsOfOne : step unitsOfOne = gapOfOne := by
  obtain ⟨n, hgap, hone⟩ := exists_two_pow_gap
  rw [step, hgap, hone, Nat.log2_two_pow, Nat.add_sub_cancel_left]

theorem add_gap_le (h : OnGrid m) (hlt : unitsOfOne < m) : unitsOfOne + gapOfOne ≤ m := by
  have hone : gapOfOne ∣ unitsOfOne := by
    rw [unitsOfOne_eq_gap]
    exact Nat.dvd_mul_left _ _
  have hm : gapOfOne ∣ m := by
    rw [← step_unitsOfOne]
    exact Nat.dvd_trans (step_dvd_step (Nat.le_of_lt hlt)) (onGrid_iff.mp h).2.dvd
  exact Nat.le_of_lt_add_of_dvd (Nat.add_lt_add_right hlt _) (Nat.dvd_add hone (Nat.dvd_refl _)) hm

theorem lt_half_up_iff : n < (e + unitsOfOne / 2) / unitsOfOne ↔
    n * unitsOfOne + unitsOfOne / 2 ≤ e := by
  have htwo := two_mul_half
  rw [Nat.lt_iff_add_one_le, Nat.le_div_iff_mul_le unitsOfOne_pos, Nat.succ_mul]
  omega

/-- The next number after `n` that can be held, a step from its leading digits. -/
theorem short_cut_add_step (n : Nat) : Short (cut n + step n) := by
  have hnext : cut n + step n = (n / step n + 1) * step n := (Nat.succ_mul _ _).symm
  rw [hnext]
  exact (short_of_le (leading_lt n)).mul_two_pow _

theorem cut_add_step_mul_le (h : 2 ^ 52 ≤ n) :
    (cut n + step n) * unitsOfOne ≤ cut n * (unitsOfOne + gapOfOne) := by
  have hpos : 0 < n := Nat.lt_of_lt_of_le (Nat.two_pow_pos 52) h
  have hlog : 52 ≤ n.log2 := (Nat.le_log2 (Nat.ne_of_gt hpos)).mpr h
  rw [Nat.add_mul, Nat.mul_add]
  apply Nat.add_le_add_left
  calc step n * unitsOfOne = step n * 2 ^ 52 * gapOfOne := by rw [unitsOfOne_eq_gap, Nat.mul_assoc]
    _ = 2 ^ n.log2 * gapOfOne := by rw [step, ← Nat.pow_add, Nat.sub_add_cancel hlog]
    _ ≤ cut n * gapOfOne := Nat.mul_le_mul_right _ (two_pow_log2_le_cut hpos)

/-- From `2 ^ 52` nanoseconds on every base grows. -/
theorem lt_grown_of_large (hm : unitsOfOne + gapOfOne ≤ m) (h : 2 ^ 52 ≤ n) : n < grown m n := by
  have hnext : n + 1 ≤ cut n + step n := Nat.lt_div_mul_add (step_pos n)
  have hprod : (cut n + step n) * unitsOfOne ≤ rounded n * m :=
    Nat.le_trans (cut_add_step_mul_le h)
      (Nat.mul_le_mul ((short_cut n).le_rounded (cut_le n)) hm)
  apply lt_half_up_iff.mpr
  calc n * unitsOfOne + unitsOfOne / 2 ≤ n * unitsOfOne + unitsOfOne :=
        Nat.add_le_add_left (Nat.div_le_self _ _) _
    _ = (n + 1) * unitsOfOne := (Nat.succ_mul _ _).symm
    _ ≤ (cut n + step n) * unitsOfOne := Nat.mul_le_mul_right _ hnext
    _ ≤ rounded (rounded n * m) := (short_cut_add_step n).mul_unitsOfOne.le_rounded hprod

theorem lt_grown_iff (h : n < 2 ^ 53) :
    n < grown m n ↔ n * unitsOfOne + unitsOfOne / 2 ≤ rounded (n * m) := by
  rw [grown, (short_of_lt h).rounded_eq, lt_half_up_iff]

/-- A whole number and a half. -/
theorem mul_add_half (n : Nat) :
    n * unitsOfOne + unitsOfOne / 2 = (2 * n + 1) * (unitsOfOne / 2) := by
  have htwo := two_mul_half
  calc n * unitsOfOne + unitsOfOne / 2 = n * (2 * (unitsOfOne / 2)) + unitsOfOne / 2 := by rw [htwo]
    _ = (2 * n + 1) * (unitsOfOne / 2) := by ring

theorem short_mul_add_half (h : n < 2 ^ 52) : Short (n * unitsOfOne + unitsOfOne / 2) := by
  obtain ⟨k, hk⟩ := exists_two_pow_half
  rw [mul_add_half, hk]
  exact (short_of_lt (by omega)).mul_two_pow k

theorem step_dvd_mul_add_half (h : k < 2 ^ 52) (hbelow : a < k * unitsOfOne + unitsOfOne / 2) :
    step a ∣ k * unitsOfOne + unitsOfOne / 2 := by
  obtain ⟨j, hj⟩ := exists_two_pow_half
  rw [mul_add_half, hj] at hbelow ⊢
  apply Nat.dvd_mul_left_of_dvd
  have hlt : a < 2 ^ (53 + j) := by
    rw [Nat.pow_add]
    exact Nat.lt_trans hbelow (Nat.mul_lt_mul_of_pos_right (by omega) (Nat.two_pow_pos j))
  apply Nat.pow_dvd_pow
  rcases Nat.eq_zero_or_pos a with rfl | hpos
  · rw [Nat.log2_zero]
    omega
  · have hlog := (Nat.log2_lt (Nat.ne_of_gt hpos)).mpr hlt
    omega

/-- A product is not rounded to below the base it is made of. -/
theorem le_grown (hm : unitsOfOne + gapOfOne ≤ m) : n ≤ grown m n := by
  rcases Nat.lt_or_ge n (2 ^ 52) with hlt | hge
  · have hshort : Short n := short_of_lt (Nat.lt_trans hlt (by decide))
    have hle : n * unitsOfOne ≤ rounded (n * m) :=
      hshort.mul_unitsOfOne.le_rounded (Nat.mul_le_mul_left n (Nat.le_of_add_right_le hm))
    rw [grown, hshort.rounded_eq, Nat.le_div_iff_mul_le unitsOfOne_pos]
    exact Nat.le_add_right_of_le hle
  · exact Nat.le_of_lt (lt_grown_of_large hm hge)

/-- A product is the base and what is added to it. -/
theorem mul_eq_add (hm : unitsOfOne + gapOfOne ≤ m) (n : Nat) :
    n * m = n * unitsOfOne + n * (m - unitsOfOne) := by
  rw [← Nat.mul_add, Nat.add_sub_cancel' (Nat.le_of_add_right_le hm)]

/-- A base grows if at least half a nanosecond is to be added. -/
theorem lt_grown_of_half (hm : unitsOfOne + gapOfOne ≤ m)
    (h : unitsOfOne ≤ 2 * n * (m - unitsOfOne)) : n < grown m n := by
  rcases Nat.lt_or_ge n (2 ^ 52) with hlt | hge
  · rw [lt_grown_iff (Nat.lt_trans hlt (by decide)), mul_eq_add hm]
    apply (short_mul_add_half hlt).le_rounded
    apply Nat.add_le_add_left
    have htwo := two_mul_half
    rw [Nat.mul_assoc] at h
    omega
  · exact lt_grown_of_large hm hge

/-- If a base grows then so does each one that is longer. -/
theorem lt_grown_mono (hm : unitsOfOne + gapOfOne ≤ m) (h : n < grown m n) (hle : n ≤ k) :
    k < grown m k := by
  rcases Nat.lt_or_ge k (2 ^ 52) with hlt | hge
  · rcases Nat.lt_or_eq_of_le hle with hnk | rfl
    · by_contra hstill
      have hlarge : k < 2 ^ 53 := Nat.lt_trans hlt (by decide)
      rw [lt_grown_iff (Nat.lt_trans hnk hlarge)] at h
      rw [lt_grown_iff hlarge] at hstill
      have hbelow : k * m < k * unitsOfOne + unitsOfOne / 2 :=
        Nat.lt_of_not_le fun hge => hstill ((short_mul_add_half hlt).le_rounded hge)
      -- The longer base misses half a step at least. The shorter one misses more than that, for
      -- less is added to it, and its steps are not larger.
      have hk := two_mul_add_step_le (step_dvd_mul_add_half hlt hbelow) (Nat.lt_of_not_le hstill)
      have hn := (rounded_near (n * m)).2
      have hstep : step (n * m) ≤ step (k * m) :=
        step_mono (Nat.mul_le_mul_right m (Nat.le_of_lt hnk))
      have hadded : n * (m - unitsOfOne) < k * (m - unitsOfOne) := by
        apply Nat.mul_lt_mul_of_pos_right hnk
        exact Nat.sub_pos_of_lt (Nat.lt_of_lt_of_le (Nat.lt_add_of_pos_right gapOfOne_pos) hm)
      have htwo := two_mul_half
      have hkm := mul_eq_add hm k
      have hnm := mul_eq_add hm n
      omega
    · exact h
  · exact lt_grown_of_large hm hge

end Binary64

open Binary64

namespace Duration

variable {cap d : Duration} {x : Binary64} {e m : Nat}

theorem nanos_lt (d : Duration) : d.nanos < 2 ^ 94 :=
  Nat.lt_of_le_of_lt d.nanos_le (by decide)

theorem toBinary64_eq (d : Duration) :
    d.toBinary64 = .finite false (rounded d.nanos * unitsOfOne) (onGrid_rounded d.nanos_lt) :=
  ofNat_eq_rounded d.nanos_lt

theorem nanos_shorter (a b : Duration) : (a.shorter b).nanos = min a.nanos b.nanos := by
  unfold shorter
  split
  case isTrue h => exact (Nat.min_eq_left h).symm
  case isFalse h => exact (Nat.min_eq_right (Nat.le_of_not_le h)).symm

/-- The longest span that is read under a cap: the cap, if that has at most 64 bits and is not
rounded down when it is read. -/
def ceiling (cap : Duration) : Nat := min (rounded cap.nanos) (min (2 ^ 64 - 1) cap.nanos)

/-- What is read of a value that rounds to so many nanoseconds, or of a larger one. -/
theorem nanos_read_min (r : Nat) :
    ((ofNanos (min r (2 ^ 64 - 1))).shorter cap).nanos = min r (min (2 ^ 64 - 1) cap.nanos) := by
  have hmax : 2 ^ 64 - 1 ≤ maxNanos := by decide
  rw [nanos_shorter, nanos_ofNanos]
  omega

theorem nanos_ofBinary64_of_above {r : Nat} (hnan : x.isNan = false) (hzero : x.lt 0 = false)
    (hlt : cap.toBinary64.lt x = true) (hle : rounded cap.nanos ≤ r) :
    (ofBinary64 x cap).nanos = min r cap.ceiling := by
  have hread : cap.toBinary64.round? = some (rounded cap.nanos) := by
    rw [toBinary64_eq, round?_finite, half_up _ unitsOfOne_pos]
  simp only [ofBinary64, hnan, hzero, hlt, Bool.false_eq_true, if_false, if_true, hread,
    Option.getD_some]
  rw [nanos_read_min]
  exact (Nat.min_eq_right (Nat.le_trans (Nat.min_le_left _ _) hle)).symm

theorem nanos_ofBinary64_of_within {r : Nat} (hnan : x.isNan = false) (hzero : x.lt 0 = false)
    (hlt : cap.toBinary64.lt x = false) (hread : x.round? = some r) (hle : r ≤ rounded cap.nanos) :
    (ofBinary64 x cap).nanos = min r cap.ceiling := by
  simp only [ofBinary64, hnan, hzero, hlt, Bool.false_eq_true, if_false, hread, Option.getD_some]
  rw [nanos_read_min, ceiling, ← Nat.min_assoc _ (rounded cap.nanos), Nat.min_eq_left hle]

theorem nanos_ofBinary64_pack (hshort : Short e) : (ofBinary64 (pack false e) cap).nanos =
    min ((e + unitsOfOne / 2) / unitsOfOne) cap.ceiling := by
  have above (h : rounded cap.nanos * unitsOfOne ≤ e) :
      rounded cap.nanos ≤ (e + unitsOfOne / 2) / unitsOfOne := by
    rw [Nat.le_div_iff_mul_le unitsOfOne_pos]
    exact Nat.le_add_right_of_le h
  unfold pack
  split
  case isTrue onGrid =>
    rcases Nat.lt_or_ge (rounded cap.nanos * unitsOfOne) e with hlt | hge
    · apply nanos_ofBinary64_of_above rfl lt_zero _ (above (Nat.le_of_lt hlt))
      rw [toBinary64_eq, lt_finite]
      exact decide_eq_true hlt
    · apply nanos_ofBinary64_of_within rfl lt_zero _ round?_finite (half_up_le hge unitsOfOne_pos)
      rw [toBinary64_eq, lt_finite]
      exact decide_eq_false (Nat.not_lt.mpr hge)
  case isFalse offGrid =>
    have hbig : 2 ^ 2098 ≤ e := Nat.le_of_not_lt fun hlt => offGrid (onGrid_iff.mpr ⟨hlt, hshort⟩)
    have hlt := (onGrid_rounded cap.nanos_lt).1
    apply nanos_ofBinary64_of_above rfl infinity_lt_zero _
      (above (Nat.le_trans (Nat.le_of_lt hlt) hbig))
    rw [toBinary64_eq]
    exact lt_infinity _

theorem nanos_scale {h : OnGrid m} :
    (d.scale (.finite false m h) cap).nanos = min (grown m d.nanos) cap.ceiling := by
  rw [scale, toBinary64_eq, mul_whole, nanos_ofBinary64_pack (short_rounded _), grown]

theorem ceiling_le (cap : Duration) : cap.ceiling ≤ cap.nanos :=
  Nat.le_trans (Nat.min_le_right ..) (Nat.min_le_right ..)

theorem ceiling_eq_iff :
    cap.ceiling = cap.nanos ↔ cap.nanos < 2 ^ 64 ∧ cap.nanos ≤ rounded cap.nanos := by
  rw [ceiling]
  omega

end Duration

namespace Policy

variable {p : Policy} {d : Duration}

/-- The base that follows is the longest wait or is longer than the one before. -/
def Progresses (p : Policy) (d : Duration) : Prop :=
  p.nextBackoff d = p.maxDelay ∨ d < p.nextBackoff d

instance (p : Policy) (d : Duration) : Decidable (p.Progresses d) :=
  inferInstanceAs (Decidable (_ ∨ _))

section Exponential

variable (valid : p.validate = .ok ()) (growing : p.exponential = true)

include valid

theorem nextBackoff_maxDelay (h : p.Progresses p.maxDelay) :
    p.nextBackoff p.maxDelay = p.maxDelay :=
  h.resolve_right (Nat.not_lt.mpr (nextBackoff_le_maxDelay valid _))

theorem units_ge : unitsOfOne + gapOfOne ≤ p.backoffMultiplier.units := by
  obtain ⟨onGrid, -, hgrows⟩ := multiplier_eq valid
  exact add_gap_le onGrid hgrows

include growing

theorem nanos_nextBackoff : (p.nextBackoff d).nanos =
    min (grown p.backoffMultiplier.units d.nanos) p.maxDelay.ceiling := by
  obtain ⟨onGrid, hx, -⟩ := multiplier_eq valid
  rw [nextBackoff_eq_scale growing, hx]
  exact Duration.nanos_scale

/-- A base reaches the ceiling, or it grows, or less than half a nanosecond was to be added. -/
theorem nextBackoff_cases (d : Duration) :
    (p.nextBackoff d).nanos = p.maxDelay.ceiling ∨ d < p.nextBackoff d ∨ p.nextBackoff d = d ∧
      2 * d.nanos * (p.backoffMultiplier.units - unitsOfOne) < unitsOfOne := by
  have hm := units_ge valid
  have hnext := nanos_nextBackoff valid growing (d := d)
  rcases Nat.le_total p.maxDelay.ceiling (grown p.backoffMultiplier.units d.nanos) with hle | hle
  · rw [Nat.min_eq_right hle] at hnext
    exact .inl hnext
  · rw [Nat.min_eq_left hle] at hnext
    rcases Nat.lt_or_eq_of_le (le_grown (n := d.nanos) hm) with hlt | heq
    · exact .inr (.inl (hnext ▸ hlt : d.nanos < (p.nextBackoff d).nanos))
    · refine .inr (.inr ⟨Duration.ext_nanos (hnext.trans heq.symm), ?_⟩)
      apply Nat.lt_of_not_le
      intro hhalf
      exact Nat.ne_of_lt (lt_grown_of_half hm hhalf) heq

/-- The longest wait is kept if and only if it can be read. -/
theorem progresses_maxDelay_iff :
    p.Progresses p.maxDelay ↔ p.maxDelay.ceiling = p.maxDelay.nanos := by
  have hnext := nanos_nextBackoff valid growing (d := p.maxDelay)
  have hceiling := p.maxDelay.ceiling_le
  have hgrown := le_grown (n := p.maxDelay.nanos) (units_ge valid)
  constructor
  · rintro (heq | hlt)
    · rw [heq] at hnext
      omega
    · have hlt : p.maxDelay.nanos < (p.nextBackoff p.maxDelay).nanos := hlt
      omega
  · intro heq
    apply Or.inl
    apply Duration.ext_nanos
    omega

/-- Short of a longest wait that can be read, progress is growth. -/
theorem progresses_iff_lt_grown (hceiling : p.maxDelay.ceiling = p.maxDelay.nanos)
    (h : d < p.maxDelay) :
    p.Progresses d ↔ d.nanos < grown p.backoffMultiplier.units d.nanos := by
  have hnext := nanos_nextBackoff valid growing (d := d)
  have hbelow : d.nanos < p.maxDelay.nanos := h
  constructor
  · rintro (heq | hlt)
    · rw [heq] at hnext
      omega
    · have hlt : d.nanos < (p.nextBackoff d).nanos := hlt
      omega
  · intro hlt
    rcases Nat.le_total (grown p.backoffMultiplier.units d.nanos) p.maxDelay.nanos with hle | hle
    · right
      have hlonger : d.nanos < (p.nextBackoff d).nanos := by omega
      exact hlonger
    · left
      apply Duration.ext_nanos
      omega

theorem progresses_iff :
    (∀ d, p.initialDelay ≤ d → d ≤ p.maxDelay → p.Progresses d) ↔
      p.Progresses p.initialDelay ∧ p.Progresses p.maxDelay := by
  have hrange := initialDelay_le_maxDelay valid
  constructor
  · intro h
    exact ⟨h _ (Nat.le_refl _) hrange, h _ hrange (Nat.le_refl _)⟩
  · rintro ⟨hinitial, hmax⟩ d hfrom hto
    rcases Nat.lt_or_eq_of_le hto with hlt | heq
    · have hceiling := (progresses_maxDelay_iff valid growing).mp hmax
      have hless : p.initialDelay < p.maxDelay := Nat.lt_of_le_of_lt hfrom hlt
      have hstart := (progresses_iff_lt_grown valid growing hceiling hless).mp hinitial
      exact (progresses_iff_lt_grown valid growing hceiling hlt).mpr
        (lt_grown_mono (units_ge valid) hstart hfrom)
    · rw [Duration.ext_nanos heq]
      exact hmax

/-- Waits of at most `2 ^ 53` nanoseconds, of which the first one has half a nanosecond added. -/
theorem progresses_of_half (hcap : p.maxDelay.nanos ≤ 2 ^ 53)
    (hhalf : unitsOfOne ≤ 2 * p.initialDelay.nanos * (p.backoffMultiplier.units - unitsOfOne)) :
    p.Progresses p.initialDelay ∧ p.Progresses p.maxDelay := by
  have hceiling : p.maxDelay.ceiling = p.maxDelay.nanos :=
    Duration.ceiling_eq_iff.mpr ⟨Nat.lt_of_le_of_lt hcap (by decide),
      Nat.le_of_eq (short_of_le hcap).rounded_eq.symm⟩
  refine ⟨?_, (progresses_maxDelay_iff valid growing).mpr hceiling⟩
  rcases nextBackoff_cases valid growing p.initialDelay with heq | hlt | ⟨-, hless⟩
  · exact .inl (Duration.ext_nanos (heq.trans hceiling))
  · exact .inr hlt
  · exact absurd hhalf (Nat.not_le.mpr hless)

/-! ### The bases -/

section Progress

variable (progress : p.Progresses p.initialDelay ∧ p.Progresses p.maxDelay)

include progress

/-- A base short of the longest wait has at least as many nanoseconds as its place. -/
theorem base_progress {n : Nat} (hn : 1 ≤ n) :
    p.initialDelay ≤ p.base n ∧ (p.base n = p.maxDelay ∨ n ≤ (p.base n).nanos) := by
  induction n, hn using Nat.le_induction with
  | base => exact ⟨Nat.le_refl _, .inr (initialDelay_pos valid)⟩
  | succ n hn ih =>
    obtain ⟨hfrom, hplace⟩ := ih
    have hle := base_le_maxDelay valid n
    rw [p.base_succ hn]
    rcases (progresses_iff valid growing).mpr progress (p.base n) hfrom hle with heq | hlt
    · rw [heq]
      exact ⟨initialDelay_le_maxDelay valid, .inl rfl⟩
    · refine ⟨Nat.le_trans hfrom (Nat.le_of_lt hlt), ?_⟩
      rcases hplace with heq | hplace
      · rw [heq]
        exact .inl (nextBackoff_maxDelay valid progress.2)
      · exact .inr (Nat.lt_of_le_of_lt hplace hlt)

theorem base_grows : ∃ k ≥ 1, (∀ n, 1 ≤ n → n < k → p.base n < p.base (n + 1)) ∧
    ∀ n, k ≤ n → p.base n = p.maxDelay := by
  have hexists : ∃ k, 1 ≤ k ∧ p.base k = p.maxDelay := by
    refine ⟨p.maxDelay.nanos + 1, Nat.le_add_left _ _, ?_⟩
    have hle : (p.base (p.maxDelay.nanos + 1)).nanos ≤ p.maxDelay.nanos := base_le_maxDelay valid _
    apply (base_progress valid growing progress (Nat.le_add_left _ _)).2.resolve_right
    omega
  obtain ⟨hk, hreached⟩ := Nat.find_spec hexists
  refine ⟨Nat.find hexists, hk, fun n hn hlt => ?_, fun n hle => ?_⟩
  · have hne : p.base n ≠ p.maxDelay := fun heq => Nat.find_min hexists hlt ⟨hn, heq⟩
    have hle := base_le_maxDelay valid n
    have hfrom := (base_progress valid growing progress hn).1
    rw [p.base_succ hn]
    rcases (progresses_iff valid growing).mpr progress (p.base n) hfrom hle with heq | hgrows
    · rw [heq]
      exact Nat.lt_of_le_of_ne hle fun h => hne (Duration.ext_nanos h)
    · exact hgrows
  · induction n, hle using Nat.le_induction with
    | base => exact hreached
    | succ n hle ih =>
      rw [p.base_succ (Nat.le_trans hk hle), ih]
      exact nextBackoff_maxDelay valid progress.2

end Progress

end Exponential

/-- A base reaches the ceiling, grows, or stays where it is, and that only where less than half a
nanosecond was to be added. The ceiling is the longest wait if that has at most 64 bits and is not
rounded down. Whether all bases from the initial delay to the longest wait make progress is seen
at these two, and they do if the longest wait has at most `2 ^ 53` nanoseconds and half a nanosecond
is added to the initial delay. Then bases grow up to the longest wait and stay there. -/
theorem nextBackoff_progress (valid : p.validate = .ok ()) (growing : p.exponential = true) :
    (∀ d, (p.nextBackoff d).nanos ≤ p.maxDelay.ceiling ∧
      ((p.nextBackoff d).nanos = p.maxDelay.ceiling ∨ d < p.nextBackoff d ∨ p.nextBackoff d = d ∧
        2 * d.nanos * (p.backoffMultiplier.units - unitsOfOne) < unitsOfOne)) ∧
    (p.maxDelay.ceiling = p.maxDelay.nanos ↔
      p.maxDelay.nanos < 2 ^ 64 ∧ p.maxDelay.nanos ≤ rounded p.maxDelay.nanos) ∧
    ((∀ d, p.initialDelay ≤ d → d ≤ p.maxDelay → p.Progresses d) ↔
      p.Progresses p.initialDelay ∧ p.Progresses p.maxDelay) ∧
    (p.maxDelay.nanos ≤ 2 ^ 53 →
      unitsOfOne ≤ 2 * p.initialDelay.nanos * (p.backoffMultiplier.units - unitsOfOne) →
      p.Progresses p.initialDelay ∧ p.Progresses p.maxDelay) ∧
    (p.Progresses p.initialDelay ∧ p.Progresses p.maxDelay →
      ∃ k ≥ 1, (∀ n, 1 ≤ n → n < k → p.base n < p.base (n + 1)) ∧
        ∀ n, k ≤ n → p.base n = p.maxDelay) := by
  refine ⟨fun d => ⟨?_, nextBackoff_cases valid growing d⟩, Duration.ceiling_eq_iff,
    progresses_iff valid growing, progresses_of_half valid growing, base_grows valid growing⟩
  rw [nanos_nextBackoff valid growing]
  exact Nat.min_le_right _ _

/-- From a second on, doubled up to thirty seconds. -/
theorem nextBackoff_progress_standard : standard.validate = .ok () ∧ standard.exponential = true ∧
    standard.Progresses standard.initialDelay ∧ standard.Progresses standard.maxDelay ∧
    ∃ k ≥ 1, (∀ n, 1 ≤ n → n < k → standard.base n < standard.base (n + 1)) ∧
      ∀ n, k ≤ n → standard.base n = .ofSeconds 30 := by
  have valid : standard.validate = .ok () := ConfigError.firstOf_eq_ok.mpr (by decide +kernel)
  obtain ⟨-, -, -, half, grows⟩ := nextBackoff_progress valid rfl
  have progress := half (by decide) (by decide +kernel)
  exact ⟨valid, rfl, progress.1, progress.2, grows progress⟩

/-- Waits of more than 64 bits of nanoseconds. -/
def lengthy : Policy :=
  { standard with
    initialDelay := .ofNanos (20 * 10 ^ 18)
    maxDelay := .ofNanos Duration.maxNanos
    jitterFactor := 0 }

/-- Two waits, next to each other, of which the longer one cannot be read. -/
def coarse : Policy :=
  { standard with
    initialDelay := .ofNanos (2 ^ 53)
    maxDelay := .ofNanos (2 ^ 53 + 1)
    jitterFactor := 0 }

/-- The first base after `20 * 10 ^ 18` nanoseconds is shorter; neither of the two waits makes
progress; and a quarter of a nanosecond is lost each time it is added. -/
theorem no_progress :
    (lengthy.validate = .ok () ∧ lengthy.exponential = true ∧
      lengthy.nextBackoff lengthy.initialDelay = .ofNanos (2 ^ 64 - 1) ∧
      lengthy.nextBackoff lengthy.initialDelay < lengthy.initialDelay) ∧
    (coarse.validate = .ok () ∧ coarse.exponential = true ∧
      ¬coarse.Progresses coarse.initialDelay ∧ ¬coarse.Progresses coarse.maxDelay) ∧
    (creeping.validate = .ok () ∧ creeping.exponential = true ∧
      ¬creeping.Progresses creeping.initialDelay) ∧
    ¬∀ (p : Policy) (d : Duration), p.validate = .ok () → p.exponential = true →
      p.initialDelay ≤ d → d ≤ p.maxDelay → p.Progresses d := by
  have valid : lengthy.validate = .ok () := ConfigError.firstOf_eq_ok.mpr (by decide +kernel)
  refine ⟨⟨valid, rfl, by decide +kernel, by decide +kernel⟩,
    ⟨ConfigError.firstOf_eq_ok.mpr (by decide +kernel), rfl, by decide +kernel, by decide +kernel⟩,
    ⟨ConfigError.firstOf_eq_ok.mpr (by decide +kernel), rfl, by decide +kernel⟩, fun hall => ?_⟩
  have hprogress := hall lengthy lengthy.initialDelay valid rfl (by decide)
    (by decide)
  exact absurd hprogress (by decide +kernel)

end Policy

end Reattempt
