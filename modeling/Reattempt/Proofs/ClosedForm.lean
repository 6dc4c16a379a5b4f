import Reattempt.Proofs.Powers
import Reattempt.Proofs.Progression

/-!
Two ways to the same wait. A base is the base before it, multiplied, rounded to whole nanoseconds
and held below the longest wait; in closed form it is the first base times a power of the
multiplier, rounded and held once. The two agree as long as the products that both stand for are
whole numbers of nanoseconds, and past the longest wait. Main statement: `calculateDelay_eq_base`.
-/
namespace Reattempt

open Binary64

namespace Duration

variable {d cap : Duration} {x : Binary64} {q u w low : Nat}

/-- A product that is a whole number of nanoseconds within the cap is exact. -/
theorem nanos_scale_whole {h : OnGrid q} (hcap : cap.nanos < 2 ^ 53) (hd : d ≤ cap)
    (hw : w ≤ cap.nanos) (hprod : d.nanos * q = w * unitsOfOne) :
    (d.scale (.finite false q h) cap).nanos = w := by
  have hexact : d.nanos * unitsOfOne * q = w * unitsOfOne * unitsOfOne := by
    rw [Nat.mul_right_comm, hprod]
  rw [scale, toBinary64_of_lt (Nat.lt_of_le_of_lt hd hcap),
    mul_finite (onGrid_ofNat (Nat.lt_of_le_of_lt hw hcap)) hexact]
  exact nanos_ofBinary64_whole hcap hw

/-- A product that is half a nanosecond below the cap or more is the cap. -/
theorem scale_of_atLeast (hpos : 0 < cap.nanos) (hcap : cap.nanos ≤ 2 ^ 51) (hd : d ≤ cap)
    (hx : AtLeast x low) (h : (2 * cap.nanos - 1) * (unitsOfOne / 2) ≤ d.nanos * low) :
    d.scale x cap = cap := by
  have hlt : cap.nanos < 2 ^ 53 := Nat.lt_of_le_of_lt hcap (by decide)
  obtain ⟨n, hhalf⟩ := exists_two_pow_half
  have hshort : Short ((2 * cap.nanos - 1) * (unitsOfOne / 2)) := by
    rw [hhalf]
    exact (short_of_lt (by omega)).mul_two_pow n
  have hdur : AtLeast d.toBinary64 (d.nanos * unitsOfOne) := by
    rw [toBinary64_of_lt (Nat.lt_of_le_of_lt hd hlt)]
    exact atLeast_finite (Nat.le_refl _)
  have hprod : (2 * cap.nanos - 1) * (unitsOfOne / 2) * unitsOfOne ≤
      d.nanos * unitsOfOne * low := by
    rw [Nat.mul_right_comm d.nanos]
    exact Nat.mul_le_mul_right _ h
  have hlow : 0 < (2 * cap.nanos - 1) * (unitsOfOne / 2) := by
    rw [hhalf]
    exact Nat.mul_pos (by omega) (Nat.two_pow_pos n)
  exact ofBinary64_of_atLeast hlt (hdur.mul hx hshort hlow hprod)

/-- A product that is not below the cap is the cap. -/
theorem scale_of_le {h : OnGrid u} (hpos : 0 < cap.nanos) (hcap : cap.nanos ≤ 2 ^ 51) (hd : d ≤ cap)
    (hle : cap.nanos * unitsOfOne ≤ d.nanos * u) : d.scale (.finite false u h) cap = cap := by
  apply scale_of_atLeast hpos hcap hd (atLeast_finite (Nat.le_refl u))
  calc (2 * cap.nanos - 1) * (unitsOfOne / 2) ≤ 2 * cap.nanos * (unitsOfOne / 2) :=
        Nat.mul_le_mul_right _ (Nat.sub_le _ 1)
    _ = cap.nanos * unitsOfOne := by rw [Nat.mul_right_comm, two_mul_half, Nat.mul_comm]
    _ ≤ d.nanos * u := hle

end Duration

namespace Policy

variable {p : Policy} {draw : Draw} {i k n w top : Nat}

theorem initialDelay_pos (valid : p.validate = .ok ()) : 0 < p.initialDelay.nanos := by
  have hzero : p.initialDelay.isZero = false := by
    have hm : (p.initialDelay.isZero, (⟨"initial_delay", .positive⟩ : ConfigError)) ∈ p.checks := by
      simp only [checks, List.mem_append, List.mem_cons, true_or, or_true]
    exact ConfigError.firstOf_eq_ok.mp valid _ hm
  exact Nat.pos_of_ne_zero (ne_of_beq_false hzero)

theorem multiplier_eq (valid : p.validate = .ok ()) : ∃ h,
    p.backoffMultiplier = .finite false p.backoffMultiplier.units h ∧
      unitsOfOne < p.backoffMultiplier.units := by
  have hgrows : (p.backoffMultiplier.isFinite && Binary64.lt 1 p.backoffMultiplier) = true := by
    have hm : (!(p.backoffMultiplier.isFinite && Binary64.lt 1 p.backoffMultiplier),
        (⟨"backoff_multiplier", .growing p.backoffMultiplier⟩ : ConfigError)) ∈ p.checks := by
      simp only [checks, List.mem_append, List.mem_cons, true_or, or_true]
    have := ConfigError.firstOf_eq_ok.mp valid _ hm
    rwa [Bool.not_eq_false'] at this
  obtain ⟨hfinite, hlt⟩ := Bool.and_eq_true_iff.mp hgrows
  have hone : (1 : Binary64).rank = some unitsOfOne := by
    obtain ⟨_, h⟩ := exists_one
    rw [h]
    rfl
  unfold lt at hlt
  rw [hone] at hlt
  cases hx : p.backoffMultiplier with
  | nan => rw [hx] at hfinite; cases hfinite
  | infinity negative => rw [hx] at hfinite; cases hfinite
  | finite negative u h =>
    rw [hx] at hlt
    cases negative with
    | true =>
      have hneg : (unitsOfOne : Int) < -(u : Int) := of_decide_eq_true hlt
      omega
    | false => exact ⟨h, rfl, Int.ofNat_lt.mp (of_decide_eq_true hlt)⟩

/-- The initial delay times the `i`-th power of the multiplier is `w` nanoseconds. -/
def Whole (p : Policy) (i w : Nat) : Prop :=
  p.initialDelay.nanos * p.backoffMultiplier.units ^ i = w * unitsOfOne ^ i

instance (p : Policy) (i w : Nat) : Decidable (p.Whole i w) := inferInstanceAs (Decidable (_ = _))

/-- The initial delay times the `i`-th power of the multiplier is longer than the longest wait. -/
def Beyond (p : Policy) (i : Nat) : Prop :=
  p.maxDelay.nanos * unitsOfOne ^ i < p.initialDelay.nanos * p.backoffMultiplier.units ^ i

instance (p : Policy) (i : Nat) : Decidable (p.Beyond i) := inferInstanceAs (Decidable (_ < _))

/-- Up to place `top` the products are whole and no longer than the longest wait. -/
def WholeUpTo (p : Policy) (top : Nat) : Prop := ∀ i ≤ top, ∃ w ≤ p.maxDelay.nanos, p.Whole i w

theorem whole_zero (p : Policy) : p.Whole 0 p.initialDelay.nanos := by
  rw [Whole, Nat.pow_zero, Nat.pow_zero]

/-- A whole multiplier makes whole products only. -/
theorem exists_whole (h : unitsOfOne ∣ p.backoffMultiplier.units) (i : Nat) : ∃ w, p.Whole i w := by
  obtain ⟨m, hm⟩ := h
  refine ⟨p.initialDelay.nanos * m ^ i, ?_⟩
  rw [Whole, hm, Nat.mul_pow, Nat.mul_comm (unitsOfOne ^ i), Nat.mul_assoc]

theorem Whole.unique {v : Nat} (hv : p.Whole i v) (hw : p.Whole i w) : v = w :=
  Nat.eq_of_mul_eq_mul_right (Nat.pow_pos unitsOfOne_pos) (hv.symm.trans hw)

theorem WholeUpTo.mono (h : p.WholeUpTo k) (hle : i ≤ k) : p.WholeUpTo i :=
  fun j hj => h j (Nat.le_trans hj hle)

theorem WholeUpTo.le (h : p.WholeUpTo k) (hw : p.Whole k w) : w ≤ p.maxDelay.nanos := by
  obtain ⟨v, hle, hv⟩ := h k (Nat.le_refl k)
  exact hv.unique hw ▸ hle

theorem wholeUpTo_zero (valid : p.validate = .ok ()) : p.WholeUpTo 0 := by
  intro i hi
  obtain rfl : i = 0 := Nat.le_zero.mp hi
  exact ⟨_, initialDelay_le_maxDelay valid, p.whole_zero⟩

/-- As long as the products are whole, all of them are within the longest wait or there is a last
one that is. -/
theorem exists_last (valid : p.validate = .ok ())
    (h : ∀ i ≤ k, (∃ w, p.Whole i w) ∨ p.Beyond i) :
    ∃ top ≤ k, p.WholeUpTo top ∧ (top < k → p.Beyond (top + 1)) := by
  -- The last place so far stays the last one, or the next product is within the wait as well.
  induction k with
  | zero => exact ⟨0, Nat.le_refl 0, wholeUpTo_zero valid, fun hlt => absurd hlt (Nat.lt_irrefl 0)⟩
  | succ k ih =>
    obtain ⟨top, hle, hwhole, hbeyond⟩ := ih fun i hi => h i (Nat.le_succ_of_le hi)
    rcases Nat.lt_or_eq_of_le hle with hlt | rfl
    · exact ⟨top, Nat.le_succ_of_le hle, hwhole, fun _ => hbeyond hlt⟩
    · by_cases hnext : p.Beyond (top + 1)
      · exact ⟨top, Nat.le_succ top, hwhole, fun _ => hnext⟩
      · refine ⟨top + 1, Nat.le_refl _, fun i hi => ?_, fun hlt => absurd hlt (Nat.lt_irrefl _)⟩
        rcases Nat.lt_or_eq_of_le hi with hlt | rfl
        · exact hwhole i (Nat.le_of_lt_succ hlt)
        · obtain ⟨w, hw⟩ := (h _ hi).resolve_right hnext
          refine ⟨w, ?_, hw⟩
          apply Nat.le_of_mul_le_mul_right _ (Nat.pow_pos (n := top + 1) unitsOfOne_pos)
          rw [← hw]
          exact Nat.le_of_not_lt hnext

/-- Only few products are whole and within the longest wait, for the multiplier is above one. -/
theorem WholeUpTo.lt (hwhole : p.WholeUpTo k) (valid : p.validate = .ok ())
    (hcap : p.maxDelay.nanos ≤ 2 ^ 51) : k < 53 := by
  obtain ⟨onGrid, -, hgrows⟩ := multiplier_eq valid
  obtain ⟨w, hle, hw⟩ := hwhole k (Nat.le_refl k)
  apply (Nat.pow_lt_pow_iff_right Nat.one_lt_two).mp
  calc 2 ^ k ≤ w := two_pow_le (initialDelay_pos valid) hgrows hw
    _ ≤ 2 ^ 51 := Nat.le_trans hle hcap
    _ < 2 ^ 53 := by decide

/-- The powers of the multiplier that whole products are made of can be held. -/
theorem WholeUpTo.powers {low : Nat} (hwhole : p.WholeUpTo top) (valid : p.validate = .ok ())
    (hcap : p.maxDelay.nanos ≤ 2 ^ 51) (short : Short low) (one_le_low : unitsOfOne ≤ low)
    (low_le : low * unitsOfOne ^ (top + 1) ≤ p.backoffMultiplier.units ^ (top + 1) * unitsOfOne) :
    Powers p.backoffMultiplier.units top low := by
  obtain ⟨onGrid, -, hgrows⟩ := multiplier_eq valid
  have hlt : p.maxDelay.nanos < 2 ^ 53 := Nat.lt_of_le_of_lt hcap (by decide)
  refine ⟨fun k hk => ?_, Nat.le_of_lt hgrows, short, one_le_low, low_le⟩
  obtain ⟨w, hw, hprod⟩ := hwhole k hk
  exact exists_isPower (initialDelay_pos valid)
    (Nat.lt_of_le_of_lt (initialDelay_le_maxDelay valid) hlt)
    (Nat.lt_trans unitsOfOne_pos hgrows) (Nat.lt_of_le_of_lt hw hlt) hprod

theorem nextBackoff_eq_scale (growing : p.exponential = true) (d : Duration) :
    p.nextBackoff d = d.scale p.backoffMultiplier p.maxDelay := by
  rw [nextBackoff, if_pos growing]

/-- The exponent is the attempt's place, up to the largest that a power can be formed for. -/
theorem closedBackoff_eq_scale (growing : p.exponential = true) (k : Nat) :
    p.closedBackoff (k + 1) =
      p.initialDelay.scale (p.backoffMultiplier.pow (min k (2 ^ 31 - 1))) p.maxDelay := by
  rw [closedBackoff, if_pos growing, Nat.add_sub_cancel]

section Exponential

variable (valid : p.validate = .ok ()) (growing : p.exponential = true)
  (hcap : p.maxDelay.nanos ≤ 2 ^ 51)

include valid growing hcap

/-! ### The bases -/

/-- A whole product within the longest wait is the base of its place. -/
theorem nanos_base (hwhole : p.WholeUpTo k) (hw : p.Whole k w) : (p.base (k + 1)).nanos = w := by
  induction k generalizing w with
  | zero =>
    rw [Whole, Nat.pow_zero, Nat.mul_one, Nat.pow_zero, Nat.mul_one] at hw
    exact hw
  | succ k ih =>
    obtain ⟨onGrid, hx, -⟩ := multiplier_eq valid
    obtain ⟨v, -, hv⟩ := hwhole k (Nat.le_succ k)
    have hbase := ih (hwhole.mono (Nat.le_succ k)) hv
    rw [p.base_succ (Nat.le_add_left 1 k), nextBackoff_eq_scale growing, hx]
    apply Duration.nanos_scale_whole (Nat.lt_of_le_of_lt hcap (by decide))
      (base_le_maxDelay valid _) (hwhole.le hw)
    apply Nat.eq_of_mul_eq_mul_right (Nat.pow_pos (n := k) unitsOfOne_pos)
    rw [hbase]
    calc v * p.backoffMultiplier.units * unitsOfOne ^ k
        = v * unitsOfOne ^ k * p.backoffMultiplier.units := Nat.mul_right_comm ..
      _ = p.initialDelay.nanos * p.backoffMultiplier.units ^ (k + 1) := by rw [← hv]; ring
      _ = w * unitsOfOne * unitsOfOne ^ k := by rw [hw]; ring

/-- After the last product within the longest wait each base is the longest wait. -/
theorem base_of_beyond (hwhole : p.WholeUpTo top) (hbeyond : p.Beyond (top + 1)) (hk : top < k) :
    p.base (k + 1) = p.maxDelay := by
  obtain ⟨onGrid, hx, hgrows⟩ := multiplier_eq valid
  have hpos : 0 < p.maxDelay.nanos :=
    Nat.lt_of_lt_of_le (initialDelay_pos valid) (initialDelay_le_maxDelay valid)
  induction k, hk using Nat.le_induction with
  | base =>
    -- The base before is still exact, and its product is the one beyond the longest wait.
    obtain ⟨v, -, hv⟩ := hwhole top (Nat.le_refl top)
    have hbase := nanos_base valid growing hcap hwhole hv
    rw [p.base_succ (Nat.le_add_left 1 top), nextBackoff_eq_scale growing, hx]
    apply Duration.scale_of_le hpos hcap (base_le_maxDelay valid _)
    apply Nat.le_of_mul_le_mul_right _ (Nat.pow_pos (n := top) unitsOfOne_pos)
    rw [hbase]
    calc p.maxDelay.nanos * unitsOfOne * unitsOfOne ^ top
        = p.maxDelay.nanos * unitsOfOne ^ (top + 1) := by ring
      _ ≤ p.initialDelay.nanos * p.backoffMultiplier.units ^ (top + 1) := Nat.le_of_lt hbeyond
      _ = v * unitsOfOne ^ top * p.backoffMultiplier.units := by rw [← hv]; ring
      _ = v * p.backoffMultiplier.units * unitsOfOne ^ top := Nat.mul_right_comm ..
  | succ k hk ih =>
    rw [p.base_succ (Nat.le_add_left 1 k), nextBackoff_eq_scale growing, ih, hx]
    exact Duration.scale_of_le hpos hcap (Nat.le_refl _)
      (Nat.mul_le_mul_left _ (Nat.le_of_lt hgrows))

/-! ### The closed form -/

/-- A whole product within the longest wait is what the closed form gives. -/
theorem nanos_closedBackoff (hwhole : p.WholeUpTo k) (hw : p.Whole k w) :
    (p.closedBackoff (k + 1)).nanos = w := by
  obtain ⟨onGrid, hx, hgrows⟩ := multiplier_eq valid
  have hk := hwhole.lt valid hcap
  have hone : unitsOfOne * unitsOfOne ^ (k + 1) ≤
      p.backoffMultiplier.units ^ (k + 1) * unitsOfOne := by
    rw [Nat.mul_comm]
    exact Nat.mul_le_mul_right _ (Nat.pow_le_pow_left (Nat.le_of_lt hgrows) _)
  have hpow := (hwhole.powers valid hcap short_unitsOfOne (Nat.le_refl _) hone).stage_pow onGrid k
  rw [Powers.Stage, if_pos (Nat.le_refl k), ← hx] at hpow
  obtain ⟨q, hq, hpower, hprod⟩ := hpow
  -- The exponent is far below the largest one.
  rw [closedBackoff_eq_scale growing, Nat.min_eq_left (by omega), hpower]
  apply Duration.nanos_scale_whole (Nat.lt_of_le_of_lt hcap (by decide))
    (initialDelay_le_maxDelay valid) (hwhole.le hw)
  apply Nat.eq_of_mul_eq_mul_right (Nat.pow_pos (n := k) unitsOfOne_pos)
  calc p.initialDelay.nanos * q * unitsOfOne ^ k
      = p.initialDelay.nanos * p.backoffMultiplier.units ^ k * unitsOfOne := by
        rw [Nat.mul_assoc, hprod, Nat.mul_assoc]
    _ = w * unitsOfOne * unitsOfOne ^ k := by rw [hw, Nat.mul_right_comm]

/-- After the last product within the longest wait the closed form gives the longest wait. -/
theorem closedBackoff_of_beyond (hwhole : p.WholeUpTo top) (hbeyond : p.Beyond (top + 1))
    (hk : top < k) : p.closedBackoff (k + 1) = p.maxDelay := by
  obtain ⟨onGrid, hx, hgrows⟩ := multiplier_eq valid
  have htop := hwhole.lt valid hcap
  have hle := initialDelay_le_maxDelay valid
  obtain ⟨low, hshort, hone, hlow, hnear⟩ :=
    exists_low (Nat.le_of_lt hgrows) hcap (Nat.le_of_lt hbeyond)
  -- The power may be rounded, at any of its products, but never below `low`.
  have hpow := (hwhole.powers valid hcap hshort hone hlow).stage_pow onGrid (min k (2 ^ 31 - 1))
  rw [Powers.Stage, if_neg (by omega), ← hx] at hpow
  rw [closedBackoff_eq_scale growing]
  exact Duration.scale_of_atLeast (Nat.lt_of_lt_of_le (initialDelay_pos valid) hle) hcap hle hpow
    hnear

end Exponential

/-! ### Both forms -/

theorem closedBackoff_eq_base (valid : p.validate = .ok ()) (growing : p.exponential = true)
    (hcap : p.maxDelay.nanos ≤ 2 ^ 51) (h : ∀ i ≤ k, (∃ w, p.Whole i w) ∨ p.Beyond i) :
    p.closedBackoff (k + 1) = p.base (k + 1) := by
  obtain ⟨top, hle, hwhole, hbeyond⟩ := exists_last valid h
  rcases Nat.lt_or_eq_of_le hle with hlt | rfl
  · rw [closedBackoff_of_beyond valid growing hcap hwhole (hbeyond hlt) hlt,
      base_of_beyond valid growing hcap hwhole (hbeyond hlt) hlt]
  · obtain ⟨w, -, hw⟩ := hwhole top (Nat.le_refl top)
    apply Duration.ext_nanos
    rw [nanos_closedBackoff valid growing hcap hwhole hw, nanos_base valid growing hcap hwhole hw]

/-- The first product is formed from the same two factors either way. -/
theorem closedBackoff_two (valid : p.validate = .ok ()) (growing : p.exponential = true) :
    p.closedBackoff 2 = p.base 2 := by
  obtain ⟨onGrid, hx, -⟩ := multiplier_eq valid
  have hpow : p.backoffMultiplier.pow 1 = p.backoffMultiplier := by
    rw [hx]
    exact Binary64.pow_one onGrid
  rw [closedBackoff_eq_scale growing, Nat.min_eq_left (by decide), hpow,
    p.base_succ (Nat.le_refl 1), nextBackoff_eq_scale growing]
  rfl

theorem base_of_steady (steady : p.exponential = false) (n : Nat) : p.base n = p.initialDelay := by
  have hnext (d : Duration) : p.nextBackoff d = p.initialDelay := by
    rw [nextBackoff, steady]
    rfl
  unfold base
  cases n - 1 with
  | zero => rfl
  | succ k => rw [Function.iterate_succ_apply', hnext]

theorem calculateDelay_eq_closedBackoff (valid : p.validate = .ok ())
    (hj : p.jitterFactor.le 0 = true) (draw : Draw) (n : Nat) :
    p.calculateDelay draw n = p.closedBackoff n := by
  apply applyJitter_of_le hj
  unfold closedBackoff
  split
  · exact Duration.ofBinary64_le _ _
  · exact initialDelay_le_maxDelay valid

/-- Without jitter a request asks for the base of the attempt before it. -/
theorem delay_eq_base {Room : Type} {e : Engine Room} {custody : Engine.Custody e.scheduler}
    {ok : Engine.State Room → Prop} {room : Room} {s : Engine.State Room}
    {as : List (Engine.Action Room)} (valid : e.policy.validate = .ok ())
    (hj : e.policy.jitterFactor.le 0 = true)
    (run : Engine.Run e custody ok (Engine.initial e room) as s) {r : Request}
    (hr : r ∈ s.requests) : r.delay = e.policy.base (r.attempt - 1) := by
  have hmem : r ∈ s.requests.filter (·.call = r.call) :=
    List.mem_filter.mpr ⟨hr, decide_eq_true rfl⟩
  obtain ⟨k, hk⟩ := List.mem_iff_getElem?.mp hmem
  have recorded : e.Recorded False s r.call := run.recorded valid (fun h => h.elim) r.call
  obtain ⟨hattempt, hdelay⟩ := Prod.ext_iff.mp (recorded.asks hk)
  have hattempt : r.attempt = k + 2 := hattempt
  rw [hattempt]
  exact hdelay.trans (applyJitter_of_le hj _ (base_le_maxDelay valid _))

/-- Without jitter the wait in closed form is the base that steps lead to: always where waits do not
grow, always after the second attempt, and else, with no wait longer than `2 ^ 51` nanoseconds,
after each attempt up to which the initial delay times the power of the multiplier is a whole number
of nanoseconds or is longer than the longest wait. That is every attempt if the multiplier is a
whole number. What an engine asks for is the base in any case. -/
theorem calculateDelay_eq_base (valid : p.validate = .ok ()) (hj : p.jitterFactor.le 0 = true) :
    (p.exponential = false → ∀ draw n, p.calculateDelay draw n = p.base n) ∧
    (∀ draw, p.calculateDelay draw 2 = p.base 2) ∧
    (p.maxDelay.nanos ≤ 2 ^ 51 →
      (∀ draw k, (∀ i ≤ k, (∃ w, p.Whole i w) ∨ p.Beyond i) →
        p.calculateDelay draw (k + 1) = p.base (k + 1)) ∧
      (unitsOfOne ∣ p.backoffMultiplier.units →
        ∀ draw k, p.calculateDelay draw (k + 1) = p.base (k + 1))) ∧
    ∀ {Room : Type} (e : Engine Room) custody ok room as s, e.policy = p →
      Engine.Run e custody ok (Engine.initial e room) as s →
      ∀ r ∈ s.requests, r.delay = p.base (r.attempt - 1) := by
  have steady (hp : p.exponential = false) (draw : Draw) (n : Nat) :
      p.calculateDelay draw n = p.base n := by
    rw [calculateDelay_eq_closedBackoff valid hj, base_of_steady hp, closedBackoff, hp]
    rfl
  have whole (hcap : p.maxDelay.nanos ≤ 2 ^ 51) (draw : Draw) (k : Nat)
      (h : ∀ i ≤ k, (∃ w, p.Whole i w) ∨ p.Beyond i) :
      p.calculateDelay draw (k + 1) = p.base (k + 1) := by
    cases hp : p.exponential with
    | false => exact steady hp draw (k + 1)
    | true =>
      rw [calculateDelay_eq_closedBackoff valid hj]
      exact closedBackoff_eq_base valid hp hcap h
  refine ⟨steady, fun draw => ?_, fun hcap => ⟨whole hcap, fun hmult draw k => ?_⟩, ?_⟩
  · cases hp : p.exponential with
    | false => exact steady hp draw 2
    | true =>
      rw [calculateDelay_eq_closedBackoff valid hj]
      exact closedBackoff_two valid hp
  · exact whole hcap draw k fun i _ => .inl (exists_whole hmult i)
  · rintro Room e custody ok room as s rfl run r hr
    exact delay_eq_base valid hj run hr

/-- Half a second, half as much again after each attempt, and at most ten seconds. -/
def brisk : Policy := { aggressive with jitterFactor := 0 }

/-- The first nine products are whole, and the ninth is beyond the longest wait. -/
theorem calculateDelay_eq_base_brisk :
    brisk.validate = .ok () ∧ brisk.jitterFactor.le 0 = true ∧ brisk.maxDelay.nanos ≤ 2 ^ 51 ∧
    (∀ draw, brisk.calculateDelay draw 8 = brisk.base 8) ∧
    ∀ draw, brisk.calculateDelay draw 9 = brisk.base 9 := by
  have valid : brisk.validate = .ok () := ConfigError.firstOf_eq_ok.mpr (by decide +kernel)
  have hj : brisk.jitterFactor.le 0 = true := by decide +kernel
  have hcap : brisk.maxDelay.nanos ≤ 2 ^ 51 := by decide
  have hwhole : ∀ i ≤ 8, brisk.Whole i (500000000 * 3 ^ i / 2 ^ i) := by decide +kernel
  have hexact (i : Nat) (hi : i ≤ 8) : (∃ w, brisk.Whole i w) ∨ brisk.Beyond i :=
    .inl ⟨_, hwhole i hi⟩
  obtain ⟨-, -, agree, -⟩ := calculateDelay_eq_base valid hj
  exact ⟨valid, hj, hcap,
    fun draw => (agree hcap).1 draw 7 fun i hi => hexact i (Nat.le_succ_of_le hi),
    fun draw => (agree hcap).1 draw 8 hexact⟩

/-- A quarter more after each attempt, from one nanosecond on. -/
def creeping : Policy :=
  { standard with
    initialDelay := .ofNanos 1
    backoffMultiplier := .ofRatio false 5 4
    jitterFactor := 0 }

/-- Each base is rounded down to the base before it, while the closed form grows. -/
theorem calculateDelay_ne_base_creeping :
    creeping.validate = .ok () ∧ creeping.jitterFactor.le 0 = true ∧
    (∀ n, creeping.base n = .ofNanos 1) ∧
    ¬ ∀ draw n, 1 ≤ n → creeping.calculateDelay draw n = creeping.base n := by
  have valid : creeping.validate = .ok () := ConfigError.firstOf_eq_ok.mpr (by decide +kernel)
  have hfixed : creeping.nextBackoff creeping.initialDelay = creeping.initialDelay := by
    decide +kernel
  have hthird : creeping.calculateDelay .middle 3 = .ofNanos 2 := by decide +kernel
  have hbase (n : Nat) : creeping.base n = .ofNanos 1 := Function.iterate_fixed hfixed (n - 1)
  refine ⟨valid, by decide +kernel, hbase, fun hall => ?_⟩
  have hthree := hall .middle 3 (by decide)
  rw [hthird, hbase] at hthree
  exact absurd hthree (by decide)

end Policy

end Reattempt
