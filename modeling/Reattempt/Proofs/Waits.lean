import Mathlib.Logic.Function.Iterate
import Reattempt.Policy.Backoff

/-!
The waits of a policy that spreads none of them: each is its base, and no base is longer than the
longest wait.
-/
namespace Reattempt

theorem ConfigError.firstOf_eq_ok {checks : List (Bool × ConfigError)} :
    firstOf checks = .ok () ↔ ∀ check ∈ checks, check.1 = false := by
  unfold firstOf
  cases h : checks.find? (·.1) with
  | some found =>
    have hfound : found.1 = true := List.find?_some h
    refine ⟨fun hok => (nomatch hok), fun hall => ?_⟩
    rw [hall found (List.mem_of_find?_eq_some h)] at hfound
    cases hfound
  | none =>
    have hnone := List.find?_eq_none.mp h
    exact ⟨fun _ check hm => Bool.eq_false_iff.mpr (hnone check hm), fun _ => rfl⟩

theorem ConfigError.pos_of_checked {checks : List (Bool × ConfigError)} {n : UInt32}
    {x : ConfigError} (valid : firstOf checks = .ok ()) (hmem : (n == 0, x) ∈ checks) :
    0 < n.toNat := by
  have hne : (n == 0) = false := firstOf_eq_ok.mp valid _ hmem
  apply Nat.pos_of_ne_zero
  intro h0
  rw [UInt32.toNat_inj.mp (h0.trans UInt32.toNat_zero.symm)] at hne
  cases hne

namespace Duration

theorem shorter_of_le {a b : Duration} (h : a ≤ b) : a.shorter b = a := if_pos h

theorem shorter_le_right (a b : Duration) : a.shorter b ≤ b := by
  unfold shorter
  split
  · assumption
  · exact Nat.le_refl b.nanos

theorem ofBinary64_le (x : Binary64) (cap : Duration) : ofBinary64 x cap ≤ cap :=
  shorter_le_right _ cap

end Duration

namespace Policy

variable {p : Policy}

theorem initialDelay_le_maxDelay (h : p.validate = .ok ()) : p.initialDelay ≤ p.maxDelay := by
  have hc : decide (p.maxDelay < p.initialDelay) = false := by
    have hm : (decide (p.maxDelay < p.initialDelay),
        (⟨"max_delay", .atLeastInitialDelay p.initialDelay⟩ : ConfigError)) ∈ p.checks := by
      simp only [checks, List.mem_append, List.mem_cons, true_or, or_true]
    exact ConfigError.firstOf_eq_ok.mp h _ hm
  have hlt : ¬ p.maxDelay.nanos < p.initialDelay.nanos := of_decide_eq_false hc
  exact Nat.le_of_not_lt hlt

theorem maxAttempts_pos (h : p.validate = .ok ()) : 0 < p.maxAttempts.toNat := by
  apply ConfigError.pos_of_checked h
  exact List.mem_append_left _ List.mem_cons_self

/-- The base of the wait after an attempt, counted from one. -/
def base (p : Policy) (n : Nat) : Duration := p.nextBackoff^[n - 1] p.initialDelay

theorem base_succ (p : Policy) {n : Nat} (hn : 1 ≤ n) :
    p.base (n + 1) = p.nextBackoff (p.base n) := by
  obtain ⟨k, rfl⟩ : ∃ k, n = k + 1 := ⟨n - 1, by omega⟩
  exact Function.iterate_succ_apply' p.nextBackoff k p.initialDelay

theorem nextBackoff_le_maxDelay (h : p.validate = .ok ()) (d : Duration) :
    p.nextBackoff d ≤ p.maxDelay := by
  unfold nextBackoff
  split
  · exact Duration.ofBinary64_le _ p.maxDelay
  · exact initialDelay_le_maxDelay h

theorem base_le_maxDelay (h : p.validate = .ok ()) (n : Nat) : p.base n ≤ p.maxDelay := by
  -- Every base but the first comes out of a step that is held below the longest wait.
  unfold base
  cases n - 1 with
  | zero => exact initialDelay_le_maxDelay h
  | succ k =>
    rw [Function.iterate_succ_apply']
    exact nextBackoff_le_maxDelay h _

/-- Without jitter chance has no part in a wait. -/
theorem applyJitter_of_le (hj : p.jitterFactor.le 0 = true) (draw : Draw) {d : Duration}
    (hd : d ≤ p.maxDelay) : p.applyJitter draw d = d := by
  simp only [applyJitter, hj, Bool.true_or, ↓reduceIte]
  exact Duration.shorter_of_le hd

end Policy

end Reattempt
