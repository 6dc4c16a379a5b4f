import Reattempt.Queue.Basic

/-!
What the operations of a queue do.
-/
namespace Reattempt.Queue

variable {α : Type} {q q' : Queue α} {d : Duration} {a : α} {e : ScheduleError}

theorem refusal?_of_stopped (h : q.stopped = true) : q.refusal? = some .shutDown := by
  rw [refusal?, if_pos h]

/-- A queue accepts while it is not shut down and holds less than it may. -/
theorem refusal?_eq_none_iff : q.refusal? = none ↔
    q.stopped = false ∧ ∀ n, q.capacity = some n → q.waiting.length < n := by
  cases hs : q.stopped with
  | true => simp [refusal?_of_stopped hs]
  | false =>
    cases hc : q.capacity with
    | none => simp [refusal?, hs, hc]
    | some n => simp [refusal?, hs, hc]

/-- A queue that is shut down says so even when it is full. -/
theorem refusal?_eq_some_iff : q.refusal? = some e ↔ q.stopped = true ∧ e = .shutDown ∨
    q.stopped = false ∧ ∃ n, q.capacity = some n ∧ n ≤ q.waiting.length ∧ e = .saturated n := by
  cases hs : q.stopped with
  | true => simp [refusal?_of_stopped hs, eq_comm]
  | false =>
    cases hc : q.capacity with
    | none => simp [refusal?, hs, hc]
    | some n => simp [refusal?, hs, hc, eq_comm]

theorem eq_of_push (h : q.push d a = .ok q') : q.refusal? = none ∧
    q' = { q with waiting := q.waiting ++ [a], delays := q.delays ++ [d] } := by
  unfold push at h
  split at h
  · cases h
  · next hnone =>
    cases h
    exact ⟨hnone, rfl⟩

theorem push_eq_error_iff : q.push d a = .error e ↔ q.refusal? = some e := by
  unfold push
  cases q.refusal? <;> simp

theorem exists_push_iff : (∃ q', q.push d a = .ok q') ↔
    q.stopped = false ∧ ∀ n, q.capacity = some n → q.waiting.length < n := by
  rw [← refusal?_eq_none_iff]
  unfold push
  cases q.refusal? <;> simp

theorem lt_of_refusal? {n : Nat} (h : q.refusal? = none) (hn : q.capacity = some n) :
    q.waiting.length < n := (refusal?_eq_none_iff.mp h).2 n hn

theorem waiting_of_pop (h : q.pop? = some (a, q')) :
    q.waiting = a :: q'.waiting ∧ q' = { q with waiting := q'.waiting } := by
  unfold pop? at h
  split at h
  · cases h
  · next first rest hwaiting =>
    cases h
    exact ⟨hwaiting, rfl⟩

theorem pop?_eq_none_iff : q.pop? = none ↔ q.waiting = [] := by
  unfold pop?
  cases q.waiting <;> simp

end Reattempt.Queue
