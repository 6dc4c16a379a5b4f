import Mathlib.Algebra.GroupWithZero.Nat
import Reattempt.Proofs.Effects
import Reattempt.Proofs.Settlement

/-!
What the counters say about the calls. An effect moves the counters by what happened to its call: each
invocation is an attempt, each retry that is asked for makes up for one invocation, and the invocation
that decides a call is made up for by nothing. Main statement: `metrics_exact`.
-/
namespace Reattempt

namespace Engine

variable {Room : Type} {e : Engine Room} {custody : Custody e.scheduler}
  {s t u : State Room} {id left : Nat} {c : Continuation}

/-- How many outcomes of a sort were handed to the call. -/
def Call.outcomes (c : Call) (sort : Outcome → Bool) : Nat := c.delivered.countP sort

/-- The call was settled with an outcome of a sort. -/
def Call.settledAs (sort : Outcome → Bool) (c : Call) : Bool := c.delivered.any sort

/-! ### Totals over the calls -/

/-- A number of each call, summed up over the calls. -/
def State.total (s : State Room) (f : Call → Nat) : Nat := (s.calls.map f).sum

theorem sum_map_modify {α : Type} (f : α → Nat) (g : α → α) (d : α) (l : List α) {i : Nat}
    (hi : i < l.length) :
    ((l.modify i g).map f).sum + f (l.getD i d) = (l.map f).sum + f (g (l.getD i d)) := by
  induction l generalizing i with
  | nil => cases hi
  | cons x l ih =>
    cases i with
    | zero =>
      simp only [List.modify_zero_cons, List.map_cons, List.sum_cons, List.getD_cons_zero]
      omega
    | succ i =>
      have hl := ih (Nat.lt_of_succ_lt_succ hi)
      simp only [List.modify_succ_cons, List.map_cons, List.sum_cons, List.getD_cons_succ]
      omega

/-- Where one call is written, a total changes by what that call contributes to it. -/
theorem total_of_modify (h : ∃ f, t.calls = s.calls.modify id f) (hid : id < s.calls.length)
    (f : Call → Nat) : t.total f + f (s.call id) = s.total f + f (t.call id) := by
  obtain ⟨g, hg⟩ := h
  rw [State.call_of_modify hg hid, State.total, hg]
  exact sum_map_modify f g .blank s.calls hid

theorem total_of_append {call : Call} (h : t.calls = s.calls ++ [call]) (f : Call → Nat) :
    t.total f = s.total f + f call := by
  simp only [State.total, h, List.map_append, List.sum_append, List.map_cons, List.map_nil,
    List.sum_cons, List.sum_nil, Nat.add_zero]

theorem total_congr (hlen : t.calls.length = s.calls.length) {f : Call → Nat}
    (h : ∀ j, f (t.call j) = f (s.call j)) : t.total f = s.total f := by
  have hmap : t.calls.map f = s.calls.map f := by
    apply List.ext_getElem
    · simpa only [List.length_map] using hlen
    · intro i hi hi'
      rw [List.length_map] at hi hi'
      rw [List.getElem_map, List.getElem_map, ← State.call_eq_getElem hi,
        ← State.call_eq_getElem hi', h i]
  rw [State.total, hmap, State.total]

/-! ### The invariant -/

/-- A call without an invocation has nothing that counts: it does not wait, and it neither ended well
nor failed. -/
def Call.Earned (c : Call) : Prop := c.invocations = 0 →
  c.waiting = none ∧ c.outcomes Except.isOk = 0 ∧ c.outcomes Outcome.isFailure = 0

/-- The counters are the totals over the calls. -/
structure State.Balanced (s : State Room) : Prop where
  attempts : s.metrics.attempts = s.total Call.invocations
  successes : s.metrics.successes = s.total (·.outcomes Except.isOk)
  failures : s.metrics.failures = s.total (·.outcomes Outcome.isFailure)
  retries : s.metrics.attempts = s.metrics.retries + s.total (·.outcomes Outcome.isDecided)
  earned : ∀ id, (s.call id).Earned

theorem balanced_initial (e : Engine Room) (room : Room) : (initial e room).Balanced where
  attempts := rfl
  successes := rfl
  failures := rfl
  retries := rfl
  earned := fun id _ => by
    have hcall : (initial e room).call id = .blank := State.call_of_length_le (Nat.zero_le id)
    rw [hcall]
    exact ⟨rfl, rfl, rfl⟩

/-- An effect on one call moves the counters and the totals alike, if its retries make up for its
invocations. -/
theorem State.Balanced.of_effect {n r : Nat} {outcomes : List Outcome} (h : s.Balanced)
    (hcalls : ∃ f, t.calls = s.calls.modify id f) (hid : id < s.calls.length)
    (effect : Effect id s t n r outcomes) (hb : n = r + outcomes.countP Outcome.isDecided)
    (earned : (t.call id).Earned) : t.Balanced := by
  have total := total_of_modify hcalls hid
  have count (sort : Outcome → Bool) : (t.call id).outcomes sort =
      (s.call id).outcomes sort + outcomes.countP sort := by
    rw [Call.outcomes, effect.delivered, List.countP_append, Call.outcomes]
  have hm := effect.metrics
  refine ⟨?_, ?_, ?_, ?_, fun j => ?_⟩
  · have hi := effect.invocations
    have ht := total Call.invocations
    have hs := h.attempts
    simp only [hm]
    omega
  · have hc := count Except.isOk
    have ht := total (·.outcomes Except.isOk)
    have hs := h.successes
    simp only [hm]
    omega
  · have hc := count Outcome.isFailure
    have ht := total (·.outcomes Outcome.isFailure)
    have hs := h.failures
    simp only [hm]
    omega
  · have hc := count Outcome.isDecided
    have ht := total (·.outcomes Outcome.isDecided)
    have hs := h.retries
    simp only [hm]
    omega
  · by_cases hj : j = id
    · exact hj ▸ earned
    · obtain ⟨_, hf⟩ := hcalls
      rw [State.call_of_modify_ne hf hj]
      exact h.earned j

theorem State.Balanced.of_unmoved (h : s.Balanced) (hm : s.Unmoved t) : t.Balanced := by
  have outcomes (sort : Outcome → Bool) (j : Nat) :
      (t.call j).outcomes sort = (s.call j).outcomes sort :=
    congrArg (List.countP sort) (hm.delivered j)
  refine ⟨?_, ?_, ?_, ?_, fun j => ?_⟩
  · rw [hm.metrics, total_congr hm.length hm.invocations]
    exact h.attempts
  · rw [hm.metrics, total_congr hm.length (outcomes _)]
    exact h.successes
  · rw [hm.metrics, total_congr hm.length (outcomes _)]
    exact h.failures
  · rw [hm.metrics, total_congr hm.length (outcomes _)]
    exact h.retries
  · rw [Call.Earned, hm.invocations, hm.waiting, outcomes, outcomes]
    exact h.earned j

theorem State.Balanced.gated (h : s.Balanced) (name : String) (operation : Operation)
    (options : Options) : (s.gated name operation options).Balanced := by
  have hcalls := State.gated_calls s name operation options
  have total (f : Call → Nat) := total_of_append hcalls f
  have hm := State.gated_metrics s name operation options
  refine ⟨?_, ?_, ?_, ?_, fun j => ?_⟩
  · rw [hm, total]
    exact h.attempts
  · rw [hm, total]
    exact h.successes
  · rw [hm, total]
    exact h.failures
  · rw [hm, total]
    exact h.retries
  · by_cases hj : j = s.calls.length
    · intro _
      rw [hj, State.call_append_last hcalls]
      exact ⟨rfl, rfl, rfl⟩
    · rw [gated_call_ne name operation options hj]
      exact h.earned j

/-- After a course its call has an invocation behind it, or nothing happened but its cancellation. -/
theorem Course.earned (course : Course e id left c s t) (hid : id < s.calls.length)
    (h : (s.call id).Earned) : (t.call id).Earned := by
  intro hn
  rcases course.progress hid with hlt | ⟨-, rfl⟩
  · omega
  · have ht := State.call_of_modify (State.deliver_calls s id
      (.error (.cancelled (c.attempt - 1)))) hid
    rw [ht] at hn ⊢
    obtain ⟨hw, hok, hfailure⟩ := h hn
    refine ⟨hw, ?_, ?_⟩
    · rw [Call.outcomes, List.countP_append]
      exact hok
    · rw [Call.outcomes, List.countP_append]
      exact hfailure

theorem State.Balanced.course (h : s.Balanced) (course : Course e id left c s t)
    (custody : Custody e.scheduler) (hid : id < s.calls.length) (hr : t.clock.Readable) :
    t.Balanced := by
  have frame : custody.Frame id s t := course.frame
  obtain ⟨n, r, outcomes, effect, hb⟩ := course.effect hid hr
  exact h.of_effect frame.calls hid effect hb (course.earned hid (h.earned id))

theorem State.Balanced.started {name : String} {operation : Operation} {options : Options}
    (h : s.Balanced) (custody : Custody e.scheduler)
    (started : Started e name operation options s t) (hr : t.clock.Readable) : t.Balanced := by
  have hg := h.gated name operation options
  have hcalls := State.gated_calls s name operation options
  have hid := State.lt_length_gated s name operation options
  cases started with
  | barred hs => exact hg.of_unmoved (State.unmoved_dropHandle _ _)
  | @rejected remaining hl hr' =>
    have ht := State.call_of_modify (State.deliver_calls (s.gated name operation options)
      s.calls.length (.error (.circuitOpen remaining))) hid
    rw [State.call_append_last hcalls] at ht
    -- A rejected call is settled and leaves every counter alone.
    refine hg.of_effect ⟨_, rfl⟩ hid (effect_deliver hid rfl) rfl fun _ => ?_
    rw [ht]
    exact ⟨rfl, rfl, rfl⟩
  | admitted hl hd course => exact hg.course course custody hid hr
  | thrown hl hd course =>
    exact (hg.course course custody hid hr).of_unmoved (State.unmoved_dropHandle _ _)

theorem State.Balanced.withRoom (h : s.Balanced) (room : Room) : (s.withRoom room).Balanced :=
  ⟨h.attempts, h.successes, h.failures, h.retries, h.earned⟩

/-- Letting go of an attempt leaves the balance as it was. -/
theorem State.Balanced.release (h : s.Balanced) (hid : id < s.calls.length) :
    (s.release id).Balanced := by
  have ht := State.call_of_modify (State.release_calls s id) hid
  refine h.of_effect ⟨_, rfl⟩ hid (effect_release hid) rfl fun hn => ?_
  rw [ht] at hn ⊢
  exact ⟨rfl, (h.earned id hn).2⟩

/-- A call that has an invocation behind it can fail without another one. -/
theorem State.Balanced.failed (h : s.Balanced) (hid : id < s.calls.length)
    (hr : s.clock.Readable) (hn : (s.call id).invocations ≠ 0) (n : Nat)
    (cause : ScheduleError) : (s.failed id (.scheduling n cause)).Balanced := by
  have effect := effect_failed (x := .scheduling n cause) hid hr rfl
  refine h.of_effect (State.failed_calls s id _) hid effect rfl fun h0 => ?_
  rw [effect.invocations] at h0
  exact absurd h0 hn

/-- Every action on a clock that can be read afterwards keeps the balance. -/
theorem State.Balanced.acted {a : Action Room} (h : s.Balanced) (custody : Custody e.scheduler)
    (acted : Acted e s a t) (hr : t.clock.Readable) : t.Balanced := by
  cases acted with
  | started started => exact h.started custody started hr
  | @resumed r room c t hw course =>
    have hid := State.known_of_waiting hw
    have hlen := State.length_of_modify (State.release_calls (s.withRoom room) r.call)
    exact ((h.withRoom room).release hid).course course custody (hlen ▸ hid) hr
  | @dropped r room c hw =>
    have hid := State.known_of_waiting hw
    have hlen := State.length_of_modify (State.release_calls (s.withRoom room) r.call)
    have hcall := State.call_of_modify (State.release_calls (s.withRoom room) r.call) hid
    rw [State.failed_clock] at hr
    refine ((h.withRoom room).release hid).failed (hlen ▸ hid) hr ?_ _ _
    -- A call that waits has an invocation behind it.
    rw [hcall]
    intro hn
    have hnone := (h.earned r.call hn).1
    rw [hw] at hnone
    cases hnone
  | spent ha hw => exact h.withRoom _
  | turned => exact h.withRoom _
  | still ha => exact h.of_unmoved (act_still e s ha)

theorem Run.balanced {room : Room} {as : List (Action Room)}
    (run : Run e custody (fun u => u.clock.Readable) (initial e room) as s) : s.Balanced :=
  run.invariant State.Balanced (balanced_initial e room) fun u a h _ _ hr =>
    h.acted custody (act_acted e u a) hr

/-! ### The counters -/

/-- Where calls are handed one outcome at most, outcomes of a sort are counted by calls. -/
theorem total_outcomes (h : ∀ id, (s.call id).delivered.length ≤ 1) (sort : Outcome → Bool) :
    s.total (·.outcomes sort) = s.calls.countP (·.settledAs sort) := by
  have each : ∀ call ∈ s.calls, call.outcomes sort = if call.settledAs sort then 1 else 0 := by
    intro call hm
    obtain ⟨i, hi, rfl⟩ := List.mem_iff_getElem.mp hm
    have hlen := h i
    rw [State.call_eq_getElem hi] at hlen
    unfold Call.outcomes Call.settledAs
    rcases hd : s.calls[i].delivered with _ | ⟨o, _ | ⟨o', os⟩⟩
    · rfl
    · cases ho : sort o <;> simp [ho]
    · rw [hd] at hlen
      simp only [List.length_cons] at hlen
      omega
  unfold State.total
  generalize s.calls = calls at each
  induction calls with
  | nil => rfl
  | cons call calls ih =>
    have hcall := each call List.mem_cons_self
    have hcalls := ih fun c hc => each c (List.mem_cons_of_mem _ hc)
    rw [List.map_cons, List.sum_cons, hcalls, hcall, List.countP_cons, Nat.add_comm]

theorem total_add_le {f g h : Call → Nat} (hle : ∀ id, f (s.call id) + g (s.call id) ≤
    h (s.call id)) : s.total f + s.total g ≤ s.total h := by
  have each : ∀ call ∈ s.calls, f call + g call ≤ h call := by
    intro call hm
    obtain ⟨i, hi, rfl⟩ := List.mem_iff_getElem.mp hm
    have hi' := hle i
    rwa [State.call_eq_getElem hi] at hi'
  unfold State.total
  generalize s.calls = calls at each
  induction calls with
  | nil => exact Nat.le_refl 0
  | cons call calls ih =>
    have hcall := each call List.mem_cons_self
    have hcalls := ih fun c hc => each c (List.mem_cons_of_mem _ hc)
    simp only [List.map_cons, List.sum_cons]
    omega

/-- A call that ended well or failed has an invocation behind it. -/
theorem Call.Earned.outcomes_le {call : Call} (h : call.Earned)
    (hlen : call.delivered.length ≤ 1) :
    call.outcomes Except.isOk + call.outcomes Outcome.isFailure ≤ call.invocations := by
  by_cases hn : call.invocations = 0
  · obtain ⟨_, hok, hfailure⟩ := h hn
    omega
  · -- One outcome cannot be both.
    have hone : call.outcomes Except.isOk + call.outcomes Outcome.isFailure ≤ 1 := by
      unfold Call.outcomes
      rcases hd : call.delivered with _ | ⟨o, _ | ⟨o', os⟩⟩
      · exact Nat.zero_le 1
      · rw [List.countP_singleton, List.countP_singleton]
        cases o with
        | ok v => exact Nat.le_refl 1
        | error x =>
          change 0 + (if Outcome.isFailure (.error x) then 1 else 0) ≤ 1
          split <;> omega
      · rw [hd] at hlen
        simp only [List.length_cons] at hlen
        omega
    omega

/-- Between two actions on clocks that can be read, the attempts are the invocations made, the
successes are the calls settled well, the failures are the calls that failed of themselves, and the
attempts exceed the retries by the calls that an invocation decided. A reading shows these numbers as
long as they fit into it. -/
theorem metrics_exact {room : Room} {as : List (Action Room)} (hr : custody.held room = [])
    (run : Run e custody (fun u => u.clock.Readable) (initial e room) as s) :
    s.metrics.attempts = (s.calls.map Call.invocations).sum ∧
    s.metrics.successes = s.calls.countP (·.settledAs Except.isOk) ∧
    s.metrics.failures = s.calls.countP (·.settledAs Outcome.isFailure) ∧
    s.metrics.attempts = s.metrics.retries + s.calls.countP (·.settledAs Outcome.isDecided) ∧
    s.metrics.successes + s.metrics.failures ≤ s.metrics.attempts ∧
    (s.metrics.attempts < 2 ^ 64 → ∀ reading, s.reading.2 = .ok reading →
      reading.attempts.toNat = s.metrics.attempts ∧
      reading.successes.toNat = s.metrics.successes ∧
      reading.failures.toNat = s.metrics.failures ∧
      reading.retries.toNat = s.metrics.retries) := by
  have balanced := run.balanced
  have one := (run.sole hr).delivered_le
  have counted (sort : Outcome → Bool) := total_outcomes one sort
  have hretries := balanced.retries
  have hle : s.metrics.successes + s.metrics.failures ≤ s.metrics.attempts := by
    rw [balanced.successes, balanced.failures, balanced.attempts]
    exact total_add_le fun id => (balanced.earned id).outcomes_le (one id)
  refine ⟨balanced.attempts, ?_, ?_, ?_, hle, fun hlt reading hreading => ?_⟩
  · rw [balanced.successes, counted]
  · rw [balanced.failures, counted]
  · rw [hretries, counted]
  · obtain ⟨breaker, journal, hlook⟩ := State.look_eq s
    have hmetrics : s.look.1.metrics = s.metrics := by rw [hlook]
    simp only [State.reading, hmetrics] at hreading
    cases ha : s.look.2 with
    | error fault =>
      rw [ha] at hreading
      cases hreading
    | ok isOpen =>
      rw [ha] at hreading
      cases hreading
      -- No counter exceeds the attempts, so none of them wraps.
      have hsize : UInt64.size = 2 ^ 64 := rfl
      refine ⟨?_, ?_, ?_, ?_⟩ <;> exact UInt64.toNat_ofNat_of_lt' (by omega)

/-- A dropped retry leaves one attempt, one retry and one failure. -/
theorem metrics_exact_dropped :
    guardedCustody.held (.empty none) = [] ∧
    Run guardedQueue guardedCustody (fun u => u.clock.Readable) queueStart
      [startRefused, dropFirst] (guardedQueue.act queueStarted dropFirst) ∧
    (guardedQueue.act queueStarted dropFirst).metrics = ⟨1, 0, 1, 1⟩ ∧
    (guardedQueue.act queueStarted dropFirst).calls.countP (·.settledAs Outcome.isFailure) = 1 := by
  have hmetrics : (guardedQueue.act queueStarted dropFirst).metrics = ⟨1, 0, 1, 1⟩ := by
    decide
  have run := run_dropFirst (fun u => u.clock.Readable) fun _ h => h
  have exact' := metrics_exact (e := guardedQueue) rfl run
  refine ⟨rfl, run, hmetrics, ?_⟩
  rw [← exact'.2.2.1, hmetrics]

end Engine

end Reattempt
