import Reattempt.Proofs.States
import Reattempt.Proofs.Waits

/-!
The outcome of a call as a plain loop over its attempts. The loop knows the script of the operation,
the decisions of the scheduler and the time as a number of nanoseconds; it knows no state of an
engine.
-/
namespace Reattempt

/-- What a scheduler does with an attempt that it is handed. -/
inductive Decision where
  /-- It runs the attempt after a pause, whatever it answers afterwards. -/
  | run (pause : Option Duration) (contained : Bool) (refusal : Option ScheduleError)
  | drop
  /-- It refuses the attempt, and keeps it all the same or drops it. -/
  | reject (kept : Bool) (cause : ScheduleError)

namespace Decision

def handling : Decision → Handling
  | run pause contained _ => .run pause contained
  | drop => .drop
  | reject kept _ => if kept then .hold else .drop

def refusal : Decision → Option ScheduleError
  | run _ _ refusal => refusal
  | drop => none
  | reject _ cause => some cause

theorem eq_run {d : Decision} {pause : Option Duration} {contained : Bool}
    (h : d.handling = .run pause contained) : ∃ refusal, d = run pause contained refusal := by
  cases d with
  | run pause' contained' refusal =>
    cases h
    exact ⟨refusal, rfl⟩
  | drop => cases h
  | reject kept cause => cases kept <;> cases h

/-- No decision keeps an attempt without refusing it. -/
theorem not_held (d : Decision) : ¬ (d.handling = .hold ∧ d.refusal = none) := by
  rintro ⟨hh, hn⟩
  cases d with
  | run pause contained refusal => cases hh
  | drop => cases hh
  | reject kept cause => cases hn

end Decision

/-- A scheduler that remembers nothing but the decisions it will make. -/
def Scheduler.decided : Scheduler (Nat → Decision) := fun decisions _ =>
  ⟨fun n => decisions (n + 1), (decisions 0).handling, (decisions 0).refusal⟩

namespace Engine

/-- All that decides the outcome of a call. -/
structure Plan where
  policy : Policy
  operation : Operation
  token : Option String
  budget : Option Duration
  /-- The time at which the call is started, in nanoseconds. -/
  start : Nat
  /-- What the scheduler does with the attempt that follows an attempt. -/
  decision : Nat → Decision

/-- Where the loop ends: with which outcome, after how many invocations, at which time. -/
structure Verdict where
  outcome : Outcome
  invocations : Nat
  time : Nat
  deriving DecidableEq

namespace Plan

/-- The time that an invocation takes. -/
def duration (p : Plan) (n : Nat) : Nat := ((p.operation (n - 1)).advance.getD .zero).nanos

/-- An invocation cancels the token of its own call. -/
def cancels (p : Plan) (n : Nat) : Bool := p.token.any fun token =>
  (p.operation (n - 1)).cancel == some token

/-- The budget that the wait after an attempt passes. A deadline that cannot be named is none, and a
wait whose end cannot be named passes every deadline. -/
def late? (p : Plan) (n now : Nat) : Option Duration :=
  match p.budget with
  | none => none
  | some budget =>
    let expires := p.start + budget.nanos
    let resumed := now + (p.policy.base n).nanos
    if expires < Instant.limit ∧ (Instant.limit ≤ resumed ∨ expires < resumed) then some budget
    else none

/-- The loop, before an attempt. -/
def loop (p : Plan) (n now : Nat) (cancelled : Bool) : Verdict :=
  if cancelled then ⟨.error (.cancelled (n - 1)), n - 1, now⟩
  else
    let now := now + p.duration n
    match (p.operation (n - 1)).response with
    | .value v => ⟨.ok v, n, now⟩
    | .panic _ => ⟨.error (.operationPanicked n), n, now⟩
    | .failure f =>
      if p.policy.maxAttempts.toNat ≤ n ∨ p.policy.shouldRetry f = false then
        ⟨.error (.operation n f), n, now⟩
      else
        match p.late? n now with
        | some budget => ⟨.error (.deadlineExceeded n budget), n, now⟩
        | none =>
          match p.decision n with
          | .drop => ⟨.error (.scheduling n .shutDown), n, now⟩
          | .reject _ cause => ⟨.error (.scheduling n cause), n, now⟩
          | .run pause _ _ => p.loop (n + 1) (now + (pause.getD .zero).nanos) (p.cancels n)
termination_by p.policy.maxAttempts.toNat - n

/-! ### The equations of the loop -/

variable {p : Plan} {n now : Nat} {f : Failure}

theorem loop_cancelled : p.loop n now true = ⟨.error (.cancelled (n - 1)), n - 1, now⟩ := by
  rw [loop]
  rfl

theorem loop_value {v : Int} (h : (p.operation (n - 1)).response = .value v) :
    p.loop n now false = ⟨.ok v, n, now + p.duration n⟩ := by
  rw [loop]
  simp only [Bool.false_eq_true, ↓reduceIte, h]

theorem loop_panic {message : String} (h : (p.operation (n - 1)).response = .panic message) :
    p.loop n now false = ⟨.error (.operationPanicked n), n, now + p.duration n⟩ := by
  rw [loop]
  simp only [Bool.false_eq_true, ↓reduceIte, h]

theorem loop_refused (h : (p.operation (n - 1)).response = .failure f)
    (hr : p.policy.maxAttempts.toNat ≤ n ∨ p.policy.shouldRetry f = false) :
    p.loop n now false = ⟨.error (.operation n f), n, now + p.duration n⟩ := by
  rw [loop]
  simp only [Bool.false_eq_true, ↓reduceIte, h, if_pos hr]

theorem loop_late {budget : Duration} (h : (p.operation (n - 1)).response = .failure f)
    (hr : ¬ (p.policy.maxAttempts.toNat ≤ n ∨ p.policy.shouldRetry f = false))
    (hl : p.late? n (now + p.duration n) = some budget) :
    p.loop n now false = ⟨.error (.deadlineExceeded n budget), n, now + p.duration n⟩ := by
  rw [loop]
  simp only [Bool.false_eq_true, ↓reduceIte, h, if_neg hr, hl]

/-- A failure that may be retried in time leaves the rest to the scheduler. -/
theorem loop_decided (h : (p.operation (n - 1)).response = .failure f)
    (hr : ¬ (p.policy.maxAttempts.toNat ≤ n ∨ p.policy.shouldRetry f = false))
    (hl : p.late? n (now + p.duration n) = none) :
    p.loop n now false = match p.decision n with
      | .drop => ⟨.error (.scheduling n .shutDown), n, now + p.duration n⟩
      | .reject _ cause => ⟨.error (.scheduling n cause), n, now + p.duration n⟩
      | .run pause _ _ =>
        p.loop (n + 1) (now + p.duration n + (pause.getD .zero).nanos) (p.cancels n) := by
  rw [loop]
  simp only [Bool.false_eq_true, ↓reduceIte, h, if_neg hr, hl]

/-- A retry that is not run ends the loop with the scheduler's cause. -/
theorem loop_unscheduled {cause : ScheduleError}
    (h : (p.operation (n - 1)).response = .failure f)
    (hr : ¬ (p.policy.maxAttempts.toNat ≤ n ∨ p.policy.shouldRetry f = false))
    (hl : p.late? n (now + p.duration n) = none)
    (hd : (p.decision n).handling = .hold ∧ (p.decision n).refusal = some cause ∨
      (p.decision n).handling = .drop ∧ (p.decision n).refusal.getD .shutDown = cause) :
    p.loop n now false = ⟨.error (.scheduling n cause), n, now + p.duration n⟩ := by
  rw [loop_decided h hr hl]
  cases hdecision : p.decision n with
  | run pause contained refusal =>
    rw [hdecision] at hd
    rcases hd with ⟨hh, _⟩ | ⟨hh, _⟩ <;> cases hh
  | drop =>
    rw [hdecision] at hd
    rcases hd with ⟨hh, _⟩ | ⟨_, rfl⟩
    · cases hh
    · rfl
  | reject kept refused =>
    rw [hdecision] at hd
    rcases hd with ⟨_, hc⟩ | ⟨_, rfl⟩
    · cases hc
      rfl
    · rfl

theorem loop_run {pause : Option Duration} {contained : Bool}
    (h : (p.operation (n - 1)).response = .failure f)
    (hr : ¬ (p.policy.maxAttempts.toNat ≤ n ∨ p.policy.shouldRetry f = false))
    (hl : p.late? n (now + p.duration n) = none)
    (hd : (p.decision n).handling = .run pause contained) :
    p.loop n now false =
      p.loop (n + 1) (now + p.duration n + (pause.getD .zero).nanos) (p.cancels n) := by
  obtain ⟨refusal, hdecision⟩ := Decision.eq_run hd
  rw [loop_decided h hr hl, hdecision]

/-- Time goes on in the loop. -/
theorem le_loop_time (n now : Nat) (cancelled : Bool) : now ≤ (p.loop n now cancelled).time := by
  fun_induction p.loop n now cancelled with
  | case1 => exact Nat.le_refl _
  | case8 => omega
  | _ => exact Nat.le_add_right _ _

theorem le_loop_invocations (n now : Nat) (cancelled : Bool) :
    n ≤ (p.loop n now cancelled).invocations + 1 := by
  fun_induction p.loop n now cancelled with
  | case1 n => exact Nat.le_add_of_sub_le (Nat.le_refl (n - 1))
  | case8 => omega
  | _ => exact Nat.le_succ _

/-- The loop does not end before the invocation that it makes. -/
theorem duration_le_loop_time (n now : Nat) :
    now + p.duration n ≤ (p.loop n now false).time := by
  fun_cases p.loop n now false with
  | case1 h => cases h
  | case8 => exact Nat.le_trans (Nat.le_add_right _ _) (le_loop_time _ _ _)
  | _ => exact Nat.le_refl _

/-! ### What the engine carries along -/

/-- The deadline of the call, if there is such a time. -/
def deadline (p : Plan) : Option Deadline :=
  p.budget.bind fun budget =>
    if h : p.start + budget.nanos < Instant.limit then some ⟨⟨_, h⟩, budget⟩ else none

/-- What the call needs for an attempt. -/
def continuation (p : Plan) (n : Nat) : Continuation := ⟨n, p.policy.base n, p.deadline⟩

theorem next_continuation (p : Plan) (hn : 1 ≤ n) :
    (p.continuation n).next p.policy = p.continuation (n + 1) := by
  simp only [continuation, Continuation.next, p.policy.base_succ hn]

/-- On a clock that can be read the engine compares the deadline as the loop does. -/
theorem misses_deadline {Room : Type} {s : State Room} (p : Plan) (n : Nat)
    (hr : s.clock.Readable) :
    ∃ missed, s.misses p.deadline (p.policy.base n) = .ok missed ∧
      missed.map (·.budget) = p.late? n s.clock.elapsed.nanos := by
  cases hb : p.budget with
  | none =>
    have hdeadline : p.deadline = none := by simp only [deadline, hb, Option.bind_none]
    refine ⟨none, ?_, ?_⟩
    · simp only [State.misses, hdeadline]
    · simp only [late?, hb, Option.map_none]
  | some budget =>
    by_cases hd : p.start + budget.nanos < Instant.limit
    · have hdeadline : p.deadline = some ⟨⟨_, hd⟩, budget⟩ := by
        simp only [deadline, hb, Option.bind_some, hd, ↓reduceDIte]
      -- Both can compare times only where the end of the wait can be named.
      by_cases ha : s.clock.elapsed.nanos + (p.policy.base n).nanos < Instant.limit
      · have hmisses : s.misses p.deadline (p.policy.base n) = .ok
            (if p.start + budget.nanos < s.clock.elapsed.nanos + (p.policy.base n).nanos then
              some ⟨⟨_, hd⟩, budget⟩ else none) := by
          simp only [State.misses, hdeadline, Clock.read_of_readable hr, Except.map,
            Instant.add?, ha, ↓reduceDIte]
          rfl
        refine ⟨_, hmisses, ?_⟩
        by_cases hl : p.start + budget.nanos < s.clock.elapsed.nanos + (p.policy.base n).nanos
        · have hlate : p.late? n s.clock.elapsed.nanos = some budget := by
            simp only [late?, hb]
            exact if_pos ⟨hd, .inr hl⟩
          rw [if_pos hl, hlate]
          rfl
        · have hlate : p.late? n s.clock.elapsed.nanos = none := by
            simp only [late?, hb]
            exact if_neg fun h => h.2.elim (Nat.not_le_of_lt ha) hl
          rw [if_neg hl, hlate]
          rfl
      · have hlate : p.late? n s.clock.elapsed.nanos = some budget := by
          simp only [late?, hb]
          exact if_pos ⟨hd, .inl (Nat.le_of_not_lt ha)⟩
        refine ⟨some ⟨⟨_, hd⟩, budget⟩, ?_, hlate.symm⟩
        simp only [State.misses, hdeadline, Clock.read_of_readable hr, Except.map,
          Instant.add?, ha, ↓reduceDIte]
    · have hdeadline : p.deadline = none := by
        simp only [deadline, hb, Option.bind_some, hd, ↓reduceDIte]
      have hlate : p.late? n s.clock.elapsed.nanos = none := by
        simp only [late?, hb]
        exact if_neg fun h => hd h.1
      refine ⟨none, ?_, hlate.symm⟩
      simp only [State.misses, hdeadline]

end Plan

end Engine

end Reattempt
