import Reattempt.Proofs.States

/-!
The courses that the attempts of a call can take. A course follows one call from an attempt in hand
to the point where nobody is inside the engine any more; each rule names one way and all that has
to hold for it. Main statement: `run_course`, running an attempt takes one of these courses.
-/
namespace Reattempt.Engine

variable {Room : Type}

/-- Why a call ends with the attempt that was just invoked. -/
inductive Fatal (e : Engine Room) (id left : Nat) (c : Continuation) (s : State Room) :
    Ending → Prop
  | panicked {fault : Fault} (hi : (s.invoke id c.attempt).2 = .error fault) :
      Fatal e id left c s (.operationPanicked c.attempt)
  | refused {f : Failure} (hi : (s.invoke id c.attempt).2 = .ok (.error f))
      (hr : left = 0 ∨ e.policy.shouldRetry f = false) :
      Fatal e id left c s (.operation c.attempt f)
  | late {f : Failure} {d : Deadline} (hi : (s.invoke id c.attempt).2 = .ok (.error f))
      (hl : left ≠ 0) (hr : e.policy.shouldRetry f = true)
      (hm : (s.invoked id c.attempt).misses c.deadline (e.delay id c) = .ok (some d)) :
      Fatal e id left c s (.deadlineExceeded c.attempt d.budget)
  /-- The clock could not be read to compare it with the deadline. -/
  | untimed {f : Failure} {fault : Fault} (hi : (s.invoke id c.attempt).2 = .ok (.error f))
      (hm : (s.invoked id c.attempt).misses c.deadline (e.delay id c) = .error fault) :
      Fatal e id left c s (.scheduling (c.attempt - 1) .shutDown)

/-- The attempt in hand failed, and another one is asked for. -/
structure Retries (e : Engine Room) (id left : Nat) (c : Continuation) (s : State Room)
    (f : Failure) : Prop where
  failed : (s.invoke id c.attempt).2 = .ok (.error f)
  allowed : left ≠ 0
  retryable : e.policy.shouldRetry f = true
  inTime : (s.invoked id c.attempt).misses c.deadline (e.delay id c) = .ok none

/-- The state in which the next attempt is handed over: its retry has been counted. -/
def counted (id : Nat) (c : Continuation) (s : State Room) : State Room :=
  { s.invoked id c.attempt with metrics := (s.invoked id c.attempt).metrics.recordRetry }

/-- The handing over of the next attempt, and the scheduler's answer. -/
def asked (e : Engine Room) (id : Nat) (c : Continuation) (s : State Room) :
    State Room × Handling × Option ScheduleError :=
  e.hand (counted id c s) id (c.next e.policy) (e.delay id c)

/-- The request for the next attempt. -/
def request (e : Engine Room) (id : Nat) (c : Continuation) (s : State Room) : Request :=
  ⟨id, ((counted id c s).call id).name, c.attempt + 1, e.delay id c, (counted id c s).clock.elapsed,
    (counted id c s).isCancelled id⟩

theorem asked_eq (e : Engine Room) (id : Nat) (c : Continuation) (s : State Room) :
    e.asked id c s =
      let answer := e.scheduler (counted id c s).room (e.request id c s)
      ({ counted id c s with
          room := answer.room
          journal := ⟨(counted id c s).clock.elapsed, .requested (e.request id c s)⟩ ::
            (counted id c s).journal },
        answer.handling, answer.refusal) := rfl

theorem counted_calls (id : Nat) (c : Continuation) (s : State Room) : (counted id c s).calls =
    s.calls.modify id fun call => { call with invocations := call.invocations + 1 } :=
  State.invoked_calls s id c.attempt

theorem counted_room (id : Nat) (c : Continuation) (s : State Room) :
    (counted id c s).room = s.room := State.invoked_room s id c.attempt

theorem asked_calls (e : Engine Room) (id : Nat) (c : Continuation) (s : State Room) :
    (e.asked id c s).1.calls =
      s.calls.modify id fun call => { call with invocations := call.invocations + 1 } :=
  counted_calls id c s

/-- From an attempt in hand to the state after it and all that were run because of it. -/
inductive Course (e : Engine Room) (id : Nat) :
    Nat → Continuation → State Room → State Room → Prop
  | cancelled {left c s} (hc : s.isCancelled id = true) :
      Course e id left c s (s.deliver id (.error (.cancelled (c.attempt - 1))))
  | succeeded {left c s v} (hc : s.isCancelled id = false)
      (hi : (s.invoke id c.attempt).2 = .ok (.ok v)) :
      Course e id left c s ((s.invoked id c.attempt).succeed id v)
  | failed {left c s ending} (hc : s.isCancelled id = false) (why : Fatal e id left c s ending) :
      Course e id left c s ((s.invoked id c.attempt).failed id ending)
  /-- The scheduler refuses the next attempt, or drops it. -/
  | unscheduled {left c s f handling refusal} (hc : s.isCancelled id = false)
      (hr : Retries e id left c s f) (cause : ScheduleError)
      (ha : (e.asked id c s).2 = (handling, refusal))
      (hh : handling = .hold ∧ refusal = some cause ∨
        handling = .drop ∧ refusal.getD .shutDown = cause) :
      Course e id left c s ((e.asked id c s).1.failed id (.scheduling c.attempt cause))
  /-- The scheduler cannot make its pause, and loses the next attempt. -/
  | stalled {left c s f pause contained refusal fault} (hc : s.isCancelled id = false)
      (hr : Retries e id left c s f) (ha : (e.asked id c s).2 = (.run pause contained, refusal))
      (hp : (e.asked id c s).1.clock.advance (pause.getD .zero) = .error fault) :
      Course e id left c s
        (((e.asked id c s).1.withRoom (counted id c s).room).failed id
          (.scheduling c.attempt .shutDown))
  | held {left c s f} (hc : s.isCancelled id = false) (hr : Retries e id left c s f)
      (ha : (e.asked id c s).2 = (.hold, none)) :
      Course e id left c s ((e.asked id c s).1.hold id (c.next e.policy))
  | again {left c s t f pause contained refusal clock} (hc : s.isCancelled id = false)
      (hr : Retries e id (left + 1) c s f)
      (ha : (e.asked id c s).2 = (.run pause contained, refusal))
      (hp : (e.asked id c s).1.clock.advance (pause.getD .zero) = .ok clock)
      (rest : Course e id left (c.next e.policy) ((e.asked id c s).1.withClock clock) t) :
      Course e id (left + 1) c s t

/-! ### The equations of a run -/

variable {e : Engine Room} {id left : Nat} {c : Continuation} {s : State Room} {f : Failure}

theorem State.invoke_eq {n : Nat} {r : Except Fault (Except Failure Int)}
    (hi : (s.invoke id n).2 = r) : s.invoke id n = (s.invoked id n, r) := Prod.ext rfl hi

/-- What follows the scheduler's answer. -/
def answered (e : Engine Room) (id left : Nat) (c : Continuation) (s : State Room) :
    State Room × Handling × Option ScheduleError → State Room × Option Fault
  | (t, .hold, refusal) => settleHanded t id (c.next e.policy) true refusal
  | (t, .drop, refusal) => settleHanded t id (c.next e.policy) false refusal
  | (t, .run pause contained, _) =>
    match t.clock.advance (pause.getD .zero) with
    | .error fault =>
      (t.withRoom (counted id c s).room).unwind id (.scheduling c.attempt .shutDown) fault
    | .ok clock =>
      let (t, fault) := e.run id left (c.next e.policy) (t.withClock clock)
      (t, if contained then Fault.contain fault else fault)

/-- What follows the comparison of a failed attempt with the deadline. -/
def compared (e : Engine Room) (id left : Nat) (c : Continuation) (s : State Room) :
    Except Fault (Option Deadline) → State Room × Option Fault
  | .error fault => (s.invoked id c.attempt).unwind id (.scheduling (c.attempt - 1) .shutDown) fault
  | .ok (some d) => (s.invoked id c.attempt).fail id (.deadlineExceeded c.attempt d.budget)
  | .ok none => answered e id left c s (e.asked id c s)

/-- What follows the response of an attempt. -/
def responded (e : Engine Room) (id : Nat) (c : Continuation) (s : State Room) :
    Nat → Except Fault (Except Failure Int) → State Room × Option Fault
  | _, .error fault => (s.invoked id c.attempt).unwind id (.operationPanicked c.attempt) fault
  | _, .ok (.ok v) => ((s.invoked id c.attempt).succeed id v, none)
  | 0, .ok (.error f) => (s.invoked id c.attempt).fail id (.operation c.attempt f)
  | left + 1, .ok (.error f) =>
    if e.policy.shouldRetry f then
      compared e id left c s ((s.invoked id c.attempt).misses c.deadline (e.delay id c))
    else (s.invoked id c.attempt).fail id (.operation c.attempt f)

/-- A run, one guard after the other. All that is said of runs below is read off this equation. -/
theorem run_eq (e : Engine Room) (id left : Nat) (c : Continuation) (s : State Room) :
    e.run id left c s =
      if s.isCancelled id then (s.deliver id (.error (.cancelled (c.attempt - 1))), none)
      else responded e id c s left (s.invoke id c.attempt).2 := by
  rw [run]
  split
  · rfl
  rcases hi : (s.invoke id c.attempt).2 with fault | (f | v) <;> rw [State.invoke_eq hi]
  · rfl
  · cases left with
    | zero => rfl
    | succ left =>
      simp only [responded]
      cases e.policy.shouldRetry f with
      | false => rfl
      | true =>
        rcases (s.invoked id c.attempt).misses c.deadline (e.delay id c) with fault | (_ | d) <;> rfl
  · rfl

theorem run_of_cancelled (hc : s.isCancelled id = true) :
    e.run id left c s = (s.deliver id (.error (.cancelled (c.attempt - 1))), none) := by
  rw [run_eq, if_pos hc]

theorem run_of_response {r : Except Fault (Except Failure Int)} (hc : s.isCancelled id = false)
    (hi : (s.invoke id c.attempt).2 = r) : e.run id left c s = responded e id c s left r := by
  rw [run_eq, hc, hi]
  rfl

theorem run_of_panic {fault : Fault} (hc : s.isCancelled id = false)
    (hi : (s.invoke id c.attempt).2 = .error fault) :
    e.run id left c s =
      (s.invoked id c.attempt).unwind id (.operationPanicked c.attempt) fault :=
  run_of_response hc hi

theorem run_of_value {v : Int} (hc : s.isCancelled id = false)
    (hi : (s.invoke id c.attempt).2 = .ok (.ok v)) :
    e.run id left c s = ((s.invoked id c.attempt).succeed id v, none) :=
  run_of_response hc hi

theorem run_of_refused (hc : s.isCancelled id = false)
    (hi : (s.invoke id c.attempt).2 = .ok (.error f))
    (hr : left = 0 ∨ e.policy.shouldRetry f = false) :
    e.run id left c s = (s.invoked id c.attempt).fail id (.operation c.attempt f) := by
  rw [run_of_response hc hi]
  cases left with
  | zero => rfl
  | succ left =>
    have hr : e.policy.shouldRetry f = false := hr.resolve_left (Nat.succ_ne_zero left)
    exact if_neg (Bool.eq_false_iff.mp hr)

/-- Once a retry is allowed, the deadline decides. -/
theorem run_of_retryable (hc : s.isCancelled id = false)
    (hi : (s.invoke id c.attempt).2 = .ok (.error f)) (hr : e.policy.shouldRetry f = true) :
    e.run id (left + 1) c s =
      compared e id left c s ((s.invoked id c.attempt).misses c.deadline (e.delay id c)) := by
  rw [run_of_response hc hi]
  exact if_pos hr

theorem run_of_untimed {fault : Fault} (hc : s.isCancelled id = false)
    (hi : (s.invoke id c.attempt).2 = .ok (.error f)) (hl : left ≠ 0)
    (hr : e.policy.shouldRetry f = true)
    (hm : (s.invoked id c.attempt).misses c.deadline (e.delay id c) = .error fault) :
    e.run id left c s =
      (s.invoked id c.attempt).unwind id (.scheduling (c.attempt - 1) .shutDown) fault := by
  obtain ⟨k, rfl⟩ := Nat.exists_eq_succ_of_ne_zero hl
  rw [run_of_retryable hc hi hr, hm]
  rfl

theorem run_of_late {d : Deadline} (hc : s.isCancelled id = false)
    (hi : (s.invoke id c.attempt).2 = .ok (.error f)) (hl : left ≠ 0)
    (hr : e.policy.shouldRetry f = true)
    (hm : (s.invoked id c.attempt).misses c.deadline (e.delay id c) = .ok (some d)) :
    e.run id left c s = (s.invoked id c.attempt).fail id (.deadlineExceeded c.attempt d.budget) := by
  obtain ⟨k, rfl⟩ := Nat.exists_eq_succ_of_ne_zero hl
  rw [run_of_retryable hc hi hr, hm]
  rfl

theorem run_of_retries (hc : s.isCancelled id = false) (hr : Retries e id (left + 1) c s f) :
    e.run id (left + 1) c s = answered e id left c s (e.asked id c s) := by
  rw [run_of_retryable hc hr.failed hr.retryable, hr.inTime]
  rfl

/-! ### A run takes a course -/

theorem settleHanded_drop (t : State Room) (n : Continuation) (refusal : Option ScheduleError) :
    (settleHanded t id n false refusal).1 =
      t.failed id (.scheduling (n.attempt - 1) (refusal.getD .shutDown)) := by
  cases refusal with
  | none => exact State.abandon_fst t id n
  | some cause => rfl

/-- The answer to a retry decides the course, given the courses of the attempt after it. -/
theorem answered_course (hc : s.isCancelled id = false) (hr : Retries e id (left + 1) c s f)
    (rest : ∀ t, Course e id left (c.next e.policy) t (e.run id left (c.next e.policy) t).1) :
    Course e id (left + 1) c s (answered e id left c s (e.asked id c s)).1 := by
  rcases ha : e.asked id c s with ⟨t, handling, refusal⟩
  have ht : (e.asked id c s).1 = t := by rw [ha]
  have hs : (e.asked id c s).2 = (handling, refusal) := by rw [ha]
  subst ht
  cases handling with
  | hold =>
    cases refusal with
    | none => exact .held hc hr hs
    | some cause => exact .unscheduled hc hr cause hs (.inl ⟨rfl, rfl⟩)
  | drop =>
    change Course e id (left + 1) c s (settleHanded _ id (c.next e.policy) false refusal).1
    rw [settleHanded_drop]
    exact .unscheduled hc hr _ hs (.inr ⟨rfl, rfl⟩)
  | run pause contained =>
    cases hp : (e.asked id c s).1.clock.advance (pause.getD .zero) with
    | error fault =>
      simp only [answered, hp, State.unwind_fst]
      exact .stalled hc hr hs hp
    | ok clock =>
      simp only [answered, hp]
      exact .again hc hr hs hp (rest _)

/-- The rules are complete: each guard of a run is the guard of one rule. -/
theorem run_course (e : Engine Room) (id left : Nat) (c : Continuation) (s : State Room) :
    Course e id left c s (e.run id left c s).1 := by
  -- A retry that is run at once is run with one attempt fewer left.
  induction left using Nat.strongRecOn generalizing c s with
  | ind left ih =>
  by_cases hc : s.isCancelled id = true
  · rw [run_of_cancelled hc]
    exact .cancelled hc
  have hc : s.isCancelled id = false := Bool.eq_false_iff.mpr hc
  cases hi : (s.invoke id c.attempt).2 with
  | error fault =>
    rw [run_of_panic hc hi, State.unwind_fst]
    exact .failed hc (.panicked hi)
  | ok response =>
    cases response with
    | ok v =>
      rw [run_of_value hc hi]
      exact .succeeded hc hi
    | error f =>
      by_cases hn : left = 0 ∨ e.policy.shouldRetry f = false
      · rw [run_of_refused hc hi hn]
        exact .failed hc (.refused hi hn)
      have hl : left ≠ 0 := fun h => hn (.inl h)
      have hr : e.policy.shouldRetry f = true := by simpa using fun h => hn (.inr h)
      cases hm : (s.invoked id c.attempt).misses c.deadline (e.delay id c) with
      | error fault =>
        rw [run_of_untimed hc hi hl hr hm, State.unwind_fst]
        exact .failed hc (.untimed hi hm)
      | ok missed =>
        cases missed with
        | some d =>
          rw [run_of_late hc hi hl hr hm]
          exact .failed hc (.late hi hl hr hm)
        | none =>
          obtain ⟨k, rfl⟩ := Nat.exists_eq_succ_of_ne_zero hl
          have hretries : Retries e id (k + 1) c s f := ⟨hi, hl, hr, hm⟩
          rw [run_of_retries hc hretries]
          exact answered_course hc hretries fun t => ih k (Nat.lt_succ_self k) _ t

end Reattempt.Engine
