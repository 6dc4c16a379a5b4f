import Reattempt.Proofs.ReferenceLoop
import Reattempt.Proofs.Runs

/-!
The engine goes the way of the reference loop. `Before` says how a state stands to the loop before an
attempt, and `after_course` how a course that starts there ends. Main statement: `execute_eq_loop`, a
call that the breaker admits is settled as the loop says.
-/
namespace Reattempt.Engine

namespace Plan

variable {p : Plan} {n now : Nat} {f : Failure}

/-- The record of the call while its attempts are being made. -/
def record (p : Plan) (name : String) (n : Nat) : Call :=
  ⟨name, p.operation, p.token, false, n - 1, none, [], .live⟩

/-- An attempt is about to be made, as the loop sees it. -/
structure Before (p : Plan) (name : String) (id n now : Nat) (cancelled : Bool)
    (s : State (Nat → Decision)) : Prop where
  known : id < s.calls.length
  call : s.call id = p.record name n
  listed : ∀ token, p.token = some token → (s.tokens.lookup token).isSome = true
  cancelled : p.token.any s.tokenCancelled = cancelled
  clock : s.clock.elapsed.nanos = now

/-- The call has ended, as the loop says; `n` was its next attempt in the state `s`. -/
structure After (p : Plan) (name : String) (id n : Nat) (v : Verdict)
    (s t : State (Nat → Decision)) : Prop where
  call : t.call id = { p.record name n with
    invocations := v.invocations, delivered := [v.outcome] }
  clock : t.clock.elapsed.nanos = v.time
  attempts : t.attemptsOf id =
    (List.range' n (v.invocations + 1 - n)).reverse ++ s.attemptsOf id

variable {name : String} {id : Nat} {cancelled : Bool} {s t : State (Nat → Decision)}

theorem Before.isCancelled (h : p.Before name id n now cancelled s) :
    s.isCancelled id = cancelled := by
  simp only [State.isCancelled, h.call, record, Bool.false_or]
  exact h.cancelled

theorem Before.readable (h : p.Before name id n now cancelled s) (hlt : now < Instant.limit) :
    s.clock.Readable := by
  rw [Clock.Readable, h.clock]
  exact hlt

/-- An invocation answers as the script says, and leaves all as the loop says. -/
theorem Before.invoked (h : p.Before name id n now false s) (hn : 1 ≤ n)
    (hlt : now + p.duration n < Instant.limit) :
    (s.invoke id n).2 = (p.operation (n - 1)).response.result ∧
      p.Before name id (n + 1) (now + p.duration n) (p.cancels n) (s.invoked id n) := by
  have hplay : (s.call id).operation (s.call id).invocations = p.operation (n - 1) := by
    rw [h.call]
    rfl
  obtain ⟨clock, hadvance, hclock⟩ := Clock.advance_of_lt (c := s.clock)
    (d := (p.operation (n - 1)).advance.getD .zero) (by rw [h.clock]; exact hlt)
  obtain ⟨hresult, hc, htokens⟩ := State.invoke_of_advance (n := n) hplay hadvance
  have hcall := State.call_of_modify (State.invoked_calls s id n) h.known
  have hcancelled (token : String) : (s.invoked id n).tokenCancelled token =
      ((p.operation (n - 1)).cancel.elim s s.cancelToken).tokenCancelled token := by
    simp only [State.tokenCancelled, htokens]
  refine ⟨hresult, ?_, ?_, ?_, ?_, ?_⟩
  · rw [State.length_of_modify (State.invoked_calls s id n)]
    exact h.known
  · have hinvocations : n - 1 + 1 = n + 1 - 1 := by omega
    rw [hcall, h.call]
    simp only [record, hinvocations]
  · intro token ht
    rw [htokens]
    cases (p.operation (n - 1)).cancel with
    | none => exact h.listed token ht
    | some other =>
      exact (State.isSome_lookup_cancelToken s token other).trans (h.listed token ht)
  · have hbefore := h.cancelled
    cases ht : p.token with
    | none => simp only [cancels, ht, Option.any_none]
    | some token =>
      rw [ht, Option.any_some] at hbefore
      simp only [cancels, ht, Option.any_some, hcancelled]
      cases (p.operation (n - 1)).cancel with
      | none => exact hbefore
      | some other =>
        have hlisted := h.listed token ht
        simp only [Option.elim, State.tokenCancelled_cancelToken other hlisted, hbefore,
          Bool.false_or]
        exact Bool.beq_comm ..
  · rw [hc, hclock, h.clock]
    rfl

theorem Before.of_same (h : p.Before name id n now cancelled s) {later : Nat}
    (hcalls : t.calls = s.calls) (htokens : t.tokens = s.tokens)
    (hclock : t.clock.elapsed.nanos = later) : p.Before name id n later cancelled t where
  known := hcalls ▸ h.known
  call := (State.call_congr hcalls id).trans h.call
  listed := htokens ▸ h.listed
  cancelled := by
    have hc := h.cancelled
    unfold State.tokenCancelled at hc ⊢
    rwa [htokens]
  clock := hclock

/-- A call that is settled after an invocation, or before the next one, has ended. -/
theorem After.of_settled {k : Nat} {u : State (Nat → Decision)} {o : Outcome}
    (h : p.Before name id (k + 1) now cancelled u)
    (hcalls : t.calls = u.calls.modify id fun c => { c with delivered := c.delivered ++ [o] })
    (hclock : t.clock = u.clock)
    (hjournal : t.journal = ⟨u.clock.elapsed, .settled id o⟩ :: u.journal)
    (hattempts : u.attemptsOf id = (List.range' n (k + 1 - n)).reverse ++ s.attemptsOf id) :
    p.After name id n ⟨o, k, now⟩ s t where
  call := by
    rw [State.call_of_modify hcalls h.known, h.call]
    rfl
  clock := by rw [hclock, h.clock]
  attempts := by
    rw [State.attemptsOf_cons hjournal]
    exact hattempts

/-- An engine that runs the plan. -/
structure Drives (p : Plan) (e : Engine (Nat → Decision)) : Prop where
  policy : e.policy = p.policy
  scheduler : e.scheduler = .decided
  valid : p.policy.validate = .ok ()
  /-- No wait is spread. -/
  steady : p.policy.jitterFactor.le 0 = true

variable {e : Engine (Nat → Decision)} {c : Continuation}

theorem Drives.delay (drives : p.Drives e) (id n : Nat) :
    e.delay id (p.continuation n) = p.policy.base n := by
  simp only [Engine.delay, drives.policy]
  exact Policy.applyJitter_of_le drives.steady _ (Policy.base_le_maxDelay drives.valid n)

theorem Drives.asked (drives : p.Drives e) (c : Continuation)
    (hroom : ∀ k, s.room k = p.decision (n + k)) :
    (e.asked id c s).2 = ((p.decision n).handling, (p.decision n).refusal) ∧
      ∀ k, (e.asked id c s).1.room k = p.decision (n + 1 + k) := by
  have hdecision : s.room 0 = p.decision n := hroom 0
  rw [asked_eq, drives.scheduler, counted_room]
  refine ⟨?_, fun k => ?_⟩
  · simp only [Scheduler.decided, hdecision]
  · have hk := hroom (k + 1)
    have hindex : n + (k + 1) = n + 1 + k := by omega
    rw [hindex] at hk
    exact hk

/-- The next attempt is asked for in the state that the invocation left. -/
theorem Before.asked (h : p.Before name id n now cancelled (s.invoked id c.attempt)) :
    p.Before name id n now cancelled (e.asked id c s).1 :=
  h.of_same rfl rfl h.clock

/-- The invocation of an attempt that is not cancelled. -/
theorem Before.made (h : p.Before name id n now cancelled s) (hn : 1 ≤ n)
    (hc : s.isCancelled id = false)
    (hlt : (p.loop n now cancelled).time < Instant.limit) :
    cancelled = false ∧ now + p.duration n < Instant.limit ∧
      (s.invoke id n).2 = (p.operation (n - 1)).response.result ∧
      p.Before name id (n + 1) (now + p.duration n) (p.cancels n) (s.invoked id n) ∧
      (s.invoked id n).attemptsOf id = n :: s.attemptsOf id := by
  have hb : cancelled = false := h.isCancelled.symm.trans hc
  subst hb
  have hnow : now + p.duration n < Instant.limit :=
    Nat.lt_of_le_of_lt (duration_le_loop_time n now) hlt
  obtain ⟨hresult, hinvoked⟩ := h.invoked hn hnow
  refine ⟨rfl, hnow, hresult, hinvoked, ?_⟩
  rw [State.attemptsOf_cons (State.invoked_journal s id n)]
  simp only [Event.attemptOf, ↓reduceIte, Option.toList_some, List.cons_append, List.nil_append]

/-- A call that failed after an invocation has ended. -/
theorem After.of_failed {u : State (Nat → Decision)} (x : Ending)
    (h : p.Before name id (n + 1) now cancelled u) (hlt : now < Instant.limit)
    (hattempts : u.attemptsOf id = n :: s.attemptsOf id) :
    p.After name id n ⟨.error x, n, now⟩ s (u.failed id x) := by
  have dated : u.Dated := .inr (h.readable hlt)
  refine .of_settled h (State.failed_calls_of_dated dated id x) (State.failed_clock u id x)
    (State.failed_journal_of_dated dated id x) ?_
  rw [hattempts, Nat.add_sub_cancel_left]
  rfl

/-- A call that has ended after its next attempt has ended after this one. -/
theorem After.of_next {v : Verdict} {u : State (Nat → Decision)}
    (h : p.After name id (n + 1) v u t) (hv : n + 1 ≤ v.invocations + 1)
    (hattempts : u.attemptsOf id = n :: s.attemptsOf id) : p.After name id n v s t where
  call := h.call
  clock := h.clock
  attempts := by
    have hlength : v.invocations + 1 - n = (v.invocations + 1 - (n + 1)) + 1 := by omega
    rw [h.attempts, hattempts, hlength, List.range'_succ, List.reverse_cons, List.append_assoc]
    rfl

theorem result_value {r : Response} {v : Int} (h : r.result = .ok (.ok v)) : r = .value v := by
  cases r <;> simp_all [Response.result]

theorem result_failure {r : Response} (h : r.result = .ok (.error f)) : r = .failure f := by
  cases r <;> simp_all [Response.result]

theorem result_panic {r : Response} {fault : Fault} (h : r.result = .error fault) :
    ∃ message, r = .panic message := by
  cases r <;> simp_all [Response.result]

/-- A call that ends with the attempt just invoked ends as in the loop. -/
theorem loop_fatal (drives : p.Drives e) (h : p.Before name id n now false s) (hn : 1 ≤ n)
    {x : Ending} (hlt : now + p.duration n < Instant.limit)
    (why : Fatal e id (p.policy.maxAttempts.toNat - n) (p.continuation n) s x) :
    p.loop n now false = ⟨.error x, n, now + p.duration n⟩ := by
  obtain ⟨hresult, hinvoked⟩ := h.invoked hn hlt
  have hreadable := hinvoked.readable hlt
  obtain ⟨missed, hmissed, hlate⟩ := misses_deadline p n hreadable
  rw [hinvoked.clock] at hlate
  cases why with
  | panicked hi =>
    obtain ⟨message, hr⟩ := result_panic (hresult.symm.trans hi)
    exact loop_panic hr
  | refused hi hr =>
    rw [drives.policy] at hr
    exact loop_refused (result_failure (hresult.symm.trans hi))
      (hr.imp_left Nat.le_of_sub_eq_zero)
  | @late f d hi hl hr hm =>
    rw [drives.delay] at hm
    have hd : missed = some d := Except.ok.inj (hmissed.symm.trans hm)
    rw [drives.policy] at hr
    refine loop_late (result_failure (hresult.symm.trans hi)) ?_ ?_
    · rintro (hle | hf)
      · exact hl (Nat.sub_eq_zero_of_le hle)
      · rw [hr] at hf
        cases hf
    · rw [← hlate, hd]
      rfl
  | untimed hi hm =>
    rw [drives.delay] at hm
    cases hmissed.symm.trans hm

/-- A retry that is asked for is decided on as in the loop. -/
theorem loop_retries (drives : p.Drives e) (h : p.Before name id n now false s) (hn : 1 ≤ n)
    (hlt : now + p.duration n < Instant.limit)
    (hr : Retries e id (p.policy.maxAttempts.toNat - n) (p.continuation n) s f) :
    (p.operation (n - 1)).response = .failure f ∧
      ¬ (p.policy.maxAttempts.toNat ≤ n ∨ p.policy.shouldRetry f = false) ∧
      p.late? n (now + p.duration n) = none := by
  obtain ⟨hresult, hinvoked⟩ := h.invoked hn hlt
  obtain ⟨missed, hmissed, hlate⟩ := misses_deadline p n (hinvoked.readable hlt)
  rw [hinvoked.clock] at hlate
  have hm := hr.inTime
  rw [drives.delay] at hm
  have hd : missed = none := Except.ok.inj (hmissed.symm.trans hm)
  refine ⟨result_failure (hresult.symm.trans hr.failed), ?_, ?_⟩
  · rintro (hle | hf)
    · exact hr.allowed (Nat.sub_eq_zero_of_le hle)
    · have hretry := hr.retryable
      rw [drives.policy, hf] at hretry
      cases hretry
  · rw [← hlate, hd]
    rfl

/-- After an invocation the loop goes the way of the course: by induction on the course, whose rules
have the guards of the loop. -/
theorem after_course (drives : p.Drives e) {left : Nat} (course : Course e id left c s t)
    (hn : 1 ≤ n) (hc : c = p.continuation n) (hleft : left = p.policy.maxAttempts.toNat - n)
    (h : p.Before name id n now cancelled s) (hroom : ∀ k, s.room k = p.decision (n + k))
    (hlt : (p.loop n now cancelled).time < Instant.limit) :
    p.After name id n (p.loop n now cancelled) s t := by
  induction course generalizing n now cancelled with
  | @cancelled left c s hb =>
    subst hc
    have htrue : cancelled = true := h.isCancelled.symm.trans hb
    subst htrue
    rw [loop_cancelled]
    obtain ⟨k, rfl⟩ : ∃ k, n = k + 1 := ⟨n - 1, by omega⟩
    refine .of_settled h rfl rfl rfl ?_
    rw [Nat.add_sub_cancel, Nat.sub_self]
    rfl
  | @succeeded left c s v hb hi =>
    subst hc
    obtain ⟨rfl, hnow, hresult, hinvoked, hattempts⟩ := h.made hn hb hlt
    rw [loop_value (result_value (hresult.symm.trans hi))]
    refine .of_settled hinvoked rfl rfl rfl ?_
    rw [Nat.add_sub_cancel_left]
    exact hattempts
  | @failed left c s ending hb why =>
    subst hc hleft
    -- The verdict ends after this invocation, so the clock can be read there.
    obtain ⟨rfl, hnow, hresult, hinvoked, hattempts⟩ := h.made hn hb hlt
    rw [loop_fatal drives h hn hnow why]
    exact .of_failed ending hinvoked hnow hattempts
  | @unscheduled left c s f handling refusal hb hr cause ha hh =>
    subst hc hleft
    obtain ⟨rfl, hnow, hresult, hinvoked, hattempts⟩ := h.made hn hb hlt
    obtain ⟨hf, hretry, hlate⟩ := loop_retries drives h hn hnow hr
    obtain ⟨hasked, -⟩ := drives.asked (p.continuation n) hroom
    obtain ⟨rfl, rfl⟩ := Prod.mk.inj (hasked.symm.trans ha)
    rw [loop_unscheduled hf hretry hlate hh]
    exact .of_failed _ hinvoked.asked hnow hattempts
  | @stalled left c s f pause contained refusal fault hb hr ha hp =>
    subst hc hleft
    obtain ⟨rfl, hnow, hresult, hinvoked, hattempts⟩ := h.made hn hb hlt
    obtain ⟨hf, hretry, hlate⟩ := loop_retries drives h hn hnow hr
    obtain ⟨hasked, -⟩ := drives.asked (p.continuation n) hroom
    obtain ⟨hrun, -⟩ := Prod.mk.inj (hasked.symm.trans ha)
    -- The loop goes on after the pause, so there is time for the pause.
    rw [loop_run hf hretry hlate hrun] at hlt
    have htime := Nat.lt_of_le_of_lt (le_loop_time _ _ _) hlt
    obtain ⟨clock, hadvance, -⟩ := Clock.advance_of_lt (c := (e.asked id (p.continuation n) s).1.clock)
      (d := pause.getD .zero) (by rw [hinvoked.asked.clock]; exact htime)
    cases hp.symm.trans hadvance
  | @held left c s f hb hr ha =>
    -- A decision is to run, to refuse or to drop, never to hold.
    subst hc
    obtain ⟨hasked, -⟩ := drives.asked (p.continuation n) hroom
    obtain ⟨hh, hn⟩ := Prod.mk.inj (hasked.symm.trans ha)
    exact absurd ⟨hh, hn⟩ (p.decision n).not_held
  | @again left c s t f pause contained refusal clock hb hr ha hp rest ih =>
    subst hc
    rw [hleft] at hr
    obtain ⟨rfl, hnow, hresult, hinvoked, hattempts⟩ := h.made hn hb hlt
    obtain ⟨hf, hretry, hlate⟩ := loop_retries drives h hn hnow hr
    obtain ⟨hasked, hrest⟩ := drives.asked (p.continuation n) hroom
    obtain ⟨hrun, -⟩ := Prod.mk.inj (hasked.symm.trans ha)
    rw [loop_run hf hretry hlate hrun] at hlt ⊢
    have htime := Nat.lt_of_le_of_lt (le_loop_time _ _ _) hlt
    have hbefore : p.Before name id (n + 1) _ _ (e.asked id (p.continuation n) s).1 :=
      hinvoked.asked
    obtain ⟨clock', hadvance, hclock⟩ :=
      Clock.advance_of_lt (c := (e.asked id (p.continuation n) s).1.clock)
        (d := pause.getD .zero) (by rw [hbefore.clock]; exact htime)
    have heq : clock = clock' := Except.ok.inj (hp.symm.trans hadvance)
    have hlater : clock.elapsed.nanos = now + p.duration n + (pause.getD .zero).nanos := by
      rw [heq, hclock, hbefore.clock]
    have hnext : (p.continuation n).next e.policy = p.continuation (n + 1) := by
      rw [drives.policy]
      exact p.next_continuation hn
    have hafter := ih (by omega) hnext (by omega) (hbefore.of_same rfl rfl hlater) hrest hlt
    exact hafter.of_next (le_loop_invocations _ _ _) hattempts

end Plan

/-! ### A whole call -/

/-- The plan of a call that is started in a state. -/
def Plan.ofCall (e : Engine (Nat → Decision)) (operation : Operation) (options : Options)
    (s : State (Nat → Decision)) : Plan where
  policy := e.policy
  operation := operation
  token := options.token
  budget := options.deadline
  start := s.clock.elapsed.nanos
  decision := fun n => s.room (n - 1)

/-- The verdict of the loop on a call that is started in a state. -/
def verdict (e : Engine (Nat → Decision)) (operation : Operation) (options : Options)
    (s : State (Nat → Decision)) : Verdict :=
  (Plan.ofCall e operation options s).loop 1 s.clock.elapsed.nanos
    (options.token.any s.tokenCancelled)

section

variable {s : State (Nat → Decision)}

theorem deadlineAfter_ofCall (e : Engine (Nat → Decision)) (name : String)
    (operation : Operation) (options : Options) (hr : s.clock.Readable) :
    (s.gated name operation options).deadlineAfter options.deadline =
      .ok (Plan.ofCall e operation options s).deadline := by
  have hclock := State.gated_clock s name operation options
  cases hb : options.deadline with
  | none => simp only [State.deadlineAfter, Plan.deadline, Plan.ofCall, hb, Option.bind_none]
  | some budget =>
    simp only [State.deadlineAfter, Plan.deadline, Plan.ofCall, hb, Option.bind_some, hclock,
      Clock.read_of_readable hr, Except.map, Instant.add?]
    split <;> rfl

/-- Behind the gate the first attempt is about to be made. -/
theorem before_gated (e : Engine (Nat → Decision)) (name : String) (operation : Operation)
    (options : Options) : (Plan.ofCall e operation options s).Before name s.calls.length 1
    s.clock.elapsed.nanos (options.token.any s.tokenCancelled)
    (s.gated name operation options) := by
  obtain ⟨breaker, journal, hl⟩ := State.look_eq (s.enroll name operation options.token)
  have htokens : (s.gated name operation options).tokens =
      (s.enroll name operation options.token).tokens := by rw [State.gated, hl]
  have hcalls := State.gated_calls s name operation options
  refine ⟨State.lt_length_gated s name operation options, State.call_append_last hcalls, ?_, ?_, ?_⟩
  · intro token ht
    have ht : options.token = some token := ht
    rw [htokens, ht]
    exact State.isSome_lookup_addToken s token
  · have hsame (token : String) : (s.gated name operation options).tokenCancelled token =
        (s.enroll name operation options.token).tokenCancelled token := by
      simp only [State.tokenCancelled, htokens]
    cases ht : options.token with
    | none => simp only [Plan.ofCall, ht, Option.any_none]
    | some token =>
      simp only [Plan.ofCall, ht, Option.any_some, hsame]
      exact State.tokenCancelled_addToken s token token
  · rw [State.gated_clock]

/-- A call that the breaker admits is settled as the loop says, after the invocations that the loop
makes and at the time at which it ends, as long as the clock can name that time. -/
theorem execute_eq_loop (e : Engine (Nat → Decision)) (he : e.scheduler = .decided)
    (hv : e.policy.validate = .ok ()) (hj : e.policy.jitterFactor.le 0 = true)
    (name : String) (operation : Operation) (options : Options) (s : State (Nat → Decision))
    (hl : (s.enroll name operation options.token).look.2 = .ok false)
    (ht : (verdict e operation options s).time < Instant.limit) :
    let id := s.calls.length
    let t := (e.execute name operation options s).1
    let v := verdict e operation options s
    (t.call id).delivered = [v.outcome] ∧ (t.call id).waiting = none ∧
      (t.call id).invocations = v.invocations ∧
      t.attemptsOf id = (List.range' 1 v.invocations).reverse ++ s.attemptsOf id ∧
      t.clock.elapsed.nanos = v.time := by
  intro id t v
  have hr : s.clock.Readable := Nat.lt_of_le_of_lt (Plan.le_loop_time _ _ _) ht
  have hd := deadlineAfter_ofCall e name operation options hr
  have drives : (Plan.ofCall e operation options s).Drives e := ⟨rfl, he, hv, hj⟩
  have hroom (k : Nat) : (s.gated name operation options).room k =
      (Plan.ofCall e operation options s).decision (1 + k) := by
    rw [State.gated_room]
    exact congrArg s.room (Nat.add_sub_cancel_left 1 k).symm
  have course := run_course e id (e.policy.maxAttempts.toNat - 1)
    (.first e.policy (Plan.ofCall e operation options s).deadline)
    (s.gated name operation options)
  have after := Plan.after_course drives course (Nat.le_refl 1) rfl rfl
    (before_gated e name operation options) hroom ht
  have hattempts := after.attempts
  rw [State.attemptsOf_gated] at hattempts
  have hexecute : t = _ := execute_of_admitted (e := e) hl hd
  dsimp only at hexecute
  split at hexecute
  · -- The handle is taken away, and nothing else is written.
    have hm := State.unmoved_dropHandle (e.run id (e.policy.maxAttempts.toNat - 1)
      (.first e.policy (Plan.ofCall e operation options s).deadline)
      (s.gated name operation options)).1 id
    rw [hexecute]
    refine ⟨?_, ?_, ?_, hattempts, after.clock⟩
    · rw [hm.delivered, after.call]
      rfl
    · rw [hm.waiting, after.call]
      rfl
    · rw [hm.invocations, after.call]
      rfl
  · rw [hexecute, after.call]
    exact ⟨rfl, rfl, rfl, hattempts, after.clock⟩

/-- The engine of a plain policy whose scheduler runs the first retry after a second and refuses the
second one. -/
def refusing : Engine (Nat → Decision) :=
  ⟨{ Policy.standard with jitterFactor := 0 }, .decided, fun _ _ => .middle⟩

def refusals : Nat → Decision
  | 0 => .run (some (.ofSeconds 1)) false none
  | _ => .reject false (.saturated 8)

/-- Each invocation takes five milliseconds and fails for want of a connection. -/
def unreachable : Operation := fun _ =>
  ⟨some (.ofMillis 5), none, .failure (.plain .connection "refused")⟩

theorem execute_eq_loop_refused :
    refusing.policy.validate = .ok () ∧ refusing.policy.jitterFactor.le 0 = true ∧
      (verdict refusing unreachable ⟨none, some (.ofSeconds 9)⟩ (initial refusing refusals)).time <
        Instant.limit ∧
      (((refusing.execute "svc" unreachable ⟨none, some (.ofSeconds 9)⟩
        (initial refusing refusals)).1.call 0).delivered =
          [.error (.scheduling 2 (.saturated 8))]) := by
  have hv : refusing.policy.validate = .ok () :=
    ConfigError.firstOf_eq_ok.mpr (by decide +kernel)
  have hj : refusing.policy.jitterFactor.le 0 = true := by decide +kernel
  have hverdict : verdict refusing unreachable ⟨none, some (.ofSeconds 9)⟩
      (initial refusing refusals) = ⟨.error (.scheduling 2 (.saturated 8)), 2, 1010000000⟩ := by
    decide +kernel
  have ht : (verdict refusing unreachable ⟨none, some (.ofSeconds 9)⟩
      (initial refusing refusals)).time < Instant.limit := by
    rw [hverdict]
    decide
  have h := execute_eq_loop refusing rfl hv hj "svc" unreachable ⟨none, some (.ofSeconds 9)⟩
    (initial refusing refusals) rfl ht
  refine ⟨hv, hj, ht, ?_⟩
  rw [hverdict] at h
  exact h.1

end

end Reattempt.Engine
