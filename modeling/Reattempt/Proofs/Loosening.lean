import Reattempt.Proofs.Punctuality
import Reattempt.Proofs.QueuedAgreement

/-!
Looser limits. An engine that allows more attempts, or a call that is given more time, goes on where
the other one gives up, and does the same until then. Of the two runs of one call either both are the
same, or the one with the narrower limits ended in a failure and made no more invocations (`Kept`).
Main statement: `loosening_keeps_success`.

Time passes alike in both runs as long as they do the same, so that a retry that is in time for the
earlier deadline is in time for the later one. A deadline that no instant can name is none. That
the clock is read at the start where a call names a deadline, and not read where it names none, is the
one way in which a looser limit can take a success away (`success_lost_by_deadline`).
-/
namespace Reattempt

/-- The scheduler decides at once about every attempt: it runs it or drops it. -/
def Scheduler.Immediate {Room : Type} (scheduler : Scheduler Room) : Prop :=
  ∀ room r, (scheduler room r).handling ≠ .hold

theorem Scheduler.immediate_inline : Scheduler.inline.Immediate :=
  fun _ _ => Handling.noConfusion

theorem Scheduler.immediate_timed : Scheduler.timed.Immediate :=
  fun _ _ => Handling.noConfusion

namespace Engine

variable {Room : Type} {e : Engine Room} {chance : Nat → Nat → Draw} {s : State Room}
  {id left left' n : Nat} {c c' : Continuation} {f : Failure} {x : Ending}
  {m : UInt32} {r r' : State Room × Option Fault}

/-- The same engine with another number of attempts, and with other draws of chance. -/
def allowing (e : Engine Room) (m : UInt32) (chance : Nat → Nat → Draw) : Engine Room where
  policy := { e.policy with maxAttempts := m }
  scheduler := e.scheduler
  chance

/-- The second deadline of a call started now is not the earlier one; one that no instant can name is
none. -/
def State.Looser (s : State Room) (D D' : Option Duration) : Prop :=
  ∀ budget', D' = some budget' → s.clock.elapsed.nanos + budget'.nanos < Instant.limit →
    ∃ budget, D = some budget ∧ budget ≤ budget'

/-- The same attempt, with a deadline that is not the earlier one. -/
structure Continuation.Within (c c' : Continuation) : Prop where
  attempt : c'.attempt = c.attempt
  backoff : c'.backoff = c.backoff
  deadline : ∀ d', c'.deadline = some d' →
    ∃ d, c.deadline = some d ∧ d.expires.nanos ≤ d'.expires.nanos

/-- Either both runs come to the same, or the first one ended without a value and did not invoke the
operation more often. -/
def Kept (id : Nat) (r r' : State Room × Option Fault) : Prop :=
  r' = r ∨ (∀ v, .ok v ∉ (r.1.call id).delivered) ∧
    (r.1.call id).invocations ≤ (r'.1.call id).invocations

theorem Kept.throwing (h : Kept id r r') (g : Option Fault → Option Fault) :
    Kept id (r.1, g r.2) (r'.1, g r'.2) := by
  rcases h with rfl | h
  · exact .inl rfl
  · exact .inr h

/-! ### An attempt -/

theorem settleHanded_dropped (s : State Room) (id : Nat) (refusal : Option ScheduleError)
    (hn : c'.attempt = c.attempt) :
    settleHanded s id c' false refusal = settleHanded s id c false refusal := by
  cases refusal with
  | none => simp only [settleHanded, State.abandon, hn, Bool.false_eq_true, ↓reduceIte]
  | some cause => simp only [settleHanded, hn]

theorem misses_of_within (within : c.Within c') {delay : Duration}
    (h : s.misses c.deadline delay = .ok none) : s.misses c'.deadline delay = .ok none := by
  cases hd' : c'.deadline with
  | none => rfl
  | some d' =>
    obtain ⟨d, hd, hle⟩ := within.deadline d' hd'
    rw [hd] at h
    have htime := misses_eq_none_iff.mp h
    exact misses_eq_none_iff.mpr (by omega)

/-- Whoever allows more goes on at least until the failure. -/
theorem kept_of_failed {e' : Engine Room} (hid : id < s.calls.length)
    (hpending : (s.call id).delivered = []) (hc : s.isCancelled id = false)
    (hr : r.1 = (s.invoked id n).failed id x) : Kept id r (e'.run id left' c' s) := by
  have hinvoked := State.call_of_modify (State.invoked_calls s id n) hid
  have hlen := State.length_of_modify (State.invoked_calls s id n)
  refine .inr ⟨?_, ?_⟩
  · intro v hv
    rw [hr] at hv
    obtain ⟨-, hfailure⟩ := State.eq_of_failed (hlen ▸ hid)
      ((congrArg Call.delivered hinvoked).trans hpending) hv
    cases hfailure
  · rw [hr, failed_invocations, hinvoked]
    rcases (run_course e' id left' c' s).progress hid with hlt | ⟨hcancelled, -⟩
    · exact hlt
    · rw [hc] at hcancelled
      cases hcancelled

theorem within_next (within : c.Within c') :
    (c.next e.policy).Within (c'.next (e.allowing m chance).policy) where
  attempt := congrArg (· + 1) within.attempt
  backoff := congrArg e.policy.nextBackoff within.backoff
  deadline := within.deadline

section

variable (hj : e.policy.jitterFactor.le 0 = true)
include hj

theorem delay_allowing (within : c.Within c') (id : Nat) :
    (e.allowing m chance).delay id c' = e.delay id c := by
  have hbase : c'.backoff = c.backoff := within.backoff
  simp only [delay, allowing, Policy.applyJitter, hj, Bool.true_or, ↓reduceIte, hbase]

theorem retries_allowing (within : c.Within c') (hleft : left ≤ left')
    (hr : Retries e id left c s f) : Retries (e.allowing m chance) id left' c' s f where
  failed := within.attempt ▸ hr.failed
  allowed := by
    have hn := hr.allowed
    omega
  retryable := hr.retryable
  inTime := by
    rw [delay_allowing hj within, within.attempt]
    exact misses_of_within within hr.inTime

theorem asked_allowing (within : c.Within c') (id : Nat) (s : State Room) :
    (e.allowing m chance).asked id c' s = e.asked id c s := by
  simp only [asked, counted, hand, delay_allowing hj within, within.attempt, Continuation.next]
  rfl

/-- An attempt with looser limits, and all that are run because of it. -/
theorem run_loosened (immediate : e.scheduler.Immediate) (within : c.Within c')
    (hleft : left ≤ left') (hid : id < s.calls.length) (hpending : (s.call id).delivered = []) :
    Kept id (e.run id left c s) ((e.allowing m chance).run id left' c' s) := by
  -- On the attempts left: a retry is the same in both runs and is run with one fewer.
  induction left using Nat.strongRecOn generalizing left' c c' s with
  | ind left ih =>
  rcases ends_or_retries e id left c s with ⟨r, ends⟩ | ⟨hc, f, hr⟩
  · rw [ends.run_eq]
    cases ends with
    | cancelled hc =>
      rw [run_of_cancelled hc, within.attempt]
      exact .inl rfl
    | succeeded hc hi =>
      rw [run_of_value hc (within.attempt ▸ hi), within.attempt]
      exact .inl rfl
    | panicked hc hi =>
      rw [run_of_panic hc (within.attempt ▸ hi), within.attempt]
      exact .inl rfl
    | @refused f hc hi hr => exact kept_of_failed hid hpending hc rfl
    | @late f d hc hi hl hr hm => exact kept_of_failed hid hpending hc rfl
    | untimed hc hi hl hr hm => exact kept_of_failed hid hpending hc (State.unwind_fst ..)
  · obtain ⟨k, rfl⟩ := Nat.exists_eq_succ_of_ne_zero hr.allowed
    obtain ⟨k', rfl⟩ : ∃ k', left' = k' + 1 := ⟨left' - 1, by omega⟩
    have hr' : Retries (e.allowing m chance) id (k' + 1) c' s f :=
      retries_allowing hj within hleft hr
    rw [run_of_retries hc hr, run_of_retries hc hr', asked_allowing hj within]
    have hhandling : (e.asked id c s).2.1 ≠ .hold := immediate _ _
    have hcall := call_asked (e := e) hid c
    have hlen := State.length_of_modify (asked_calls e id c s)
    have hroom : (counted id c' s).room = (counted id c s).room := by
      rw [counted_room, counted_room]
    rcases ha : e.asked id c s with ⟨t, handling, refusal⟩
    rw [ha] at hhandling hcall hlen
    cases handling with
    | hold => exact absurd rfl hhandling
    | drop => exact .inl (settleHanded_dropped t id refusal (within_next within).attempt)
    | run pause contained =>
      simp only [answered]
      cases hp : t.clock.advance (pause.getD .zero) with
      | error fault =>
        rw [hroom, within.attempt]
        exact .inl rfl
      | ok clock =>
        have next : (c.next e.policy).Within (c'.next (e.allowing m chance).policy) :=
          within_next within
        have rest := ih k (Nat.lt_succ_self k) next (Nat.le_of_succ_le_succ hleft)
          (s := t.withClock clock) (hlen ▸ hid) ((congrArg Call.delivered hcall).trans hpending)
        exact rest.throwing fun fault => if contained then Fault.contain fault else fault

end

/-! ### A call -/

/-- What the start of a call makes of its first attempt. -/
def begun (id : Nat) : State Room × Option Fault → State Room × Option Fault
  | (s, some fault) => (s.dropHandle id, some fault)
  | (s, none) => (s, none)

theorem Kept.begun (h : Kept id r r') : Kept id (begun id r) (Engine.begun id r') := by
  -- A handle that is dropped takes neither outcomes nor invocations away.
  have hpart {α : Type} (part : Call → α)
      (hf : ∀ c : Call, part { c with cancelled := true, handle := .gone } = part c)
      (r : State Room × Option Fault) :
      part ((Engine.begun id r).1.call id) = part (r.1.call id) := by
    rcases r with ⟨s, _ | fault⟩
    · rfl
    · exact State.part_of_modify (s := s) part rfl hf id
  rcases h with rfl | ⟨hfailed, hle⟩
  · exact .inl rfl
  · refine .inr ⟨?_, ?_⟩
    · rw [hpart Call.delivered fun _ => rfl]
      exact hfailed
    · rw [hpart Call.invocations fun _ => rfl, hpart Call.invocations fun _ => rfl]
      exact hle

theorem within_first {D D' : Option Duration} {d d' : Option Deadline} (loose : s.Looser D D')
    (hd : s.deadlineAfter D = .ok d) (hd' : s.deadlineAfter D' = .ok d') :
    (Continuation.first e.policy d).Within (.first (e.allowing m chance).policy d') where
  attempt := rfl
  backoff := rfl
  deadline := fun later hlater => by
    have hlater : d' = some later := hlater
    rw [hlater] at hd'
    obtain ⟨budget', hD', -, hexpires⟩ := eq_of_deadlineAfter hd'
    -- The later deadline is an instant, and so is the earlier one.
    have hend' : s.clock.elapsed.nanos + budget'.nanos < Instant.limit :=
      hexpires ▸ later.expires.nanos_lt
    obtain ⟨budget, hD, hle⟩ := loose budget' hD' hend'
    have hle : budget.nanos ≤ budget'.nanos := hle
    have hend : s.clock.elapsed.nanos + budget.nanos < Instant.limit := by omega
    rw [hD, deadlineAfter_of_lt hend] at hd
    cases hd
    refine ⟨s.deadlineAt budget hend, rfl, ?_⟩
    show s.clock.elapsed.nanos + budget.nanos ≤ _
    omega

/-- A deadline that is looser can be had where the narrower one could, unless the clock is read for
the first time. -/
theorem deadlineAfter_of_ok {D D' : Option Duration} {d : Option Deadline}
    (hstart : D = none → D' ≠ none → s.clock.Readable) (hd : s.deadlineAfter D = .ok d) :
    ∃ d', s.deadlineAfter D' = .ok d' := by
  cases hd' : s.deadlineAfter D' with
  | ok d' => exact ⟨d', rfl⟩
  | error fault =>
    have hunread := State.not_readable_of_deadlineAfter hd'
    cases D with
    | none =>
      have hD' : D' ≠ none := by
        rintro rfl
        cases hd'
      exact absurd (hstart rfl hD') hunread
    | some budget =>
      rw [State.deadlineAfter, Clock.read_of_not_readable hunread] at hd
      cases hd

theorem execute_loosened (hj : e.policy.jitterFactor.le 0 = true)
    (immediate : e.scheduler.Immediate) (hm : e.policy.maxAttempts ≤ m) (name : String)
    (operation : Operation) (token : Option String) {D D' : Option Duration}
    (loose : s.Looser D D') (hstart : D = none → D' ≠ none → s.clock.Readable) :
    Kept s.calls.length (e.execute name operation ⟨token, D⟩ s)
      ((e.allowing m chance).execute name operation ⟨token, D'⟩ s) := by
  have hknown := State.lt_length_gated s name operation ⟨token, D⟩
  have hcall := State.call_append_last (State.gated_calls s name operation ⟨token, D⟩)
  have hgated := deadlineAfter_gated (s := s) name operation ⟨token, D⟩
  unfold execute
  -- The gate is the same for both calls, and so is everything up to the deadline.
  rcases hlook : (s.enroll name operation token).look with ⟨t, fault | isOpen⟩
  · exact .inl rfl
  cases isOpen with
  | true => exact .inl rfl
  | false =>
    have ht : s.gated name operation ⟨token, D⟩ = t := congrArg Prod.fst hlook
    rw [ht] at hknown hcall hgated
    dsimp only
    rw [hgated, hgated]
    cases hd : s.deadlineAfter D with
    | error fault =>
      -- The call with the narrower limits ends here, without an invocation.
      have hdropped := State.call_of_modify (t := t.dropHandle s.calls.length) rfl hknown
      refine .inr ⟨?_, ?_⟩
      · intro v hv
        rw [hdropped, hcall] at hv
        cases hv
      · rw [hdropped, hcall]
        exact Nat.zero_le _
    | ok d =>
      obtain ⟨d', hd'⟩ := deadlineAfter_of_ok hstart hd
      rw [hd']
      have hleft : e.policy.maxAttempts.toNat - 1 ≤ m.toNat - 1 :=
        Nat.sub_le_sub_right (UInt32.le_iff_toNat_le.mp hm) 1
      have first : (Continuation.first e.policy d).Within
          (.first (e.allowing m chance).policy d') := within_first loose hd hd'
      exact (run_loosened hj immediate first hleft hknown (congrArg Call.delivered hcall)).begun

/-- Looser limits never lose a success: a call that succeeds comes to the same when more attempts are
allowed and its deadline is later, after the same invocations and the same waits; and in any case it
makes no fewer invocations. -/
theorem loosening_keeps_success (hj : e.policy.jitterFactor.le 0 = true)
    (immediate : e.scheduler.Immediate) (hm : e.policy.maxAttempts ≤ m)
    (chance : Nat → Nat → Draw) (s : State Room) (name : String) (operation : Operation)
    (token : Option String) {D D' : Option Duration} (loose : s.Looser D D')
    (hstart : D = none → D' ≠ none → s.clock.Readable) :
    let id := s.calls.length
    let r := e.execute name operation ⟨token, D⟩ s
    let r' := (e.allowing m chance).execute name operation ⟨token, D'⟩ s
    (∀ v, .ok v ∈ (r.1.call id).delivered → r' = r) ∧
    (r.1.call id).invocations ≤ (r'.1.call id).invocations := by
  intro id r r'
  have kept : Kept id r r' := execute_loosened hj immediate hm name operation token loose hstart
  rcases kept with heq | ⟨hfailed, hle⟩
  · refine ⟨fun _ _ => heq, ?_⟩
    apply Nat.le_of_eq
    exact congrArg (fun r => (r.1.call id).invocations) heq.symm
  · exact ⟨fun v hv => absurd hv (hfailed v), hle⟩

/-- A call that recovers within its two seconds comes to the same with nine attempts and nine seconds. -/
theorem loosening_keeps_success_recovered :
    let e : Engine (List Duration) := ⟨steady, .timed, fun _ _ => .middle⟩
    let recovering : Operation := .ofScript ⟨none, none, .failure (.plain .connection "refused")⟩
      [⟨none, none, .value 7⟩]
    let s := initial e []
    let r := e.execute "svc" recovering ⟨none, some (.ofSeconds 2)⟩ s
    let r' := (e.allowing 9 fun _ _ => .middle).execute "svc" recovering
      ⟨none, some (.ofSeconds 9)⟩ s
    steady.jitterFactor.le 0 = true ∧ e.scheduler.Immediate ∧ steady.maxAttempts ≤ 9 ∧
    s.Looser (some (.ofSeconds 2)) (some (.ofSeconds 9)) ∧
    (r.1.call 0).delivered = [.ok 7] ∧ r.1.room = [.ofMillis 1000] ∧ r' = r := by
  intro e recovering s r r'
  have hj : steady.jitterFactor.le 0 = true := by decide +kernel
  have hm : steady.maxAttempts ≤ 9 := by decide
  have loose : s.Looser (some (.ofSeconds 2)) (some (.ofSeconds 9)) := by
    intro budget' h _
    cases h
    exact ⟨.ofSeconds 2, rfl, by decide⟩
  have hdelivered : (r.1.call 0).delivered = [.ok 7] := by decide +kernel
  obtain ⟨same, -⟩ := loosening_keeps_success (e := e) hj Scheduler.immediate_timed hm
    (fun _ _ => .middle) s "svc" recovering none loose fun h => nomatch h
  refine ⟨hj, Scheduler.immediate_timed, hm, loose, hdelivered, by decide +kernel, ?_⟩
  exact same 7 (hdelivered ▸ List.mem_cons_self)

/-- On a clock that shows no instant a call without a deadline can succeed. The same call with a
deadline, which no instant can name and which is none therefore, ends in a fault before its first
invocation. -/
theorem success_lost_by_deadline :
    ¬ ∀ (e : Engine (List Duration)) (m : UInt32) (chance : Nat → Nat → Draw)
      (s : State (List Duration)) (name : String) (operation : Operation) (token : Option String)
      (D D' : Option Duration), e.policy.jitterFactor.le 0 = true → e.scheduler.Immediate →
        e.policy.maxAttempts ≤ m → s.Looser D D' → ∀ v,
          .ok v ∈ ((e.execute name operation ⟨token, D⟩ s).1.call s.calls.length).delivered →
            .ok v ∈ (((e.allowing m chance).execute name operation ⟨token, D'⟩ s).1.call
              s.calls.length).delivered := by
  intro all
  let e := inlined { steady with breakerEnabled := false } fun _ _ => .middle
  let s := (initial e []).setElapsed (.ofSeconds (2 ^ 64 - 1))
  have loose : s.Looser none (some (.ofSeconds 1)) := by
    intro budget' h hend
    cases h
    exact absurd hend (by decide)
  have hlost : Except.ok 7 ∉ (((e.allowing 3 fun _ _ => .middle).execute "svc"
      (fun _ => ⟨none, none, .value 7⟩) ⟨none, some (.ofSeconds 1)⟩ s).1.call 0).delivered := by
    decide
  apply hlost
  exact all e 3 (fun _ _ => .middle) s "svc" (fun _ => ⟨none, none, .value 7⟩) none none
    (some (.ofSeconds 1)) (by decide +kernel) Scheduler.immediate_inline (by decide) loose 7
    (by decide)

end Engine

end Reattempt
