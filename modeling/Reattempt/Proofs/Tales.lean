import Reattempt.Proofs.Cancellation
import Reattempt.Proofs.QueuedAgreement
import Reattempt.Proofs.ReferenceLoop

/-!
What happens in a call, told step by step and without its time: invocations, requests for retries and
the outcome. `Plan.steps` says from the script of a call alone which steps these are, and
`Course.follows` that an attempt of the call goes on as the script says, whatever else happens to the
engine, if the queue takes every retry and no deadline is set.

Two things from outside can still be seen: the call may be cancelled, and the clock may stand so late
that it cannot be moved by the time that an invocation takes.
-/
namespace Reattempt

namespace Clock

theorem advance_of_le {c : Clock} {d : Duration}
    (h : c.elapsed.nanos + d.nanos ≤ Duration.maxNanos) :
    ∃ t, c.advance d = .ok t ∧ t.elapsed.nanos = c.elapsed.nanos + d.nanos := by
  refine ⟨⟨⟨_, h⟩⟩, ?_, rfl⟩
  simp only [Clock.advance, Duration.add?, h, ↓reduceDIte]

end Clock

namespace Response

theorem eq_value {r : Response} {v : Int} (h : r.result = .ok (.ok v)) :
    r = .value v := by
  cases r with
  | value v' =>
    cases h
    rfl
  | failure f => cases h
  | panic message => cases h

theorem eq_failure {r : Response} {f : Failure} (h : r.result = .ok (.error f)) :
    r = .failure f := by
  cases r with
  | value v => cases h
  | failure f' =>
    cases h
    rfl
  | panic message => cases h

theorem eq_panic {r : Response} {fault : Fault} (h : r.result = .error fault) :
    ∃ message, r = .panic message := by
  cases r with
  | value v => cases h
  | failure f => cases h
  | panic message => exact ⟨message, rfl⟩

end Response

/-- The queue has no capacity and was not shut down. -/
structure Queue.Unbounded {α : Type} (q : Queue α) : Prop where
  capacity : q.capacity = none
  open_ : q.stopped = false

theorem Queue.Unbounded.refusal? {α : Type} {q : Queue α} (h : q.Unbounded) :
    q.refusal? = none := by
  simp only [Queue.refusal?, h.capacity, h.open_, Bool.false_eq_true, ↓reduceIte,
    Option.bind_none]

namespace Engine

/-- One thing that happens in a call. -/
inductive Step where
  | invoked (attempt : Nat)
  | requested (attempt : Nat) (delay : Duration)
  | settled (outcome : Outcome)
  deriving DecidableEq

/-- The outcome that a step hands over. -/
def Step.outcome? : Step → Option Outcome
  | settled o => some o
  | _ => none

/-- The step of its call that an event tells of. -/
def Event.step? : Event → Option Step
  | looked | reset => none
  | invoked _ attempt => some (.invoked attempt)
  | requested r => some (.requested r.attempt r.delay)
  | settled _ o => some (.settled o)

variable {Room : Type}

/-- What happened in a call, oldest first. -/
def State.tale (s : State Room) (id : Nat) : List Step :=
  ((s.about id).filterMap (·.event.step?)).reverse

/-! ### The script of a call -/

/-- The plan of a call without a deadline, every retry of which is run. -/
def Plan.lone (policy : Policy) (operation : Operation) (token : Option String) : Plan :=
  ⟨policy, operation, token, none, 0, fun _ => .run none false none⟩

namespace Plan

/-- The steps of a call that is left alone, from an attempt on; `base` is that of the wait after it.
Without jitter any draw of chance will do. -/
def steps (p : Plan) (n : Nat) (base : Duration) (cancelled : Bool) : List Step :=
  if cancelled then [.settled (.error (.cancelled (n - 1)))]
  else
    .invoked n :: match (p.operation (n - 1)).response with
      | .value v => [.settled (.ok v)]
      | .panic _ => [.settled (.error (.operationPanicked n))]
      | .failure f =>
        if p.policy.maxAttempts.toNat ≤ n ∨ p.policy.shouldRetry f = false then
          [.settled (.error (.operation n f))]
        else
          .requested (n + 1) (p.policy.applyJitter .middle base) ::
            p.steps (n + 1) (p.policy.nextBackoff base) (p.cancels n)
termination_by p.policy.maxAttempts.toNat - n

/-- All steps of the call. -/
def wholeTale (p : Plan) : List Step := p.steps 1 p.policy.initialDelay false

variable {p : Plan} {n : Nat} {base : Duration} {f : Failure}

theorem steps_cancelled : p.steps n base true = [.settled (.error (.cancelled (n - 1)))] := by
  rw [steps]
  rfl

theorem steps_value {v : Int} (h : (p.operation (n - 1)).response = .value v) :
    p.steps n base false = [.invoked n, .settled (.ok v)] := by
  rw [steps]
  simp only [Bool.false_eq_true, ↓reduceIte, h]

theorem steps_panic {message : String} (h : (p.operation (n - 1)).response = .panic message) :
    p.steps n base false = [.invoked n, .settled (.error (.operationPanicked n))] := by
  rw [steps]
  simp only [Bool.false_eq_true, ↓reduceIte, h]

theorem steps_refused (h : (p.operation (n - 1)).response = .failure f)
    (hr : p.policy.maxAttempts.toNat ≤ n ∨ p.policy.shouldRetry f = false) :
    p.steps n base false = [.invoked n, .settled (.error (.operation n f))] := by
  rw [steps]
  simp only [Bool.false_eq_true, ↓reduceIte, h, if_pos hr]

theorem steps_retried (h : (p.operation (n - 1)).response = .failure f)
    (hr : ¬ (p.policy.maxAttempts.toNat ≤ n ∨ p.policy.shouldRetry f = false)) :
    p.steps n base false = .invoked n :: .requested (n + 1) (p.policy.applyJitter .middle base) ::
      p.steps (n + 1) (p.policy.nextBackoff base) (p.cancels n) := by
  rw [steps]
  simp only [Bool.false_eq_true, ↓reduceIte, h, if_neg hr]

end Plan

/-! ### The tale goes on -/

variable {s t : State Room} {id left n : Nat} {c : Continuation} {x : Plan} {lone : Prop}

theorem tale_cons {entry : Entry} {step : Step} (h : t.journal = entry :: s.journal)
    (hid : entry.event.call? = some id) (hs : entry.event.step? = some step) :
    t.tale id = s.tale id ++ [step] := by
  rw [State.tale, about_cons_self h hid, List.filterMap_cons, hs]
  exact List.reverse_cons

theorem tale_congr (h : t.about id = s.about id) : t.tale id = s.tale id := by
  rw [State.tale, h, State.tale]

theorem tale_invoked (s : State Room) (id n : Nat) :
    (s.invoked id n).tale id = s.tale id ++ [.invoked n] :=
  tale_cons (State.invoked_journal s id n) rfl rfl

theorem tale_deliver (s : State Room) (id : Nat) (o : Outcome) :
    (s.deliver id o).tale id = s.tale id ++ [.settled o] := tale_cons rfl rfl rfl

theorem tale_asked (e : Engine Room) (id : Nat) (c : Continuation) (s : State Room) :
    (e.asked id c s).1.tale id =
      s.tale id ++ [.invoked c.attempt, .requested (c.attempt + 1) (e.delay id c)] := by
  have hcounted : (counted id c s).tale id = s.tale id ++ [.invoked c.attempt] :=
    tale_invoked s id c.attempt
  have hrequested : (e.asked id c s).1.tale id =
      (counted id c s).tale id ++ [.requested (c.attempt + 1) (e.delay id c)] :=
    tale_cons rfl rfl rfl
  rw [hrequested, hcounted, List.append_assoc]
  rfl

/-- An operation that cancels the token of its call cancels the call, and nothing else does. -/
theorem isCancelled_invoked {clock : Clock} (hid : id < s.calls.length) (listed : s.Listed id)
    (hc : s.clock.advance
      (((s.call id).operation (s.call id).invocations).advance.getD .zero) = .ok clock) :
    (s.invoked id n).isCancelled id = (s.isCancelled id || (s.call id).token.any fun token =>
      ((s.call id).operation (s.call id).invocations).cancel == some token) := by
  obtain ⟨-, -, htokens⟩ := State.invoke_of_advance (n := n) rfl hc
  have hcall := State.call_of_modify (State.invoked_calls s id n) hid
  have hcancelled (token : String) : (s.invoked id n).tokenCancelled token =
      ((((s.call id).operation (s.call id).invocations).cancel).elim s
        s.cancelToken).tokenCancelled token := by
    simp only [State.tokenCancelled, htokens]
  simp only [State.isCancelled, hcall]
  cases ht : (s.call id).token with
  | none => simp only [Option.any_none, Bool.or_false]
  | some token =>
    simp only [Option.any_some, hcancelled, Bool.or_assoc]
    cases ((s.call id).operation (s.call id).invocations).cancel with
    | none => exact congrArg _ (Bool.or_false _).symm
    | some other =>
      have hlisted := listed token ht
      simp only [Option.elim, State.tokenCancelled_cancelToken other hlisted]
      congr 2
      exact Bool.beq_comm ..

/-! ### An attempt in hand -/

/-- The call is about to make an attempt, and the steps so far and those to come are all its steps.
In a `lone` run nobody but its own operation cancels it. -/
structure Along (x : Plan) (lone : Prop) (id : Nat) (c : Continuation) (s : State Room) :
    Prop where
  known : id < s.calls.length
  operation : (s.call id).operation = x.operation
  token : (s.call id).token = x.token
  listed : s.Listed id
  pending : (s.call id).delivered = []
  number : c.attempt = (s.call id).invocations + 1
  free : c.deadline = none
  silent : (s.tale id).filterMap Step.outcome? = []
  told : ∃ cancelled, (cancelled = true → s.isCancelled id = true) ∧
    (lone → s.isCancelled id = true → cancelled = true) ∧
    s.tale id ++ x.steps c.attempt c.backoff cancelled = x.wholeTale

/-- An admitted call between two actions: it has made the first steps of its script, and all of them
once it is settled, unless somebody cancelled it. -/
structure Follows (x : Plan) (lone : Prop) (id : Nat) (s : State Room) : Prop where
  waits : ∀ c, (s.call id).waiting = some c → Along x lone id c s
  outcomes : (s.call id).delivered = (s.tale id).filterMap Step.outcome?
  told : s.tale id <+: x.wholeTale ∧ ((s.call id).delivered ≠ [] → s.tale id = x.wholeTale) ∨
    ¬ lone ∧ (∃ n, (s.call id).delivered = [.error (.cancelled n)]) ∧ s.isCancelled id = true

theorem Along.of_later (h : Along x lone id c s) (later : s.Later t)
    (hkept : lone → t.isCancelled id = s.isCancelled id)
    (hd : (t.call id).delivered = (s.call id).delivered)
    (hi : (t.call id).invocations = (s.call id).invocations)
    (ha : t.about id = s.about id) : Along x lone id c t where
  known := Nat.lt_of_lt_of_le h.known later.length
  operation := (later.calls id h.known).operation.trans h.operation
  token := (later.calls id h.known).token.trans h.token
  listed := h.listed.later h.known later
  pending := hd.trans h.pending
  number := by
    rw [hi]
    exact h.number
  free := h.free
  silent := by
    rw [tale_congr ha]
    exact h.silent
  told := by
    obtain ⟨cancelled, hcancelled, hlone, htold⟩ := h.told
    refine ⟨cancelled, fun hc => later.isCancelled (hcancelled hc), fun hl hc => ?_, ?_⟩
    · rw [hkept hl] at hc
      exact hlone hl hc
    · rw [tale_congr ha]
      exact htold

theorem Along.play (h : Along x lone id c s) : (s.call id).operation (s.call id).invocations =
    x.operation (c.attempt - 1) := by
  rw [h.operation, h.number, Nat.add_sub_cancel]

theorem Along.uncancelled (h : Along x lone id c s) (hc : s.isCancelled id = false) :
    s.tale id ++ x.steps c.attempt c.backoff false = x.wholeTale := by
  obtain ⟨cancelled, hcancelled, -, htold⟩ := h.told
  cases cancelled with
  | false => exact htold
  | true =>
    rw [hcancelled rfl] at hc
    cases hc

/-- An invocation whose time can pass responds as the script says. -/
theorem Along.invoked (h : Along x lone id c s)
    (hpace : s.clock.elapsed.nanos + x.duration c.attempt ≤ Duration.maxNanos) :
    (s.invoke id c.attempt).2 = (x.operation (c.attempt - 1)).response.result ∧
      (s.invoked id c.attempt).isCancelled id = (s.isCancelled id || x.cancels c.attempt) ∧
      (s.invoked id c.attempt).clock.elapsed.nanos =
        s.clock.elapsed.nanos + x.duration c.attempt := by
  obtain ⟨clock, hadvance, helapsed⟩ := Clock.advance_of_le hpace
  obtain ⟨hresult, hclock, -⟩ := State.invoke_of_advance (n := c.attempt) h.play hadvance
  refine ⟨hresult, ?_, ?_⟩
  · rw [← h.play] at hadvance
    rw [isCancelled_invoked h.known h.listed hadvance, h.play, h.token]
    rfl
  · rw [hclock, helapsed]
    rfl

/-- The last step of a call hands it its outcome. -/
theorem Along.settled (h : Along x lone id c s) {o : Outcome} {made : List Step}
    (hd : (t.call id).delivered = [o]) (hw : (t.call id).waiting = none)
    (htale : t.tale id = s.tale id ++ (made ++ [.settled o]))
    (hmade : made.filterMap Step.outcome? = [])
    (hsteps : s.tale id ++ (made ++ [.settled o]) = x.wholeTale) : Follows x lone id t where
  waits := fun c hc => nomatch hw.symm.trans hc
  outcomes := by
    rw [hd, htale, List.filterMap_append, List.filterMap_append, h.silent, hmade]
    rfl
  told := by
    rw [htale, hsteps]
    exact .inl ⟨List.prefix_refl _, fun _ => rfl⟩

theorem Along.succeeded (h : Along x lone id c s) (hw : (s.call id).waiting = none) {v : Int}
    (hsteps : s.tale id ++ [.invoked c.attempt, .settled (.ok v)] = x.wholeTale) :
    Follows x lone id ((s.invoked id c.attempt).succeed id v) := by
  have hcalls := State.invoked_calls s id c.attempt
  have hcall := State.call_of_modify hcalls h.known
  have hknown : id < (s.invoked id c.attempt).calls.length := by
    rw [State.length_of_modify hcalls]
    exact h.known
  have hsucceeded := State.call_of_modify (State.succeed_calls (s.invoked id c.attempt) id v) hknown
  have htale : ((s.invoked id c.attempt).succeed id v).tale id =
      s.tale id ++ ([.invoked c.attempt] ++ [.settled (.ok v)]) := by
    rw [← List.append_assoc, ← tale_invoked]
    exact tale_deliver (s.invoked id c.attempt).countSuccess id (.ok v)
  apply h.settled _ _ htale rfl hsteps
  · rw [hsucceeded, hcall, h.pending]
    rfl
  · rw [hsucceeded, hcall]
    exact hw

theorem Along.failed (h : Along x lone id c s) (hw : (s.call id).waiting = none) {y : Ending}
    (hsteps : s.tale id ++ [.invoked c.attempt, .settled (.error y)] = x.wholeTale) :
    Follows x lone id ((s.invoked id c.attempt).failed id y) := by
  have hcalls := State.invoked_calls s id c.attempt
  have hcall := State.call_of_modify hcalls h.known
  have hknown : id < (s.invoked id c.attempt).calls.length := by
    rw [State.length_of_modify hcalls]
    exact h.known
  by_cases hdated : (s.invoked id c.attempt).Dated
  · have hfailed := State.call_of_modify (State.failed_calls_of_dated hdated id y) hknown
    have htale : ((s.invoked id c.attempt).failed id y).tale id =
        s.tale id ++ ([.invoked c.attempt] ++ [.settled (.error y)]) := by
      rw [tale_cons (State.failed_journal_of_dated hdated id y) rfl rfl, tale_invoked,
        List.append_assoc]
    apply h.settled (o := .error y) _ _ htale rfl hsteps
    · rw [hfailed, hcall, h.pending]
      rfl
    · rw [hfailed, hcall]
      exact hw
  · -- The failure is counted and not handed over, so that the last step of the script is missing.
    have hfailed := State.call_congr (State.failed_calls_of_not_dated hdated id y) id
    have htale : ((s.invoked id c.attempt).failed id y).tale id =
        s.tale id ++ [.invoked c.attempt] := by
      rw [← tale_invoked]
      apply tale_congr
      apply State.about_congr
      rw [State.failed_of_not_dated hdated, State.countFailure_fst]
    have hdelivered : (((s.invoked id c.attempt).failed id y).call id).delivered = [] := by
      rw [hfailed, hcall]
      exact h.pending
    refine ⟨fun c hc => ?_, ?_, .inl ⟨?_, fun hn => absurd hdelivered hn⟩⟩
    · rw [hfailed, hcall] at hc
      exact nomatch hw.symm.trans hc
    · rw [hdelivered, htale, List.filterMap_append, h.silent]
      rfl
    · rw [htale, ← hsteps, List.prefix_append_right_inj]
      exact ⟨[.settled (.error y)], rfl⟩

theorem Along.cancelled (h : Along x lone id c s) (hw : (s.call id).waiting = none)
    (hc : s.isCancelled id = true) :
    Follows x lone id (s.deliver id (.error (.cancelled (c.attempt - 1)))) := by
  have hcall := State.call_of_modify
    (State.deliver_calls s id (.error (.cancelled (c.attempt - 1)))) h.known
  have hdelivered : ((s.deliver id (.error (.cancelled (c.attempt - 1)))).call id).delivered =
      [.error (.cancelled (c.attempt - 1))] := by
    rw [hcall, h.pending]
    rfl
  have hwaiting : ((s.deliver id (.error (.cancelled (c.attempt - 1)))).call id).waiting = none := by
    rw [hcall]
    exact hw
  have htale := tale_deliver s id (.error (.cancelled (c.attempt - 1)))
  obtain ⟨cancelled, -, hlone, htold⟩ := h.told
  cases cancelled with
  | true =>
    -- The call has cancelled itself, as its script says.
    rw [Plan.steps_cancelled] at htold
    have hnone : ([] : List Step).filterMap Step.outcome? = [] := rfl
    exact h.settled hdelivered hwaiting htale hnone htold
  | false =>
    -- Somebody else has, and the rest of the script is not made.
    refine ⟨fun c' hc' => (nomatch hwaiting.symm.trans hc'), ?_, .inr ⟨fun hl => ?_, ?_, ?_⟩⟩
    · rw [hdelivered, htale, List.filterMap_append, h.silent]
      rfl
    · exact Bool.false_ne_true (hlone hl hc)
    · exact ⟨_, hdelivered⟩
    · exact (later_deliver s id _).isCancelled hc

/-! ### A course -/

section

variable {chance : Nat → Nat → Draw} {s t : State (Queue Request)} {f : Failure}

/-- A queue that takes everything holds the next attempt. -/
theorem asked_unbounded (p : Policy) (chance : Nat → Nat → Draw) (hq : s.room.Unbounded)
    (id : Nat) (c : Continuation) : ((queued p chance).asked id c s).2 = (.hold, none) := by
  rcases asked_queueing p chance id c s with ⟨_, -, answer, -⟩ | ⟨cause, refusal, -⟩
  · exact answer
  · rw [hq.refusal?] at refusal
    cases refusal

theorem delay_eq (hj : x.policy.jitterFactor.le 0 = true) (id : Nat) (c : Continuation) :
    (queued x.policy chance).delay id c = x.policy.applyJitter .middle c.backoff := by
  simp only [delay, queued, Policy.applyJitter, hj, Bool.true_or, ↓reduceIte]

/-- A failure that is retried leaves the next attempt waiting, with the rest of the steps. -/
theorem Along.held (h : Along x lone id c s) (hj : x.policy.jitterFactor.le 0 = true)
    (hpace : s.clock.elapsed.nanos + x.duration c.attempt ≤ Duration.maxNanos)
    (hleft : left = x.policy.maxAttempts.toNat - c.attempt) (hc : s.isCancelled id = false)
    (hr : Retries (queued x.policy chance) id left c s f) :
    Along x lone id (c.next x.policy)
      (((queued x.policy chance).asked id c s).1.hold id (c.next x.policy)) := by
  obtain ⟨hresult, hcancelled, -⟩ := h.invoked hpace
  have hresponse : (x.operation (c.attempt - 1)).response = .failure f :=
    Response.eq_failure (hresult.symm.trans hr.failed)
  have hallowed := hr.allowed
  -- What the engine decides about the failure is what the script says of it.
  have hretried : ¬ (x.policy.maxAttempts.toNat ≤ c.attempt ∨ x.policy.shouldRetry f = false) := by
    rintro (hle | hno)
    · omega
    · rw [show x.policy.shouldRetry f = true from hr.retryable] at hno
      cases hno
  have hasked := call_asked (e := queued x.policy chance) h.known c
  have hlen := State.length_of_modify (asked_calls (queued x.policy chance) id c s)
  have hknown : id < ((queued x.policy chance).asked id c s).1.calls.length := hlen ▸ h.known
  have hhold := State.call_of_modify
    (State.hold_calls ((queued x.policy chance).asked id c s).1 id (c.next x.policy)) hknown
  have later : s.Later (((queued x.policy chance).asked id c s).1.hold id (c.next x.policy)) :=
    (later_asked _ id c s).trans (later_of_modify rfl (fun _ => ⟨rfl, rfl, fun h => h⟩) rfl)
  have htale : (((queued x.policy chance).asked id c s).1.hold id (c.next x.policy)).tale id =
      s.tale id ++ [.invoked c.attempt,
        .requested (c.attempt + 1) (x.policy.applyJitter .middle c.backoff)] := by
    have hdelay : (queued x.policy chance).delay id c = x.policy.applyJitter .middle c.backoff :=
      delay_eq hj id c
    rw [← hdelay]
    exact tale_asked (queued x.policy chance) id c s
  have hkept : (((queued x.policy chance).asked id c s).1.hold id (c.next x.policy)).isCancelled id =
      x.cancels c.attempt := by
    have hsame : (((queued x.policy chance).asked id c s).1.hold id (c.next x.policy)).isCancelled
        id = (s.invoked id c.attempt).isCancelled id := by
      have hinvoked := State.call_of_modify (State.invoked_calls s id c.attempt) h.known
      simp only [State.isCancelled, hhold, hasked, hinvoked]
      rfl
    rw [hsame, hcancelled, hc, Bool.false_or]
  refine ⟨Nat.lt_of_lt_of_le h.known later.length, ?_, ?_, h.listed.later h.known later, ?_, ?_,
    h.free, ?_, x.cancels c.attempt, ?_, ?_, ?_⟩
  · exact (later.calls id h.known).operation.trans h.operation
  · exact (later.calls id h.known).token.trans h.token
  · rw [hhold, hasked]
    exact h.pending
  · rw [hhold, hasked]
    exact congrArg (· + 1) h.number
  · rw [htale, List.filterMap_append, h.silent]
    rfl
  · exact fun hcancels => hkept.trans hcancels
  · exact fun _ hcancels => hkept.symm.trans hcancels
  · rw [htale, List.append_assoc, ← h.uncancelled hc, Plan.steps_retried hresponse hretried]
    rfl

/-- An attempt goes on as the script of its call says, if the queue takes every retry, no deadline is
set and the clock can be moved by the time that the invocation takes. -/
theorem Course.follows (course : Course (queued x.policy chance) id left c s t)
    (hj : x.policy.jitterFactor.le 0 = true) (h : Along x lone id c s)
    (hw : (s.call id).waiting = none) (hleft : left = x.policy.maxAttempts.toNat - c.attempt)
    (hq : s.room.Unbounded) (hpace : s.isCancelled id = false →
      s.clock.elapsed.nanos + x.duration c.attempt ≤ Duration.maxNanos) :
    Follows x lone id t := by
  -- No course here goes on by itself: the queue holds every retry, and the next run takes it up.
  cases course with
  | cancelled hc => exact h.cancelled hw hc
  | @succeeded _ _ _ v hc hi =>
    obtain ⟨hresult, -, -⟩ := h.invoked (hpace hc)
    have hresponse := Response.eq_value (hresult.symm.trans hi)
    apply h.succeeded hw
    rw [← h.uncancelled hc, Plan.steps_value hresponse]
  | @failed _ _ _ ending hc why =>
    obtain ⟨hresult, -, -⟩ := h.invoked (hpace hc)
    apply h.failed hw
    rw [← h.uncancelled hc]
    cases why with
    | panicked hi =>
      obtain ⟨message, hresponse⟩ := Response.eq_panic (hresult.symm.trans hi)
      rw [Plan.steps_panic hresponse]
    | refused hi hr =>
      have hresponse := Response.eq_failure (hresult.symm.trans hi)
      have hrefused := hr.imp_left fun hl : left = 0 => Nat.le_of_sub_eq_zero (hleft.symm.trans hl)
      rw [Plan.steps_refused hresponse hrefused]
    | late hi hl hr hm =>
      rw [h.free] at hm
      cases hm
    | untimed hi hm =>
      rw [h.free] at hm
      cases hm
  | @unscheduled _ _ _ f handling refusal hc hr cause ha hh =>
    rw [asked_unbounded x.policy chance hq] at ha
    cases ha
    rcases hh with ⟨-, hh⟩ | ⟨hh, -⟩ <;> cases hh
  | stalled hc hr ha hp =>
    rw [asked_unbounded x.policy chance hq] at ha
    cases ha
  | @held _ _ _ f hc hr ha =>
    have next := h.held hj (hpace hc) hleft hc hr
    have hcall : (((queued x.policy chance).asked id c s).1.hold id (c.next x.policy)).call id = _ :=
      State.call_of_modify rfl (State.length_of_modify (asked_calls _ id c s) ▸ h.known)
    refine ⟨fun c' hc' => ?_, ?_, .inl ⟨?_, fun hn => absurd next.pending hn⟩⟩
    · rw [show (queued x.policy chance).policy = x.policy from rfl, hcall] at hc'
      cases hc'
      exact next
    · exact next.pending.trans next.silent.symm
    · obtain ⟨cancelled, -, -, htold⟩ := next.told
      exact ⟨_, htold⟩
  | again hc hr ha hp rest =>
    rw [asked_unbounded x.policy chance hq] at ha
    cases ha

end

end Engine

end Reattempt
