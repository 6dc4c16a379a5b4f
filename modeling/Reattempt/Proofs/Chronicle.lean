import Reattempt.Proofs.Effects
import Reattempt.Proofs.Turns
import Reattempt.Proofs.Waits

/-!
The chronicle of a call. Its attempts are numbered from one; each but the last failed, and was
followed by the request for the next one. Whatever ends the call, the error reports the invocations
that were made. Main statement: `attempts_exact`.

The number of an attempt is counted up before the attempt is handed over, so that each way to end a
call has to correct it. That number and the invocations are tied together in `Ready`, for an attempt
that is about to be made, and in `Recorded`, for a call between two actions.
-/
namespace Reattempt

namespace Clock

theorem elapsed_of_advance {c t : Clock} {d : Duration} (h : c.advance d = .ok t) :
    t.elapsed.nanos = c.elapsed.nanos + d.nanos := by
  unfold Clock.advance Duration.add? at h
  split at h
  · next hadd =>
    split at hadd
    · cases hadd
      cases h
      rfl
    · cases hadd
  · cases h

end Clock

/-- An error tells how many invocations there were. -/
def Outcome.Reports (n : Nat) : Outcome → Prop
  | .ok _ => True
  | .error x => x.attempts = n

namespace Engine

variable {Room : Type}

/-! ### The entries about a call -/

/-- What the journal tells about a call that waits for its next attempt, newest first: all `n`
invocations failed, and the next attempt was requested after each. -/
inductive Chronicle (e : Engine Room) (id : Nat) (operation : Operation) :
    Nat → List Entry → Prop
  | fresh : Chronicle e id operation 0 []
  | retried {n entries time f} {r : Request} (before : Chronicle e id operation n entries)
      (allowed : n + 1 < e.policy.maxAttempts.toNat)
      (failed : (operation n).response = .failure f)
      (call : r.call = id) (attempt : r.attempt = n + 2)
      (delay : r.delay = e.policy.applyJitter (e.chance id (n + 1)) (e.policy.base (n + 1)))
      (asked : r.asked.nanos = time.nanos + ((operation n).advance.getD .zero).nanos) :
      Chronicle e id operation (n + 1)
        (⟨r.asked, .requested r⟩ :: ⟨time, .invoked id (n + 1)⟩ :: entries)

/-- What the journal tells about a call between two actions, and the outcomes it was handed. These
are right in a `dated` run, whose clock can be read between any two actions; elsewhere an error may
come from a clock that could not be read. -/
inductive Record (e : Engine Room) (id : Nat) (operation : Operation) (dated : Prop) :
    Nat → List Outcome → List Entry → Prop
  | pending {n entries} (h : Chronicle e id operation n entries) :
      Record e id operation dated n [] entries
  /-- The last invocation was not followed by a request. -/
  | struck {n entries time} (h : Chronicle e id operation n entries)
      (allowed : n < e.policy.maxAttempts.toNat) :
      Record e id operation dated (n + 1) [] (⟨time, .invoked id (n + 1)⟩ :: entries)
  | settled {n entries time o} (h : Record e id operation dated n [] entries)
      (ho : dated → o.Reports n) :
      Record e id operation dated n [o] (⟨time, .settled id o⟩ :: entries)

variable {e : Engine Room} {custody : Custody e.scheduler} {ok : State Room → Prop}
  {s t u : State Room} {id j left left' n : Nat} {c c' : Continuation} {f : Failure}
  {a : Action Room} {as : List (Action Room)} {operation : Operation} {entries : List Entry}
  {dated : Prop} {outcomes : List Outcome}

/-- The request that an event tells of. -/
def Event.request? : Event → Option Request
  | .requested r => some r
  | _ => none

theorem range'_succ_reverse (m n : Nat) :
    (List.range' m (n + 1)).reverse = (m + n) :: (List.range' m n).reverse := by
  rw [List.range'_concat, List.reverse_append, Nat.one_mul]
  rfl

theorem Chronicle.invocations (h : Chronicle e id operation n entries) :
    entries.filterMap (·.event.attemptOf id) = (List.range' 1 n).reverse := by
  induction h with
  | fresh => rfl
  | @retried n entries time f r before allowed failed call attempt delay asked ih =>
    have hself : (Event.invoked id (n + 1)).attemptOf id = some (n + 1) := if_pos rfl
    have hother : (Event.requested r).attemptOf id = none := rfl
    simp only [List.filterMap_cons, hself, hother, ih, range'_succ_reverse, Nat.add_comm 1 n]

theorem Chronicle.requests (h : Chronicle e id operation n entries) :
    (entries.filterMap (·.event.request?)).map Request.attempt = (List.range' 2 n).reverse := by
  induction h with
  | fresh => rfl
  | @retried n entries time f r before allowed failed call attempt delay asked ih =>
    have hself : (Event.requested r).request? = some r := rfl
    have hother : (Event.invoked id (n + 1)).request? = none := rfl
    simp only [List.filterMap_cons, hself, hother, List.map_cons, ih, attempt,
      range'_succ_reverse, Nat.add_comm 2 n]

/-- As long as a call waits, the policy allows its next attempt. -/
theorem Chronicle.lt_maxAttempts (h : Chronicle e id operation n entries)
    (valid : 0 < e.policy.maxAttempts.toNat) : n < e.policy.maxAttempts.toNat := by
  cases h with
  | fresh => exact valid
  | retried before allowed => exact allowed

theorem Chronicle.eq_nil (h : Chronicle e id operation 0 entries) : entries = [] := by
  cases h
  rfl

/-- The entry before a request is the invocation that failed. -/
theorem Chronicle.failed_before (h : Chronicle e id operation n entries)
    {later earlier : List Entry} {time : Duration} {r : Request}
    (hsplit : entries = later ++ ⟨time, .requested r⟩ :: earlier) :
    ∃ k f at' before, r.attempt = k + 1 ∧ earlier = ⟨at', .invoked id k⟩ :: before ∧
      (operation (k - 1)).response = .failure f ∧
      time.nanos = at'.nanos + ((operation (k - 1)).advance.getD .zero).nanos := by
  -- What comes `later` decides whether the request is the newest entry or one of an older pair.
  induction h generalizing later with
  | fresh => simp at hsplit
  | @retried n entries at' f r' before allowed failed call attempt delay asked ih =>
    rcases later with _ | ⟨first, _ | ⟨second, later⟩⟩
    · -- The request is the newest entry.
      simp only [List.nil_append, List.cons.injEq, Entry.mk.injEq, Event.requested.injEq] at hsplit
      obtain ⟨⟨rfl, rfl⟩, rfl⟩ := hsplit
      exact ⟨n + 1, f, at', entries, attempt, rfl, failed, asked⟩
    · -- The entry below the newest one is an invocation.
      simp only [List.cons_append, List.nil_append, List.cons.injEq, Entry.mk.injEq,
        reduceCtorEq, and_false, false_and] at hsplit
    · simp only [List.cons_append, List.cons.injEq] at hsplit
      exact ih hsplit.2.2

/-! ### An attempt in hand -/

/-- An attempt is about to be made, and its number says how many were made before. -/
structure Ready (e : Engine Room) (id left : Nat) (c : Continuation) (s : State Room) : Prop where
  known : id < s.calls.length
  pending : (s.call id).delivered = []
  taken : (s.call id).waiting = none
  number : c.attempt = (s.call id).invocations + 1
  allowed : c.attempt + left = e.policy.maxAttempts.toNat
  backoff : c.backoff = e.policy.base c.attempt
  told : Chronicle e id (s.call id).operation (s.call id).invocations (s.about id)

theorem Ready.of_same (h : Ready e id left c s) (hcalls : t.calls = s.calls)
    (hjournal : t.journal = s.journal) : Ready e id left c t := by
  have hcall := State.call_congr hcalls id
  have habout := State.about_congr hjournal id
  refine ⟨hcalls ▸ h.known, ?_, ?_, ?_, h.allowed, h.backoff, ?_⟩
  · rw [hcall]
    exact h.pending
  · rw [hcall]
    exact h.taken
  · rw [hcall]
    exact h.number
  · rw [hcall, habout]
    exact h.told

theorem about_cons_self {entry : Entry} (h : t.journal = entry :: s.journal)
    (hid : entry.event.call? = some id) : t.about id = entry :: s.about id := by
  rw [State.about, h, List.filter_cons_of_pos (by simpa using hid), State.about]

theorem invoked_about_self (s : State Room) (id n : Nat) :
    (s.invoked id n).about id = ⟨s.clock.elapsed, .invoked id n⟩ :: s.about id :=
  about_cons_self (State.invoked_journal s id n) rfl

theorem asked_about_self (e : Engine Room) (id : Nat) (c : Continuation) (s : State Room) :
    (e.asked id c s).1.about id = ⟨(s.invoked id c.attempt).clock.elapsed,
      .requested (e.request id c s)⟩ :: ⟨s.clock.elapsed, .invoked id c.attempt⟩ :: s.about id := by
  have hcounted : (counted id c s).about id = ⟨s.clock.elapsed, .invoked id c.attempt⟩ ::
      s.about id := invoked_about_self s id c.attempt
  rw [← hcounted]
  exact about_cons_self rfl rfl

/-- An invocation that answers with a failure has played its part of the script to the end. -/
theorem play_of_failed (hi : (s.invoke id n).2 = .ok (.error f)) :
    ((s.call id).operation (s.call id).invocations).response = .failure f ∧
    (s.invoked id n).clock.elapsed.nanos = s.clock.elapsed.nanos +
      (((s.call id).operation (s.call id).invocations).advance.getD .zero).nanos ∧
    (s.invoked id n).tokens =
      (((s.call id).operation (s.call id).invocations).cancel.elim s s.cancelToken).tokens := by
  cases hc : s.clock.advance
    (((s.call id).operation (s.call id).invocations).advance.getD .zero) with
  | error fault => simp [State.invoke, State.modifyCall, State.log, hc] at hi
  | ok clock =>
    obtain ⟨hresult, hclock, htokens⟩ := State.invoke_of_advance (n := n) rfl hc
    refine ⟨?_, ?_, htokens⟩
    · rw [hi] at hresult
      cases hp : ((s.call id).operation (s.call id).invocations).response with
      | value v =>
        rw [hp] at hresult
        cases hresult
      | failure f' =>
        rw [hp] at hresult
        cases hresult
        rfl
      | panic message =>
        rw [hp] at hresult
        cases hresult
    · rw [hclock]
      exact Clock.elapsed_of_advance hc

/-- The attempt after one that failed is in hand while the scheduler decides about it. -/
theorem Ready.asked (h : Ready e id (left + 1) c s) (hr : Retries e id (left + 1) c s f) :
    Ready e id left (c.next e.policy) (e.asked id c s).1 := by
  have hcall := call_asked (e := e) h.known c
  have hnumber := h.number
  have hallowed := h.allowed
  obtain ⟨hfailed, helapsed, -⟩ := play_of_failed hr.failed
  refine ⟨?_, ?_, ?_, ?_, ?_, ?_, ?_⟩
  · rw [State.length_of_modify (asked_calls e id c s)]
    exact h.known
  · rw [hcall]
    exact h.pending
  · rw [hcall]
    exact h.taken
  · rw [hcall]
    show c.attempt + 1 = (s.call id).invocations + 1 + 1
    omega
  · show c.attempt + 1 + left = e.policy.maxAttempts.toNat
    omega
  · show e.policy.nextBackoff c.backoff = e.policy.base (c.attempt + 1)
    rw [h.backoff, e.policy.base_succ (by omega)]
  · -- The chronicle goes on by the invocation that failed and the request that followed.
    have hattempt : (e.request id c s).attempt = (s.call id).invocations + 2 := by
      show c.attempt + 1 = _
      omega
    have hdelay : (e.request id c s).delay = e.policy.applyJitter
        (e.chance id ((s.call id).invocations + 1))
        (e.policy.base ((s.call id).invocations + 1)) := by
      show e.policy.applyJitter (e.chance id c.attempt) c.backoff = _
      rw [h.backoff, hnumber]
    have hstep := Chronicle.retried (r := e.request id c s) h.told (by omega) hfailed rfl hattempt
      hdelay helapsed
    rw [← hnumber] at hstep
    rw [asked_about_self, hcall, ← hnumber]
    exact hstep

/-! ### A call between two actions -/

/-- The journal tells of the call what its record says; an attempt that waits is the next one. -/
structure Recorded (e : Engine Room) (dated : Prop) (s : State Room) (id : Nat) : Prop where
  record : Record e id (s.call id).operation dated (s.call id).invocations (s.call id).delivered
    (s.about id)
  waiting : ∀ c, (s.call id).waiting = some c → (s.call id).delivered = [] ∧
    Chronicle e id (s.call id).operation (s.call id).invocations (s.about id) ∧
    c.attempt = (s.call id).invocations + 1 ∧ c.attempt ≤ e.policy.maxAttempts.toNat ∧
    c.backoff = e.policy.base c.attempt

theorem Recorded.of_passes (h : Recorded e dated s id) (hp : s.Passes id t) :
    Recorded e dated t id := by
  refine ⟨?_, fun c hw => ?_⟩
  · rw [hp.operation, hp.invocations, hp.delivered, hp.about]
    exact h.record
  · rw [hp.waiting] at hw
    rw [hp.operation, hp.invocations, hp.delivered, hp.about]
    exact h.waiting c hw

theorem Recorded.of_record (hw : (s.call id).waiting = none)
    (h : Record e id (s.call id).operation dated (s.call id).invocations (s.call id).delivered
      (s.about id)) : Recorded e dated s id :=
  ⟨h, fun _ hc => nomatch hw.symm.trans hc⟩

section

variable (hid : id < s.calls.length) (hd : (s.call id).delivered = [])
  (hw : (s.call id).waiting = none)
  (h : Record e id (s.call id).operation dated (s.call id).invocations [] (s.about id))
include hid hd hw h

theorem recorded_deliver {o : Outcome} (ho : o.Reports (s.call id).invocations) :
    Recorded e dated (s.deliver id o) id := by
  have hcall := State.call_of_modify (State.deliver_calls s id o) hid
  have habout : (s.deliver id o).about id = ⟨s.clock.elapsed, .settled id o⟩ :: s.about id :=
    about_cons_self rfl rfl
  apply Recorded.of_record
  · rw [hcall]
    exact hw
  · rw [hcall, habout, hd]
    exact .settled h fun _ => ho

/-- A failure that cannot be dated is recorded nowhere. -/
theorem recorded_failed {x : Ending} (hx : dated → x.attempts = (s.call id).invocations) :
    Recorded e dated (s.failed id x) id := by
  by_cases hdated : s.Dated
  · have hcall := State.call_of_modify (State.failed_calls_of_dated hdated id x) hid
    have habout : (s.failed id x).about id =
        ⟨s.clock.elapsed, .settled id (.error x)⟩ :: s.about id :=
      about_cons_self (State.failed_journal_of_dated hdated id x) rfl
    apply Recorded.of_record
    · rw [hcall]
      exact hw
    · rw [hcall, habout, hd]
      exact .settled h hx
  · have hcall := State.call_congr (State.failed_calls_of_not_dated hdated id x) id
    have habout : (s.failed id x).about id = s.about id := by
      apply State.about_congr
      rw [State.failed_of_not_dated hdated, State.countFailure_fst]
    apply Recorded.of_record
    · rw [hcall]
      exact hw
    · rw [hcall, habout, hd]
      exact h

end

/-- Whichever way the last attempt ends a call, the error reports it. -/
theorem Fatal.attempts_eq {x : Ending} (why : Fatal e id left c s x)
    (hr : (s.invoked id c.attempt).clock.Readable) : x.attempts = c.attempt := by
  have hdecided := (why.decided hr).1
  cases why with
  | untimed hi hm =>
    -- The one ending that reports too few comes from a clock that cannot be read.
    cases hdecided
  | _ => rfl

/-- The record after an invocation that no request follows. -/
theorem Ready.struck (h : Ready e id left c s) :
    ((s.invoked id c.attempt).call id).invocations = c.attempt ∧
    Record e id ((s.invoked id c.attempt).call id).operation dated
      ((s.invoked id c.attempt).call id).invocations [] ((s.invoked id c.attempt).about id) := by
  have hcall := State.call_of_modify (State.invoked_calls s id c.attempt) h.known
  have hnumber := h.number
  have hallowed := h.allowed
  refine ⟨?_, ?_⟩
  · rw [hcall]
    exact hnumber.symm
  · rw [hcall, invoked_about_self, hnumber]
    exact .struck h.told (by omega)

theorem Course.recorded (course : Course e id left c s t) (ready : Ready e id left c s)
    (hr : dated → t.clock.Readable) : Recorded e dated t id := by
  -- From one attempt to the next `Ready` is carried along; the number is counted up before a retry
  -- is handed over, so each ending is compared with the invocations at the point where it is met.
  induction course with
  | @cancelled left c s hc =>
    apply recorded_deliver ready.known ready.pending ready.taken (.pending ready.told)
    show c.attempt - 1 = _
    have hnumber := ready.number
    omega
  | @succeeded left c s v hc hi =>
    have hcall := State.call_of_modify (State.invoked_calls s id c.attempt) ready.known
    have hlen := State.length_of_modify (State.invoked_calls s id c.attempt)
    refine recorded_deliver (s := (s.invoked id c.attempt).countSuccess) (hlen ▸ ready.known) ?_ ?_
      ready.struck.2 trivial
    · exact (congrArg Call.delivered hcall).trans ready.pending
    · exact (congrArg Call.waiting hcall).trans ready.taken
  | @failed left c s x hc why =>
    rw [State.failed_clock] at hr
    have hcall := State.call_of_modify (State.invoked_calls s id c.attempt) ready.known
    have hlen := State.length_of_modify (State.invoked_calls s id c.attempt)
    obtain ⟨hinvocations, hrecord⟩ := ready.struck
    refine recorded_failed (hlen ▸ ready.known) ?_ ?_ hrecord fun hdated => ?_
    · rw [hcall]
      exact ready.pending
    · rw [hcall]
      exact ready.taken
    · rw [hinvocations]
      exact why.attempts_eq (hr hdated)
  | @unscheduled left c s f handling refusal hc hretries cause ha hh =>
    obtain ⟨k, rfl⟩ := Nat.exists_eq_succ_of_ne_zero hretries.allowed
    -- The request was made, so that the number was counted up once more.
    have next := ready.asked hretries
    have hnumber : c.attempt + 1 = _ + 1 := next.number
    apply recorded_failed next.known next.pending next.taken (.pending next.told)
    intro _
    show c.attempt = _
    omega
  | @stalled left c s f pause contained refusal fault hc hretries ha hp =>
    obtain ⟨k, rfl⟩ := Nat.exists_eq_succ_of_ne_zero hretries.allowed
    have next := (ready.asked hretries).of_same
      (t := (e.asked id c s).1.withRoom (counted id c s).room) rfl rfl
    have hnumber : c.attempt + 1 = _ + 1 := next.number
    apply recorded_failed next.known next.pending next.taken (.pending next.told)
    intro _
    show c.attempt = _
    omega
  | @held left c s f hc hretries ha =>
    obtain ⟨k, rfl⟩ := Nat.exists_eq_succ_of_ne_zero hretries.allowed
    have next := ready.asked hretries
    have hallowed := next.allowed
    have hcall := State.call_of_modify (State.hold_calls (e.asked id c s).1 id (c.next e.policy))
      next.known
    have habout : ((e.asked id c s).1.hold id (c.next e.policy)).about id =
        (e.asked id c s).1.about id := rfl
    refine ⟨?_, fun c' hw => ?_⟩
    · rw [hcall, habout, next.pending]
      exact .pending next.told
    · rw [hcall] at hw
      cases hw
      rw [hcall, habout]
      exact ⟨next.pending, next.told, next.number, by omega, next.backoff⟩
  | again hc hretries ha hp rest ih => exact ih ((ready.asked hretries).of_same rfl rfl) hr

/-! ### Every action keeps the record -/

theorem Record.eq_nil (h : Record e id operation dated 0 [] entries) : entries = [] := by
  cases h with
  | pending h => exact h.eq_nil

/-- Nothing is told about a call that is about to be started, so that it starts afresh. -/
theorem Recorded.gated (h : Recorded e dated s s.calls.length)
    (valid : 0 < e.policy.maxAttempts.toNat) (name : String) (operation : Operation)
    (options : Options) (deadline : Option Deadline) :
    Ready e s.calls.length (e.policy.maxAttempts.toNat - 1) (.first e.policy deadline)
      (s.gated name operation options) := by
  have hcall := State.call_append_last (State.gated_calls s name operation options)
  have habout : s.about s.calls.length = [] := by
    have hrecord := h.record
    rw [State.call_of_length_le (Nat.le_refl _)] at hrecord
    exact hrecord.eq_nil
  refine ⟨State.lt_length_gated s name operation options, ?_, ?_, ?_, ?_, rfl, ?_⟩
  · rw [hcall]
  · rw [hcall]
  · rw [hcall]
    rfl
  · show 1 + (e.policy.maxAttempts.toNat - 1) = _
    omega
  · rw [hcall, State.gated_about, habout]
    exact .fresh

/-- The attempt that a call waits for is the next one once it is let go. -/
theorem Recorded.released (h : Recorded e dated s id) (hw : (s.call id).waiting = some c)
    (room : Room) : Ready e id (e.policy.maxAttempts.toNat - c.attempt) c
      ((s.withRoom room).release id) := by
  obtain ⟨hd, htold, hnumber, hallowed, hbackoff⟩ := h.waiting c hw
  have hid := State.known_of_waiting hw
  have hcall := released_call hid room
  refine ⟨lt_length_released hid room, ?_, ?_, ?_, ?_, hbackoff, ?_⟩
  · rw [hcall]
    exact hd
  · rw [hcall]
  · rw [hcall]
    exact hnumber
  · omega
  · rw [hcall]
    exact htold

theorem Turn.recorded (turn : Turn e id s t) (h : Recorded e dated s id)
    (valid : 0 < e.policy.maxAttempts.toNat) (hr : dated → t.clock.Readable) :
    Recorded e dated t id := by
  cases turn with
  | passed hp => exact h.of_passes hp
  | @barred name operation options new ht =>
    -- Whatever deadline the call would have got, it is known now and nothing is told about it.
    subst new ht
    have ready := h.gated valid name operation options none
    have begun : Recorded e dated (s.gated name operation options) s.calls.length := by
      apply Recorded.of_record ready.taken
      rw [ready.pending]
      exact .pending ready.told
    exact begun.of_passes (passes_dropHandle _ _ _)
  | @rejected name operation options remaining new hl hremaining ht =>
    subst new ht
    have ready := h.gated valid name operation options none
    apply recorded_deliver ready.known ready.pending ready.taken (.pending ready.told)
    exact Nat.succ.inj ready.number
  | @started name operation options deadline u new course ht =>
    subst new
    have ready := h.gated valid name operation options deadline
    rcases ht with rfl | rfl
    · exact course.recorded ready hr
    · exact (course.recorded ready hr).of_passes (passes_dropHandle _ _ _)
  | @resumed room c hw course => exact course.recorded (h.released hw room) hr
  | @dropped room c hw ht =>
    -- The attempt that was dropped was counted, and never made.
    subst ht
    have ready := h.released hw room
    have hnumber := ready.number
    apply recorded_failed ready.known ready.pending ready.taken (.pending ready.told)
    intro _
    show c.attempt - 1 = _
    omega

theorem recorded_initial (e : Engine Room) (room : Room) (id : Nat) :
    Recorded e dated (initial e room) id := by
  have hcall : (initial e room).call id = .blank := State.call_of_length_le (Nat.zero_le id)
  apply Recorded.of_record
  · rw [hcall]
    rfl
  · rw [hcall]
    exact .pending .fresh

theorem Run.recorded {room : Room} (valid : e.policy.validate = .ok ())
    (run : Run e custody ok (initial e room) as s) (hok : dated → ∀ u, ok u → u.clock.Readable)
    (id : Nat) : Recorded e dated s id := by
  apply run.invariant (Recorded e dated · id) (recorded_initial e room id)
  intro u a h _ _ hu
  have turn := (act_acted e u a).turn custody id
  exact turn.recorded h (Policy.maxAttempts_pos valid) fun hdated => hok hdated _ hu

theorem Reaches.ready (reached : Reaches e id left c s left' c' u) (ready : Ready e id left c s) :
    Ready e id left' c' u := by
  induction reached with
  | here => exact ready
  | again hc hr ha hp rest ih => exact ih ((ready.asked hr).of_same rfl rfl)

/-- Every attempt that is made is the next one of its call. -/
theorem Recorded.makes (h : Recorded e dated s id) (valid : 0 < e.policy.maxAttempts.toNat)
    (made : Makes e s a id left c u) : Ready e id left c u := by
  cases made with
  | @first name operation options deadline left c u hl hd reached =>
    exact reached.ready (h.gated valid name operation options deadline)
  | @waiting r room c left c' u hw reached => exact reached.ready (h.released hw room)

/-! ### The numbers of a record -/

theorem Record.invocations (h : Record e id operation dated n outcomes entries)
    (valid : 0 < e.policy.maxAttempts.toNat) :
    entries.filterMap (·.event.attemptOf id) = (List.range' 1 n).reverse ∧
      n ≤ e.policy.maxAttempts.toNat := by
  induction h with
  | pending h => exact ⟨h.invocations, Nat.le_of_lt (h.lt_maxAttempts valid)⟩
  | @struck n entries time h allowed =>
    have hself : (Event.invoked id (n + 1)).attemptOf id = some (n + 1) := if_pos rfl
    refine ⟨?_, allowed⟩
    simp only [List.filterMap_cons, hself, h.invocations, range'_succ_reverse, Nat.add_comm 1 n]
  | settled h ho ih => exact ih

/-- One request follows each invocation, but for the last one that was not followed by any. -/
theorem Record.requests (h : Record e id operation dated n outcomes entries)
    (valid : 0 < e.policy.maxAttempts.toNat) :
    ∃ m, (entries.filterMap (·.event.request?)).map Request.attempt = (List.range' 2 m).reverse ∧
      m ≤ n ∧ n ≤ m + 1 ∧ m < e.policy.maxAttempts.toNat := by
  induction h with
  | @pending n entries h =>
    exact ⟨n, h.requests, Nat.le_refl n, Nat.le_succ n, h.lt_maxAttempts valid⟩
  | @struck n entries time h allowed =>
    exact ⟨n, h.requests, Nat.le_succ n, Nat.le_refl _, allowed⟩
  | settled h ho ih => exact ih

theorem Record.failed_before (h : Record e id operation dated n outcomes entries)
    {later earlier : List Entry} {time : Duration} {r : Request}
    (hsplit : entries = later ++ ⟨time, .requested r⟩ :: earlier) :
    ∃ k f at' before, r.attempt = k + 1 ∧ earlier = ⟨at', .invoked id k⟩ :: before ∧
      (operation (k - 1)).response = .failure f ∧
      time.nanos = at'.nanos + ((operation (k - 1)).advance.getD .zero).nanos := by
  induction h generalizing later with
  | pending h => exact h.failed_before hsplit
  | struck h allowed =>
    -- The newest entry is no request.
    cases later with
    | nil => cases hsplit
    | cons first later => exact h.failed_before (List.cons.inj hsplit).2
  | settled h ho ih =>
    cases later with
    | nil => cases hsplit
    | cons first later => exact ih (List.cons.inj hsplit).2

theorem Record.reports {x : Ending} (h : Record e id operation dated n outcomes entries)
    (hdated : dated) (hx : .error x ∈ outcomes) : x.attempts = n := by
  cases h with
  | pending h => cases hx
  | struck h allowed => cases hx
  | settled h ho =>
    cases List.mem_singleton.mp hx
    exact ho hdated

theorem attemptsOf_eq (s : State Room) (id : Nat) :
    s.attemptsOf id = (s.about id).filterMap (·.event.attemptOf id) := by
  unfold State.attemptsOf State.about
  rw [List.filterMap_filter]
  apply congrArg (List.filterMap · s.journal)
  funext entry
  cases entry.event with
  | invoked call attempt => by_cases h : call = id <;> simp [h, Event.attemptOf, Event.call?]
  | _ => simp [Event.attemptOf]

theorem requests_eq (s : State Room) (id : Nat) : s.requests.filter (·.call = id) =
    ((s.about id).filterMap (·.event.request?)).reverse := by
  unfold State.requests State.about
  rw [List.filter_reverse, List.filter_filterMap, List.filterMap_filter]
  apply congrArg fun f => (List.filterMap f s.journal).reverse
  funext entry
  cases entry.event with
  | requested r => by_cases h : r.call = id <;> simp [h, Event.request?, Event.call?]
  | _ => simp [Event.request?]

/-! ### Attempts are real and bounded -/

/-- On clocks that can be read the invocations of a call are numbered from one and never exceed what
its policy allows, and the requests from two. A request stands directly behind the invocation
before it, made when that had failed. An attempt that waits, and every one that comes to be made, is
the one after the last invocation, so that its number neither overflows nor is zero; and an error
reports the invocations that were made. -/
theorem attempts_exact {room : Room} (valid : e.policy.validate = .ok ())
    (run : Run e custody (fun u => u.clock.Readable) (initial e room) as s) (id : Nat) :
    let n := (s.call id).invocations
    let allowed := e.policy.maxAttempts.toNat
    s.attemptsOf id = (List.range' 1 n).reverse ∧ n ≤ allowed ∧
    (∃ m, (s.requests.filter (·.call = id)).map Request.attempt = List.range' 2 m ∧
      m ≤ n ∧ n ≤ m + 1 ∧ m < allowed) ∧
    (∀ later earlier time r, s.about id = later ++ ⟨time, .requested r⟩ :: earlier →
      ∃ k f at' before, r.attempt = k + 1 ∧ earlier = ⟨at', .invoked id k⟩ :: before ∧
        ((s.call id).operation (k - 1)).response = .failure f ∧
        time.nanos =
          at'.nanos + (((s.call id).operation (k - 1)).advance.getD .zero).nanos) ∧
    (∀ c, (s.call id).waiting = some c → c.attempt = n + 1 ∧ c.attempt ≤ allowed) ∧
    (∀ a left c u, Makes e s a id left c u → c.attempt = (u.call id).invocations + 1 ∧
      c.attempt ≤ allowed ∧ c.attempt < 2 ^ 32) ∧
    (∀ x, .error x ∈ (s.call id).delivered → x.attempts = n) := by
  intro n allowed
  have hpos : 0 < allowed := Policy.maxAttempts_pos valid
  have hsize : allowed < 2 ^ 32 := e.policy.maxAttempts.toNat_lt
  have recorded : Recorded e True s id := run.recorded valid (fun _ _ h => h) id
  obtain ⟨hattempts, hbound⟩ := recorded.record.invocations hpos
  obtain ⟨m, hrequests, hle, hge, hlt⟩ := recorded.record.requests hpos
  refine ⟨?_, hbound, ⟨m, ?_, hle, hge, hlt⟩, ?_, ?_, ?_, ?_⟩
  · rw [attemptsOf_eq, hattempts]
  · rw [requests_eq, List.map_reverse, hrequests, List.reverse_reverse]
  · intro later earlier time r hsplit
    exact recorded.record.failed_before hsplit
  · intro c hw
    obtain ⟨_, _, hnumber, hallowed, _⟩ := recorded.waiting c hw
    exact ⟨hnumber, hallowed⟩
  · intro a left c u made
    have ready := recorded.makes hpos made
    have hallowed := ready.allowed
    exact ⟨ready.number, by omega, by omega⟩
  · intro x hx
    exact recorded.record.reports trivial hx

/-- A dropped retry: one invocation, one request, and an error that reports one attempt. -/
theorem attempts_exact_dropped :
    guardedQueue.policy.validate = .ok () ∧
    Run guardedQueue guardedCustody (fun u => u.clock.Readable) queueStart
      [startRefused, dropFirst] (guardedQueue.act queueStarted dropFirst) ∧
    ((guardedQueue.act queueStarted dropFirst).call 0).delivered =
      [.error (.scheduling 1 .shutDown)] ∧
    (guardedQueue.act queueStarted dropFirst).attemptsOf 0 = [1] := by
  have valid : guardedQueue.policy.validate = .ok () :=
    ConfigError.firstOf_eq_ok.mpr (by decide +kernel)
  have run := run_dropFirst (fun u => u.clock.Readable) fun _ h => h
  obtain ⟨hattempts, _, _, _, _, _, hreports⟩ := attempts_exact (e := guardedQueue) valid run 0
  have hdelivered : ((guardedQueue.act queueStarted dropFirst).call 0).delivered =
      [.error (.scheduling 1 .shutDown)] := by decide
  -- The number of invocations is the one that the error reports.
  have hone := hreports _ (hdelivered ▸ List.mem_cons_self)
  refine ⟨valid, run, hdelivered, ?_⟩
  rw [hattempts, ← hone]
  rfl

end Engine

end Reattempt
