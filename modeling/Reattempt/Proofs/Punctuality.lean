import Reattempt.Engine.Immediate
import Reattempt.Proofs.BreakerReplay
import Reattempt.Proofs.Cancellation

/-!
Deadlines under punctual schedulers. A retry is asked for only if it would start in time, so that a
scheduler that runs it exactly its delay later starts it in time. Between two actions this is kept as
a bound on every request that the scheduler holds for the call (`InTime`). Where a retry would start
too late the call ends instead, and the attempt that was made last tells all there is to know about it
(`TooLate`). Main statement: `deadline_respected`.
-/
namespace Reattempt

/-- The scheduler lets the delay pass, and no more, before it runs an attempt in its answer. -/
def Scheduler.Punctual {Room : Type} (scheduler : Scheduler Room) : Prop :=
  ∀ room r pause contained, (scheduler room r).handling = .run pause contained →
    pause.getD .zero = r.delay

theorem Scheduler.punctual_timed : Scheduler.timed.Punctual := by
  intro room r pause contained h
  cases h
  rfl

theorem Scheduler.punctual_queueing : Scheduler.queueing.Punctual := by
  intro q r pause contained h
  -- A queue runs nothing in its answer.
  unfold Scheduler.queueing at h
  split at h <;> cases h

namespace Engine

variable {Room : Type} {e : Engine Room} {custody : Custody e.scheduler}
  {s t u : State Room} {id j left left' n : Nat} {c c' : Continuation} {f : Failure} {d : Deadline}
  {a : Action Room} {as bs : List (Action Room)} {x : Ending}

/-- An attempt that was held is let go at the time at which its delay has passed. -/
def Action.Punctual (s : State Room) : Action Room → Prop
  | .run r _ => s.clock.elapsed.nanos = r.asked.nanos + r.delay.nanos
  | _ => True

/-- Every action of a run is punctual in the state that it is taken in. -/
def Punctually (e : Engine Room) (s : State Room) (as : List (Action Room)) : Prop :=
  ∀ before a after, as = before ++ a :: after → a.Punctual (before.foldl e.act s)

theorem Punctually.of_snoc (h : Punctually e s (as ++ [a])) :
    Punctually e s as ∧ a.Punctual (as.foldl e.act s) := by
  refine ⟨?_, h as a [] rfl⟩
  intro before b after hsplit
  apply h before b (after ++ [a])
  rw [hsplit, List.append_assoc, List.cons_append]

/-! ### What a comparison with the deadline says -/

theorem misses_eq_none_iff {delay : Duration} : s.misses (some d) delay = .ok none ↔
    s.clock.elapsed.nanos + delay.nanos ≤ d.expires.nanos := by
  have hlimit := d.expires.nanos_lt
  by_cases hr : s.clock.Readable
  · simp only [State.misses, Clock.read_of_readable hr, Except.map, Instant.add?]
    by_cases hsum : s.clock.elapsed.nanos + delay.nanos < Instant.limit
    · simp only [hsum, ↓reduceDIte, Except.ok.injEq, ite_eq_right_iff, reduceCtorEq, imp_false]
      exact Nat.not_lt
    · simp only [hsum, ↓reduceDIte, Except.ok.injEq, reduceCtorEq, false_iff]
      omega
  · -- The clock stands after every instant, and so after the deadline.
    simp only [State.misses, Clock.read_of_not_readable hr, Except.map, reduceCtorEq, false_iff]
    unfold Clock.Readable at hr
    omega

/-- A wait that ends too late, or at a time that cannot be named. -/
theorem late_of_misses {delay : Duration} {d' : Deadline}
    (h : s.misses (some d) delay = .ok (some d')) : d' = d ∧
      (d.expires.nanos < s.clock.elapsed.nanos + delay.nanos ∨
        Instant.limit ≤ s.clock.elapsed.nanos + delay.nanos) := by
  by_cases hr : s.clock.Readable
  · simp only [State.misses, Clock.read_of_readable hr, Except.map, Instant.add?] at h
    split at h
    · next resumed hadd =>
      split at hadd
      · cases hadd
        split at h
        · next hlate =>
          cases h
          exact ⟨rfl, .inl hlate⟩
        · cases h
      · cases hadd
    · next hadd =>
      cases h
      split at hadd
      · cases hadd
      · next hlimit => exact ⟨rfl, .inr (Nat.le_of_not_lt hlimit)⟩
  · simp only [State.misses, Clock.read_of_not_readable hr, Except.map] at h
    cases h

/-! ### Nothing starts too late -/

/-- No invocation of the call came after its deadline, and nothing that the scheduler holds for it is
due after that. -/
structure Custody.InTime (custody : Custody e.scheduler) (d : Deadline) (id : Nat)
    (s : State Room) : Prop where
  deadline : ∀ c, (s.call id).waiting = some c → c.deadline = some d
  held : ∀ r ∈ custody.held s.room, r.call = id →
    r.asked.nanos + r.delay.nanos ≤ d.expires.nanos
  invoked : ∀ time n, ⟨time, .invoked id n⟩ ∈ s.about id → time.nanos ≤ d.expires.nanos

/-- What neither invokes the call nor hands over an attempt of it keeps it in time. -/
theorem Custody.InTime.of_same (h : custody.InTime d id s)
    (hw : (t.call id).waiting = (s.call id).waiting)
    (hheld : ∀ r ∈ custody.held t.room, r.call = id → r ∈ custody.held s.room)
    (habout : ∀ time n, ⟨time, .invoked id n⟩ ∈ t.about id → ⟨time, .invoked id n⟩ ∈ s.about id) :
    custody.InTime d id t where
  deadline := fun c hc => h.deadline c (hw ▸ hc)
  held := fun r hr hid => h.held r (hheld r hr hid) hid
  invoked := fun time n hm => h.invoked time n (habout time n hm)

theorem Custody.InTime.invocation (h : custody.InTime d id s)
    (hnow : s.clock.elapsed.nanos ≤ d.expires.nanos) (n : Nat) :
    custody.InTime d id (s.invoked id n) where
  deadline := fun c hc => by
    rw [State.part_of_modify Call.waiting (State.invoked_calls s id n) fun _ => rfl] at hc
    exact h.deadline c hc
  held := fun r hr hid => h.held r (State.invoked_room s id n ▸ hr) hid
  invoked := fun time m hm => by
    rw [invoked_about_self] at hm
    rcases List.mem_cons.mp hm with heq | hm
    · cases heq
      exact hnow
    · exact h.invoked time m hm

theorem Custody.InTime.deliver (h : custody.InTime d id s) (j : Nat) (o : Outcome) :
    custody.InTime d id (s.deliver j o) := by
  apply h.of_same
  · exact State.part_of_modify Call.waiting (State.deliver_calls s j o) (fun _ => rfl) id
  · exact fun r hr _ => hr
  · intro time n hm
    obtain ⟨hm, hid⟩ := List.mem_filter.mp hm
    rcases List.mem_cons.mp hm with heq | hm
    · cases heq
    · exact List.mem_filter.mpr ⟨hm, hid⟩

theorem Custody.InTime.failed (h : custody.InTime d id s) (j : Nat) (x : Ending) :
    custody.InTime d id (s.failed j x) := by
  have counted : custody.InTime d id s.countFailure.1 := by
    rw [State.countFailure_fst]
    exact ⟨h.deadline, h.held, h.invoked⟩
  by_cases hdated : s.Dated
  · rw [State.failed_of_dated hdated]
    exact counted.deliver j _
  · rw [State.failed_of_not_dated hdated]
    exact counted

/-- The attempt that is asked for would start in time, so that the scheduler may hold it. -/
theorem Custody.InTime.asked (h : custody.InTime d id s)
    (hnow : s.clock.elapsed.nanos ≤ d.expires.nanos) (hd : c.deadline = some d)
    (hr : Retries e id left c s f) : custody.InTime d id (e.asked id c s).1 := by
  have invocation := h.invocation hnow c.attempt
  have htime := hr.inTime
  rw [hd] at htime
  refine ⟨invocation.deadline, ?_, ?_⟩
  · intro r hm hid
    have hm := (held_asked e custody id c s).mem_iff.mp hm
    split at hm
    · rcases List.mem_cons.mp hm with rfl | hm
      · exact misses_eq_none_iff.mp htime
      · exact h.held r hm hid
    · exact h.held r hm hid
  · intro time n hm
    rw [asked_about_self] at hm
    rcases List.mem_cons.mp hm with heq | hm
    · cases heq
    · rw [← invoked_about_self] at hm
      exact invocation.invoked time n hm

/-- Every attempt of a course starts in time if the first one does. -/
theorem Course.inTime (course : Course e id left c s t) (prompt : e.scheduler.Punctual)
    (hid : id < s.calls.length) (hnow : s.clock.elapsed.nanos ≤ d.expires.nanos)
    (hd : c.deadline = some d) (h : custody.InTime d id s) : custody.InTime d id t := by
  induction course with
  | cancelled hc => exact h.deliver id _
  | @succeeded left c s v hc hi =>
    have invocation := h.invocation hnow c.attempt
    exact Custody.InTime.deliver (s := (s.invoked id c.attempt).countSuccess)
      ⟨invocation.deadline, invocation.held, invocation.invoked⟩ id _
  | @failed left c s ending hc why => exact (h.invocation hnow c.attempt).failed id _
  | unscheduled hc hr cause ha hh => exact (h.asked hnow hd hr).failed id _
  | @stalled left c s f pause contained refusal fault hc hr ha hp =>
    have requested := h.asked hnow hd hr
    apply Custody.InTime.failed
    refine ⟨requested.deadline, ?_, requested.invoked⟩
    intro r hm hcall
    exact h.held r (counted_room id c s ▸ hm) hcall
  | @held left c s f hc hr ha =>
    have requested := h.asked hnow hd hr
    refine ⟨?_, requested.held, requested.invoked⟩
    intro c' hw
    have hcall := State.call_of_modify (State.hold_calls (e.asked id c s).1 id (c.next e.policy))
      (State.length_of_modify (asked_calls e id c s) ▸ hid)
    rw [hcall] at hw
    cases hw
    exact hd
  | @again left c s t f pause contained refusal clock hc hr ha hp rest ih =>
    -- The scheduler has let the delay pass, and the delay ends in time.
    have requested := h.asked hnow hd hr
    have htime := hr.inTime
    rw [hd] at htime
    have hpause : pause.getD .zero = e.delay id c :=
      prompt _ (e.request id c s) pause contained (congrArg Prod.fst ha)
    have hresumed : clock.elapsed.nanos ≤ d.expires.nanos :=
      calc clock.elapsed.nanos
        _ = (e.asked id c s).1.clock.elapsed.nanos + (e.delay id c).nanos := by
          rw [← hpause]
          exact Clock.elapsed_of_advance hp
        _ ≤ d.expires.nanos := misses_eq_none_iff.mp htime
    exact ih (State.length_of_modify (asked_calls e id c s) ▸ hid) hresumed hd
      ⟨requested.deadline, requested.held, requested.invoked⟩

/-- Starting a call hands over attempts of that call only. -/
theorem Started.held {name : String} {operation : Operation} {options : Options}
    (started : Started e name operation options s t) {r : Request}
    (hr : r ∈ custody.held t.room) : r.call = s.calls.length ∨ r ∈ custody.held s.room := by
  have hgated : (s.gated name operation options).room = s.room := State.gated_room ..
  rw [← hgated]
  cases started with
  | barred hs => exact .inr hr
  | rejected hl hremaining => exact .inr hr
  | admitted hl hd course => exact course.frame.known r hr
  | thrown hl hd course => exact course.frame.known r hr

theorem Custody.InTime.released (h : custody.InTime d id s) (hid : id < s.calls.length)
    {room : Room} (hroom : ∀ r ∈ custody.held room, r ∈ custody.held s.room) (j : Nat) :
    custody.InTime d id ((s.withRoom room).release j) where
  deadline := fun c hc => by
    by_cases hj : id = j
    · subst hj
      rw [released_call hid room] at hc
      cases hc
    · rw [State.call_of_modify_ne (s := s.withRoom room) rfl hj] at hc
      exact h.deadline c hc
  held := fun r hr hcall => h.held r (hroom r hr) hcall
  invoked := h.invoked

/-- A punctual action keeps a call in time. -/
theorem Acted.inTime (acted : Acted e s a t) (prompt : e.scheduler.Punctual)
    (allowed : a.Allowed custody s) (punctual : a.Punctual s) (hid : id < s.calls.length)
    (h : custody.InTime d id s) : custody.InTime d id t := by
  cases acted with
  | started started =>
    have hne := Nat.ne_of_lt hid
    apply h.of_same
    · rw [started.call_ne custody hne]
    · intro r hr hcall
      exact (started.held hr).resolve_left fun hnew => hne (hcall.symm.trans hnew)
    · rw [started.about hne]
      exact fun _ _ hm => hm
  | @resumed r room c t hw course =>
    have hkept : ∀ r' ∈ custody.held room, r' ∈ custody.held s.room :=
      fun r' hr' => allowed.mem_iff.mpr (List.mem_cons_of_mem r hr')
    by_cases hcall : r.call = id
    · subst hcall
      -- The attempt that was let go is one of those that are due in time, and it is due now.
      have hnow : s.clock.elapsed.nanos ≤ d.expires.nanos :=
        punctual ▸ h.held r (allowed.mem_iff.mpr List.mem_cons_self) rfl
      exact course.inTime prompt (lt_length_released hid room) hnow (h.deadline c hw)
        (h.released hid hkept r.call)
    · have frame : custody.Frame _ _ _ := (frame_release allowed).trans course.frame
      apply h.of_same
      · rw [frame.call_ne (Ne.symm hcall)]
      · intro r' hr' hcall'
        exact (frame.known r' hr').resolve_left fun heq => hcall (heq.symm.trans hcall')
      · rw [course.about (Ne.symm hcall)]
        exact fun _ _ hm => hm
  | @dropped r room c hw =>
    apply Custody.InTime.failed
    apply h.released hid
    exact fun r' hr' => allowed.mem_iff.mpr (List.mem_cons_of_mem r hr')
  | @spent a r room ha hw =>
    have hp : (custody.held s.room).Perm (r :: custody.held room) := by
      rcases ha with rfl | rfl <;> exact allowed
    exact ⟨h.deadline, fun r' hr' => h.held r' (hp.mem_iff.mpr (List.mem_cons_of_mem r hr')),
      h.invoked⟩
  | @turned room =>
    have hp : (custody.held s.room).Perm (custody.held room) := allowed
    exact ⟨h.deadline, fun r hr => h.held r (hp.mem_iff.mpr hr), h.invoked⟩
  | still ha =>
    have hm := act_still e s ha
    apply h.of_same (hm.waiting id)
    · intro r hr _
      exact hm.room ▸ hr
    · rw [hm.about id]
      exact fun _ _ hm => hm

/-! ### The ending -/

/-- The attempt that was made last: it failed, another one was allowed, and it would have started too
late. Nothing was asked of the scheduler, and one failure was counted. -/
structure TooLate (e : Engine Room) (id : Nat) (d : Deadline) (c : Continuation)
    (w t : State Room) : Prop where
  retryable : ∃ f, (w.invoke id c.attempt).2 = .ok (.error f) ∧ e.policy.shouldRetry f = true
  allowed : c.attempt < e.policy.maxAttempts.toNat
  invocations : (t.call id).invocations = c.attempt
  late : let resumed := (w.invoked id c.attempt).clock.elapsed.nanos + (e.delay id c).nanos
    d.expires.nanos < resumed ∨ Instant.limit ≤ resumed
  metrics : t.metrics = w.metrics.recordAttempt.recordFailure
  breaker : t.breaker = w.breaker.map fun b => (b.recordFailure t.clock.read).1
  room : t.room = w.room
  journal : t.journal =
    ⟨t.clock.elapsed, .settled id (.error (.deadlineExceeded c.attempt d.budget))⟩ ::
      ⟨w.clock.elapsed, .invoked id c.attempt⟩ :: w.journal

theorem TooLate.dropHandle (h : TooLate e id d c s t) (j : Nat) :
    TooLate e id d c s (t.dropHandle j) where
  retryable := h.retryable
  allowed := h.allowed
  invocations := (State.part_of_modify (s := t) (t := t.dropHandle j) Call.invocations rfl
    (fun _ => rfl) id).trans h.invocations
  late := h.late
  metrics := h.metrics
  breaker := h.breaker
  room := h.room
  journal := h.journal

/-- A course that ends at the deadline ends in an attempt that was the last one in time. -/
theorem Course.tooLate (course : Course e id left c s t) (ready : Ready e id left c s)
    (hd : c.deadline = some d) {budget : Duration}
    (hx : .error (.deadlineExceeded n budget) ∈ (t.call id).delivered) :
    budget = d.budget ∧ ∃ left' c' w, Reaches e id left c s left' c' w ∧ c'.attempt = n ∧
      TooLate e id d c' w t := by
  -- Of all the ways to end a call only one is named so. The others are told apart by what they
  -- deliver, which is all that the call was handed so far.
  induction course with
  | @cancelled left c s hc => cases State.eq_of_deliver ready.known ready.pending hx
  | @succeeded left c s v hc hi =>
    have hinvoked := State.call_of_modify (State.invoked_calls s id c.attempt) ready.known
    have hlen := State.length_of_modify (State.invoked_calls s id c.attempt)
    cases State.eq_of_deliver (s := (s.invoked id c.attempt).countSuccess) (hlen ▸ ready.known)
      ((congrArg Call.delivered hinvoked).trans ready.pending) hx
  | @failed left c s x hc why =>
    have hinvoked := State.call_of_modify (State.invoked_calls s id c.attempt) ready.known
    have hlen := State.length_of_modify (State.invoked_calls s id c.attempt)
    obtain ⟨hdated, hx⟩ := State.eq_of_failed (hlen ▸ ready.known)
      ((congrArg Call.delivered hinvoked).trans ready.pending) hx
    cases hx
    cases why with
    | @late f d' hi hl hr hm =>
      rw [hd] at hm
      obtain ⟨rfl, hlate⟩ := late_of_misses hm
      refine ⟨rfl, left, c, s, .here, rfl, ⟨f, hi, hr⟩, ?_, ?_, hlate, ?_, ?_, ?_, ?_⟩
      · have hallowed := ready.allowed
        omega
      · rw [failed_invocations, hinvoked]
        exact ready.number.symm
      · rw [failed_metrics, State.invoked_metrics]
      · rw [State.failed_breaker, State.failed_clock, State.invoked_breaker]
      · rw [State.failed_room, State.invoked_room]
      · rw [State.failed_journal_of_dated hdated, State.failed_clock, State.invoked_journal]
  | @unscheduled left c s f handling refusal hc hr cause ha hh =>
    obtain ⟨k, rfl⟩ := Nat.exists_eq_succ_of_ne_zero hr.allowed
    have next := ready.asked hr
    obtain ⟨-, hx⟩ := State.eq_of_failed next.known next.pending hx
    cases hx
  | @stalled left c s f pause contained refusal fault hc hr ha hp =>
    obtain ⟨k, rfl⟩ := Nat.exists_eq_succ_of_ne_zero hr.allowed
    have next := (ready.asked hr).of_same
      (t := (e.asked id c s).1.withRoom (counted id c s).room) rfl rfl
    obtain ⟨-, hx⟩ := State.eq_of_failed next.known next.pending hx
    cases hx
  | @held left c s f hc hr ha =>
    obtain ⟨k, rfl⟩ := Nat.exists_eq_succ_of_ne_zero hr.allowed
    have next := ready.asked hr
    rw [State.call_of_modify (State.hold_calls _ id _) next.known, next.pending] at hx
    cases hx
  | @again left c s t f pause contained refusal clock hc hr ha hp rest ih =>
    obtain ⟨hbudget, left', c', w, reached, hn, tooLate⟩ :=
      ih ((ready.asked hr).of_same rfl rfl) hd hx
    exact ⟨hbudget, left', c', w, .again hc hr ha hp reached, hn, tooLate⟩

theorem Acted.tooLate (acted : Acted e s a t) (hid : id < s.calls.length)
    (h : custody.InTime d id s) (recorded : Recorded e False s id) {budget : Duration}
    (hx : .error (.deadlineExceeded n budget) ∈ (t.call id).delivered) :
    .error (.deadlineExceeded n budget) ∈ (s.call id).delivered ∨
      budget = d.budget ∧ ∃ left c w, Makes e s a id left c w ∧ c.attempt = n ∧
        TooLate e id d c w t := by
  cases acted with
  | started started =>
    rw [started.call_ne custody (Nat.ne_of_lt hid)] at hx
    exact .inl hx
  | @resumed r room c t hw course =>
    by_cases hcall : r.call = id
    · subst hcall
      obtain ⟨hbudget, left, c', w, reached, hn, tooLate⟩ :=
        course.tooLate (recorded.released hw room) (h.deadline c hw) hx
      exact .inr ⟨hbudget, left, c', w, .waiting hw reached, hn, tooLate⟩
    · have frame : custody.Frame _ _ _ := course.frame
      rw [frame.call_ne (Ne.symm hcall), State.call_of_modify_ne rfl (Ne.symm hcall)] at hx
      exact .inl hx
  | @dropped r room c hw =>
    by_cases hcall : r.call = id
    · subst hcall
      have ready := recorded.released hw room
      obtain ⟨-, hx⟩ := State.eq_of_failed ready.known ready.pending hx
      cases hx
    · have frame := frame_failed custody ((s.withRoom room).release r.call) r.call
        (.scheduling (c.attempt - 1) .shutDown)
      rw [frame.call_ne (Ne.symm hcall), State.call_of_modify_ne rfl (Ne.symm hcall)] at hx
      exact .inl hx
  | spent ha hw => exact .inl hx
  | turned => exact .inl hx
  | still ha =>
    rw [(act_still e s ha).delivered id] at hx
    exact .inl hx

/-! ### The start of the call -/

/-- The deadline of a call that is started now. -/
def State.deadlineAt (s : State Room) (budget : Duration)
    (h : s.clock.elapsed.nanos + budget.nanos < Instant.limit) : Deadline :=
  ⟨⟨s.clock.elapsed.nanos + budget.nanos, h⟩, budget⟩

section

variable {name : String} {operation : Operation} {options : Options} {budget : Duration}
  (hend : s.clock.elapsed.nanos + budget.nanos < Instant.limit)

theorem deadlineAfter_of_lt : s.deadlineAfter (some budget) = .ok (some (s.deadlineAt budget hend)) := by
  have hr : s.clock.Readable := by
    unfold Clock.Readable
    omega
  have hadd : (⟨s.clock.elapsed.nanos, hr⟩ : Instant).add? budget =
      some ⟨s.clock.elapsed.nanos + budget.nanos, hend⟩ := dif_pos hend
  rw [State.deadlineAfter, Clock.read_of_readable hr, Except.map, hadd]
  rfl

theorem eq_of_deadlineAfter {asked : Option Duration} (h : s.deadlineAfter asked = .ok (some d)) :
    ∃ budget, asked = some budget ∧ d.budget = budget ∧
      d.expires.nanos = s.clock.elapsed.nanos + budget.nanos := by
  cases asked with
  | none => cases h
  | some budget =>
    by_cases hr : s.clock.Readable
    · rw [State.deadlineAfter, Clock.read_of_readable hr, Except.map, Instant.add?] at h
      split at h
      · cases h
        exact ⟨budget, rfl, rfl, rfl⟩
      · cases h
    · rw [State.deadlineAfter, Clock.read_of_not_readable hr] at h
      cases h

theorem deadlineAfter_gated (name : String) (operation : Operation) (options : Options)
    (budget : Option Duration) :
    (s.gated name operation options).deadlineAfter budget = s.deadlineAfter budget := by
  cases budget with
  | none => rfl
  | some budget => rw [State.deadlineAfter, State.deadlineAfter, State.gated_clock]

variable (ready : ∀ deadline, Ready e s.calls.length
  (e.policy.maxAttempts.toNat - 1) (.first e.policy deadline) (s.gated name operation options))
include ready

theorem inTime_gated (custody : Custody e.scheduler) (sole : custody.Sole s) :
    custody.InTime d s.calls.length (s.gated name operation options) where
  deadline := fun c hc => by
    rw [(ready none).taken] at hc
    cases hc
  held := fun r hr hcall => by
    have hunheld := (sole.inHand_gated name operation options).unheld
    rw [Custody.tickets, List.filter_eq_nil_iff] at hunheld
    exact absurd (decide_eq_true hcall) (hunheld r hr)
  invoked := fun time n hm => by
    have told := (ready none).told
    have hzero : ((s.gated name operation options).call s.calls.length).invocations = 0 :=
      (Nat.succ.inj (ready none).number).symm
    rw [hzero] at told
    rw [told.eq_nil] at hm
    cases hm

theorem Started.inTime (started : Started e name operation options s t)
    (hbudget : options.deadline = some budget) (prompt : e.scheduler.Punctual)
    (sole : custody.Sole s) : custody.InTime (s.deadlineAt budget hend) s.calls.length t := by
  have gated : custody.InTime (s.deadlineAt budget hend) s.calls.length
      (s.gated name operation options) := inTime_gated ready custody sole
  have hnow : (s.gated name operation options).clock.elapsed.nanos ≤
      (s.deadlineAt budget hend).expires.nanos := by
    rw [State.gated_clock]
    exact Nat.le_add_right _ _
  have ran {deadline : Option Deadline} {u : State Room}
      (hd : (s.gated name operation options).deadlineAfter options.deadline = .ok deadline)
      (course : Course e s.calls.length (e.policy.maxAttempts.toNat - 1) (.first e.policy deadline)
        (s.gated name operation options) u) :
      custody.InTime (s.deadlineAt budget hend) s.calls.length u := by
    rw [hbudget, deadlineAfter_gated, deadlineAfter_of_lt hend] at hd
    cases hd
    exact course.inTime prompt (ready none).known hnow rfl gated
  have dropped {u : State Room} (h : custody.InTime (s.deadlineAt budget hend) s.calls.length u) :
      custody.InTime (s.deadlineAt budget hend) s.calls.length (u.dropHandle s.calls.length) := by
    apply h.of_same
    · exact (State.unmoved_dropHandle u s.calls.length).waiting s.calls.length
    · exact fun r hr _ => hr
    · exact fun _ _ hm => hm
  cases started with
  | barred hs => exact dropped gated
  | rejected hl hr => exact gated.deliver _ _
  | admitted hl hd course => exact ran hd course
  | thrown hl hd course => exact dropped (ran hd course)

theorem Started.tooLate (started : Started e name operation options s t)
    (hbudget : options.deadline = some budget) {budget' : Duration}
    (hx : .error (.deadlineExceeded n budget') ∈ (t.call s.calls.length).delivered) :
    budget' = budget ∧ ∃ left c w,
      Makes e s (.start name operation options) s.calls.length left c w ∧ c.attempt = n ∧
        TooLate e s.calls.length (s.deadlineAt budget hend) c w t := by
  have ran {deadline : Option Deadline} {u : State Room}
      (hl : (s.enroll name operation options.token).look.2 = .ok false)
      (hd : (s.gated name operation options).deadlineAfter options.deadline = .ok deadline)
      (course : Course e s.calls.length (e.policy.maxAttempts.toNat - 1) (.first e.policy deadline)
        (s.gated name operation options) u)
      (hx : .error (.deadlineExceeded n budget') ∈ (u.call s.calls.length).delivered) :
      budget' = budget ∧ ∃ left c w,
        Makes e s (.start name operation options) s.calls.length left c w ∧ c.attempt = n ∧
          TooLate e s.calls.length (s.deadlineAt budget hend) c w u := by
    have hdeadline := hd
    rw [hbudget, deadlineAfter_gated, deadlineAfter_of_lt hend] at hdeadline
    cases hdeadline
    obtain ⟨hsame, left, c, w, reached, hn, tooLate⟩ := course.tooLate (ready _) rfl hx
    exact ⟨hsame, left, c, w, .first hl hd reached, hn, tooLate⟩
  cases started with
  | barred hs =>
    rw [(State.unmoved_dropHandle _ s.calls.length).delivered, (ready none).pending] at hx
    cases hx
  | rejected hl hr =>
    cases State.eq_of_deliver (ready none).known (ready none).pending hx
  | admitted hl hd course => exact ran hl hd course hx
  | @thrown deadline u hl hd course =>
    rw [(State.unmoved_dropHandle u s.calls.length).delivered] at hx
    obtain ⟨hsame, left, c, w, made, hn, tooLate⟩ := ran hl hd course hx
    exact ⟨hsame, left, c, w, made, hn, tooLate.dropHandle _⟩

end

/-! ### Runs -/

theorem Run.append {ok : State Room → Prop} (run : Run e custody ok s as t)
    (later : Run e custody ok t bs u) : Run e custody ok s (as ++ bs) u := by
  induction later with
  | nil hs => rwa [List.append_nil]
  | snoc later allowed ht ih =>
    rw [← List.append_assoc]
    exact ih.snoc allowed ht

/-- One of the actions made the attempt after which the next one would have started too late. -/
def Exceeded (e : Engine Room) (s : State Room) (id : Nat) (d : Deadline)
    (as : List (Action Room)) (n : Nat) (budget : Duration) : Prop :=
  budget = d.budget ∧ ∃ before a after left c w, as = before ++ a :: after ∧
    Makes e (before.foldl e.act s) a id left c w ∧ c.attempt = n ∧
    TooLate e id d c w (e.act (before.foldl e.act s) a)

theorem Exceeded.snoc {budget : Duration} (h : Exceeded e s id d as n budget) (a : Action Room) :
    Exceeded e s id d (as ++ [a]) n budget := by
  obtain ⟨hbudget, before, b, after, left, c, w, rfl, made, hn, tooLate⟩ := h
  refine ⟨hbudget, before, b, after ++ [a], left, c, w, ?_, made, hn, tooLate⟩
  rw [List.append_assoc, List.cons_append]

/-- With a punctual scheduler no attempt of a call starts after its deadline; and a call is told that
its deadline has passed only if its last attempt failed in time, another one was allowed, and that one
would have started too late. -/
theorem deadline_respected {room : Room} (valid : e.policy.validate = .ok ())
    (hempty : custody.held room = []) (prompt : e.scheduler.Punctual)
    (history : Run e custody (fun _ => True) (initial e room) as s) {budget : Duration}
    (hend : s.clock.elapsed.nanos + budget.nanos < Instant.limit) (name : String)
    (operation : Operation) (token : Option String) :
    let start : Action Room := .start name operation ⟨token, some budget⟩
    let id := s.calls.length
    let d := s.deadlineAt budget hend
    ∀ bs u, Run e custody (fun _ => True) (e.act s start) bs u → Punctually e (e.act s start) bs →
      (∀ time n, ⟨time, .invoked id n⟩ ∈ u.journal →
        time.nanos ≤ s.clock.elapsed.nanos + budget.nanos) ∧
      (∀ n budget', .error (.deadlineExceeded n budget') ∈ (u.call id).delivered →
        Exceeded e s id d (start :: bs) n budget') := by
  intro start id d bs u run punctual
  have recorded : Recorded e False s id := history.recorded valid False.elim id
  have ready := fun deadline =>
    recorded.gated (Policy.maxAttempts_pos valid) name operation ⟨token, some budget⟩ deadline
  have begun : Run e custody (fun _ => True) (initial e room) (as ++ [start]) (e.act s start) :=
    history.snoc trivial trivial
  have started := execute_started e name operation ⟨token, some budget⟩ s
  have hknown : id < (e.act s start).calls.length :=
    Nat.lt_of_lt_of_eq (Nat.lt_succ_self id) (started.length custody).symm
  -- Along the run: the call stays in time, and whatever ended it has happened by then.
  have kept : custody.InTime d id u ∧ ∀ n budget',
      .error (.deadlineExceeded n budget') ∈ (u.call id).delivered →
        Exceeded e s id d (start :: bs) n budget' := by
    induction run with
    | nil =>
      refine ⟨started.inTime hend ready rfl prompt (history.sole hempty), ?_⟩
      intro n budget' hx
      obtain ⟨hbudget, left, c, w, made, hn, tooLate⟩ := started.tooLate hend ready rfl hx
      exact ⟨hbudget, [], start, [], left, c, w, rfl, made, hn, tooLate⟩
    | @snoc v bs a run allowed _ ih =>
      obtain ⟨before, hnow⟩ := punctual.of_snoc
      obtain ⟨inTime, past⟩ := ih before
      have hv : v = (start :: bs).foldl e.act s := run.end_eq
      have whole := begun.append run
      have hid : id < v.calls.length := Nat.lt_of_lt_of_le hknown run.later.length
      have acted := act_acted e v a
      refine ⟨acted.inTime prompt allowed (run.end_eq ▸ hnow) hid inTime, ?_⟩
      intro n budget' hx
      rcases acted.tooLate hid inTime (whole.recorded valid False.elim id) hx with
        hx | ⟨hbudget, left, c, w, made, hn, tooLate⟩
      · exact (past n budget' hx).snoc a
      · rw [hv] at made tooLate
        exact ⟨hbudget, start :: bs, a, [], left, c, w, rfl, made, hn, tooLate⟩
  refine ⟨?_, kept.2⟩
  intro time n hm
  exact kept.1.invoked time n (List.mem_filter.mpr ⟨hm, decide_eq_true rfl⟩)

/-- The start of a call that fails again and again, with two seconds to succeed in. -/
def startPressed : Action (Queue Request) :=
  .start "svc" (fun _ => ⟨none, none, .failure (.plain .connection "refused")⟩)
    ⟨none, some (.ofSeconds 2)⟩

/-- The first retry, a second later, is in time; the second one would come after another two. -/
theorem deadline_respected_pressed :
    let s := guardedQueue.act queueStart startPressed
    let bs : List (Action (Queue Request)) := [.advance (.ofSeconds 1), runFirst]
    let u := bs.foldl guardedQueue.act s
    Punctually guardedQueue s bs ∧
    u.attemptsOf 0 = [2, 1] ∧ (∀ time n, ⟨time, .invoked 0 n⟩ ∈ u.journal → time.nanos ≤ 2 * 10 ^ 9) ∧
    (u.call 0).delivered = [.error (.deadlineExceeded 2 (.ofSeconds 2))] ∧
    Exceeded guardedQueue queueStart 0 (queueStart.deadlineAt (.ofSeconds 2) (by decide +kernel))
      (startPressed :: bs) 2 (.ofSeconds 2) := by
  intro s bs u
  have valid : guardedQueue.policy.validate = .ok () :=
    ConfigError.firstOf_eq_ok.mpr (by decide +kernel)
  have history : Run guardedQueue guardedCustody (fun _ => True) queueStart [] queueStart :=
    .nil trivial
  have run : Run guardedQueue guardedCustody (fun _ => True) s bs u :=
    ((Run.nil trivial).snoc (a := .advance (.ofSeconds 1)) trivial trivial).snoc (a := runFirst)
      (List.Perm.of_eq (by decide +kernel)) trivial
  have punctual : Punctually guardedQueue s bs := by
    intro before a after hsplit
    have hsplit : [.advance (.ofSeconds 1), runFirst] = before ++ a :: after := hsplit
    rcases before with _ | ⟨first, _ | ⟨second, before⟩⟩
    · cases hsplit
      trivial
    · cases hsplit
      show (_ : Nat) = _
      decide +kernel
    · simp at hsplit
  have hend : queueStart.clock.elapsed.nanos + (Duration.ofSeconds 2).nanos < Instant.limit := by
    decide
  obtain ⟨inTime, exceeded⟩ := deadline_respected valid rfl Scheduler.punctual_queueing history hend
    "svc" _ none bs u run punctual
  have hdelivered : (u.call 0).delivered = [.error (.deadlineExceeded 2 (.ofSeconds 2))] := by
    decide +kernel
  refine ⟨punctual, by decide +kernel, inTime, hdelivered, exceeded 2 (.ofSeconds 2) ?_⟩
  exact hdelivered ▸ List.mem_cons_self

end Engine

end Reattempt
