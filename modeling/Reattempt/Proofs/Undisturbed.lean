import Reattempt.Proofs.Emptying
import Reattempt.Proofs.Tales

/-!
Calls do not disturb each other. They share the counters, the breaker and the queue, but nothing in
these reaches the operation of another call: on an unbounded queue a call without a deadline makes the
steps that its script dictates, in whatever order starts, runs, cancellations and the clock come.
Main statement: `undisturbed`, where the same call on an engine of its own says what these steps are.

The clock is shared as well, and an invocation takes time on it. A clock that stands too late to be
moved on ends the call; `disturbed_by_clock` shows it.
-/
namespace Reattempt.Engine

variable {Room : Type} {e : Engine Room} {custody : Custody e.scheduler} {s t : State Room}
  {id left n ran : Nat} {c : Continuation} {a : Action Room}

/-! ### The journal grows -/

theorem deliver_about_suffix (s : State Room) (id : Nat) (o : Outcome) :
    s.about id <:+ (s.deliver id o).about id := by
  have habout : (s.deliver id o).about id = ⟨s.clock.elapsed, .settled id o⟩ :: s.about id :=
    about_cons_self rfl rfl
  rw [habout]
  exact List.suffix_cons _ _

theorem failed_about_suffix (s : State Room) (id : Nat) (x : Ending) :
    s.about id <:+ (s.failed id x).about id := by
  by_cases hdated : s.Dated
  · rw [State.failed_of_dated hdated, State.countFailure_fst]
    exact deliver_about_suffix _ id (.error x)
  · rw [State.failed_of_not_dated hdated, State.countFailure_fst]
    exact List.suffix_rfl

theorem asked_about_suffix (e : Engine Room) (id : Nat) (c : Continuation) (s : State Room) :
    (s.invoked id c.attempt).about id <:+ (e.asked id c s).1.about id := by
  rw [asked_about_self, invoked_about_self]
  exact List.suffix_cons _ _

theorem invoked_about_suffix (s : State Room) (id n : Nat) :
    s.about id <:+ (s.invoked id n).about id := by
  rw [invoked_about_self]
  exact List.suffix_cons _ _

theorem Course.about_suffix (course : Course e id left c s t) :
    s.about id <:+ t.about id ∧
      (s.isCancelled id = false → (s.invoked id c.attempt).about id <:+ t.about id) := by
  -- What follows an invocation is recorded after it.
  have after {s u : State Room} {n : Nat} (h : (s.invoked id n).about id <:+ u.about id) :
      s.about id <:+ u.about id ∧
        (s.isCancelled id = false → (s.invoked id n).about id <:+ u.about id) :=
    ⟨(invoked_about_suffix s id n).trans h, fun _ => h⟩
  induction course with
  | cancelled hc =>
    refine ⟨deliver_about_suffix _ id _, fun hn => ?_⟩
    rw [hc] at hn
    cases hn
  | @succeeded left c s v hc hi =>
    exact after (deliver_about_suffix (s.invoked id c.attempt).countSuccess id (.ok v))
  | failed hc why => exact after (failed_about_suffix _ id _)
  | unscheduled hc hr cause ha hh =>
    exact after ((asked_about_suffix e id _ _).trans (failed_about_suffix _ id _))
  | @stalled left c s f pause contained refusal fault hc hr ha hp =>
    exact after ((asked_about_suffix e id c s).trans
      (failed_about_suffix ((e.asked id c s).1.withRoom (counted id c s).room) id _))
  | held hc hr ha => exact after (asked_about_suffix e id _ _)
  | again hc hr ha hp rest ih => exact after ((asked_about_suffix e id _ _).trans ih.1)

theorem Turn.about_suffix (turn : Turn e id s t) : s.about id <:+ t.about id := by
  cases turn with
  | passed hp => exact hp.about ▸ List.suffix_rfl
  | @barred name operation options new ht =>
    subst ht
    have hgate := State.gated_about s name operation options id
    change s.about id <:+ (s.gated name operation options).about id
    exact hgate ▸ List.suffix_rfl
  | @rejected name operation options remaining new hl hr ht =>
    subst ht
    rw [← State.gated_about s name operation options id]
    exact deliver_about_suffix _ id _
  | @started name operation options deadline u new course ht =>
    rw [← State.gated_about s name operation options id]
    rcases ht with rfl | rfl
    · exact course.about_suffix.1
    · exact course.about_suffix.1
  | resumed hw course => exact course.about_suffix.1
  | @dropped room c hw ht =>
    subst ht
    exact failed_about_suffix ((s.withRoom room).release id) id _

/-! ### The time that invocations take -/

/-- Whenever the operation of the call was invoked, the clock could be moved by the time that took. -/
def State.Paced (s : State Room) (id : Nat) : Prop :=
  ∀ entry ∈ s.about id, ∀ n ∈ entry.event.attemptOf id,
    entry.time.nanos + (((s.call id).operation (n - 1)).advance.getD .zero).nanos ≤
      Duration.maxNanos

instance (s : State Room) (id : Nat) : Decidable (s.Paced id) :=
  inferInstanceAs (Decidable (∀ entry ∈ s.about id, ∀ n ∈ entry.event.attemptOf id, _))

theorem State.Paced.earlier (h : t.Paced id) (hid : id < s.calls.length) (later : s.Later t)
    (hsuffix : s.about id <:+ t.about id) : s.Paced id := by
  intro entry hentry n hn
  rw [← (later.calls id hid).operation]
  exact h entry (hsuffix.subset hentry) n hn

theorem Course.paced (course : Course e id left c s t) {x : Plan} {lone : Prop}
    (along : Along x lone id c s) (h : t.Paced id) (hc : s.isCancelled id = false) :
    s.clock.elapsed.nanos + x.duration c.attempt ≤ Duration.maxNanos := by
  have hmem : (⟨s.clock.elapsed, .invoked id c.attempt⟩ : Entry) ∈ t.about id := by
    apply (course.about_suffix.2 hc).subset
    rw [invoked_about_self]
    exact List.mem_cons_self
  have hoperation := (course.later.calls id along.known).operation.trans along.operation
  have htime := h _ hmem c.attempt (if_pos rfl)
  rw [hoperation] at htime
  exact htime

/-! ### A call that is started -/

section

variable {name : String} {operation : Operation} {options : Options}

/-- What a call without a deadline comes to under a policy, if nobody else is there. -/
def Call.plan (c : Call) (policy : Policy) : Plan := .lone policy c.operation c.token

theorem Started.plan_eq (started : Started e name operation options s t) (policy : Policy) :
    (t.call s.calls.length).plan policy = .lone policy operation options.token := by
  have hcall := State.call_append_last (State.gated_calls s name operation options)
  have kept {u : State Room} (later : (s.gated name operation options).Later u) :
      (u.call s.calls.length).plan policy = .lone policy operation options.token := by
    have hlater := later.calls _ (State.lt_length_gated s name operation options)
    rw [Call.plan, hlater.operation, hlater.token, hcall]
  cases started with
  | barred hs => exact kept (later_dropHandle _ _)
  | rejected hl hr => exact kept (later_deliver _ _ _)
  | admitted hl hd course => exact kept course.later
  | thrown hl hd course => exact kept (course.later.trans (later_dropHandle _ _))

/-- A call becomes known by being started, and in no other way. -/
theorem Acted.started_of_new (custody : Custody e.scheduler) (acted : Acted e s a t)
    (hid : id < t.calls.length) (hnew : ¬ id < s.calls.length) : id = s.calls.length ∧
      ∃ name operation options, a = .start name operation options ∧
        Started e name operation options s t := by
  cases acted with
  | @started name operation options t started =>
    have hlen := started.length custody
    exact ⟨by omega, name, operation, options, rfl, started⟩
  | @resumed r room c t hw course =>
    have frame : custody.Frame _ _ _ := course.frame
    rw [frame.length] at hid
    rw [State.length_of_modify (State.release_calls _ _)] at hid
    exact absurd hid hnew
  | @dropped r room c hw =>
    have frame := frame_failed custody ((s.withRoom room).release r.call) r.call
      (.scheduling (c.attempt - 1) .shutDown)
    rw [frame.length, State.length_of_modify (State.release_calls _ _)] at hid
    exact absurd hid hnew
  | spent ha hw => exact absurd hid hnew
  | turned => exact absurd hid hnew
  | still ha =>
    rw [(act_still e s ha).length] at hid
    exact absurd hid hnew

end

/-! ### A call that others run beside -/

/-- Calls are started without a deadline, and nothing is dropped. -/
def Action.patient : Action Room → Bool
  | .start _ _ options => options.deadline.isNone
  | .drop .. => false
  | _ => true

/-- The call was turned away at the gate. -/
def State.Rejected (s : State Room) (id : Nat) : Prop :=
  ∃ remaining, (s.call id).delivered = [.error (.circuitOpen remaining)] ∧
    (s.call id).waiting = none

theorem push_unbounded (q : Queue Request) (r : Request) :
    (Scheduler.queueing q r).room.Unbounded ↔ q.Unbounded := by
  have hkept : (Scheduler.queueing q r).room.capacity = q.capacity ∧
      (Scheduler.queueing q r).room.stopped = q.stopped := by
    simp only [Scheduler.queueing, Queue.push]
    cases q.refusal? <;> exact ⟨rfl, rfl⟩
  obtain ⟨hcapacity, hstopped⟩ := hkept
  refine ⟨fun h => ⟨?_, ?_⟩, fun h => ⟨?_, ?_⟩⟩
  · exact hcapacity.symm.trans h.capacity
  · exact hstopped.symm.trans h.open_
  · exact hcapacity.trans h.capacity
  · exact hstopped.trans h.open_

theorem along_gated {lone : Prop} (habout : s.about s.calls.length = []) (policy : Policy)
    (name : String) (operation : Operation) {options : Options}
    (hlone : lone → (s.gated name operation options).isCancelled s.calls.length = false) :
    Along (.lone policy operation options.token) lone s.calls.length (.first policy none)
      (s.gated name operation options) := by
  have hcall := State.call_append_last (State.gated_calls s name operation options)
  have htale : (s.gated name operation options).tale s.calls.length = [] := by
    rw [State.tale, State.gated_about, habout]
    rfl
  refine ⟨State.lt_length_gated s name operation options, ?_, ?_,
    listed_gated s name operation options, ?_, ?_, rfl, ?_, false, ?_, fun hl hc => ?_, ?_⟩
  · rw [hcall]
    rfl
  · rw [hcall]
    rfl
  · rw [hcall]
  · rw [hcall]
    rfl
  · rw [htale]
    rfl
  · exact fun h => absurd h Bool.false_ne_true
  · rw [hlone hl] at hc
    cases hc
  · rw [htale]
    rfl

theorem Along.released {x : Plan} {lone : Prop} (h : Along x lone id c s) (room : Room) :
    Along x lone id c ((s.withRoom room).release id) := by
  have hcall := released_call h.known room
  apply h.of_later (later_release s room id)
  · exact fun _ => isCancelled_released s room id id
  · rw [hcall]
  · rw [hcall]
  · rfl

section

variable {x : Plan} {s t : State Room}

theorem Follows.of_passes (h : Follows x False id s) (passes : s.Passes id t)
    (later : s.Later t) : Follows x False id t := by
  have htale := tale_congr passes.about
  refine ⟨fun c hc => ?_, ?_, ?_⟩
  · rw [passes.waiting] at hc
    exact (h.waits c hc).of_later later False.elim passes.delivered passes.invocations passes.about
  · rw [passes.delivered, htale]
    exact h.outcomes
  · rw [passes.delivered, htale]
    exact h.told.imp_right fun ⟨hl, hd, hc⟩ => ⟨hl, hd, later.isCancelled hc⟩

/-- A call that was never begun has made the first steps of any script: none at all. -/
theorem Along.follows (h : Along x False id c s) (hw : (s.call id).waiting = none)
    (htale : s.tale id = []) : Follows x False id s := by
  refine ⟨fun c hc => (nomatch hw.symm.trans hc), ?_, .inl ⟨?_, fun hn => absurd h.pending hn⟩⟩
  · rw [h.pending, htale]
    rfl
  · rw [htale]
    exact List.nil_prefix

end

section

variable {p : Policy} {x : Plan} {chance : Nat → Nat → Draw} {s t : State (Queue Request)}
  {a : Action (Queue Request)} {as : List (Action (Queue Request))}

theorem Course.unbounded (course : Course (queued p chance) id left c s t)
    (h : t.room.Unbounded) : s.room.Unbounded := by
  have asked {s : State (Queue Request)} {c : Continuation}
      (h : ((queued p chance).asked id c s).1.room.Unbounded) : s.room.Unbounded := by
    rw [asked_eq] at h
    rw [← counted_room id c s]
    exact (push_unbounded _ _).mp h
  induction course with
  | cancelled hc => exact h
  | succeeded hc hi =>
    rw [← State.invoked_room _ id]
    exact h
  | failed hc why =>
    rw [State.failed_room, State.invoked_room] at h
    exact h
  | unscheduled hc hr cause ha hh =>
    rw [State.failed_room] at h
    exact asked h
  | @stalled left c s f pause contained refusal fault hc hr ha hp =>
    rw [State.failed_room] at h
    rw [← counted_room id c s]
    exact h
  | held hc hr ha => exact asked h
  | again hc hr ha hp rest ih => exact asked (ih h)

/-- A call that is started now follows its script or is turned away. -/
theorem Started.follows {name : String} {operation : Operation} {options : Options}
    (started : Started (queued p chance) name operation options s t)
    (hj : p.jitterFactor.le 0 = true) (habout : s.about s.calls.length = [])
    (hfree : options.deadline = none) (hq : t.room.Unbounded) (hpace : t.Paced s.calls.length) :
    Follows (.lone p operation options.token) False s.calls.length t ∨
      t.Rejected s.calls.length := by
  have along : Along (.lone p operation options.token) False s.calls.length (.first p none)
      (s.gated name operation options) := along_gated habout p name operation False.elim
  have hw : ((s.gated name operation options).call s.calls.length).waiting = none := by
    rw [State.call_append_last (State.gated_calls s name operation options)]
  have undue {deadline : Option Deadline}
      (hd : (s.gated name operation options).deadlineAfter options.deadline = .ok deadline) :
      deadline = none := by
    rw [hfree] at hd
    cases hd
    rfl
  -- A fault of the first attempt takes the handle away, and nothing that the script dictates.
  have follows {deadline : Option Deadline} {u : State (Queue Request)} (hd : deadline = none)
      (course : Course (queued p chance) s.calls.length (p.maxAttempts.toNat - 1)
        (.first p deadline) (s.gated name operation options) u)
      (hq : u.room.Unbounded) (hpace : u.Paced s.calls.length) :
      Follows (.lone p operation options.token) False s.calls.length u := by
    subst hd
    exact course.follows hj along hw rfl (course.unbounded hq) (course.paced along hpace)
  cases started with
  | barred hs =>
    have htale : (s.gated name operation options).tale s.calls.length = [] := by
      rw [State.tale, State.gated_about, habout]
      rfl
    exact .inl ((along.follows hw htale).of_passes (passes_dropHandle _ _ _)
      (later_dropHandle _ _))
  | @rejected remaining hl hr =>
    obtain ⟨call, hcall, hd, -, hw⟩ := deliver_gated s name operation options
      (.error (.circuitOpen remaining))
    refine .inr ⟨remaining, ?_, ?_⟩
    · rw [hcall]
      exact hd
    · rw [hcall]
      exact hw
  | admitted hl hd course => exact .inl (follows (undue hd) course hq hpace)
  | @thrown deadline u hl hd course =>
    have hknown := Nat.lt_of_lt_of_le (State.lt_length_gated s name operation options)
      course.later.length
    have hbefore := hpace.earlier hknown (later_dropHandle u _) List.suffix_rfl
    exact .inl ((follows (undue hd) course hq hbefore).of_passes (passes_dropHandle _ _ _)
      (later_dropHandle _ _))

/-- What an action does to a call that follows its script: it passes it, or makes its next attempt. -/
theorem Acted.follows (acted : Acted (queued x.policy chance) s a t)
    (hj : x.policy.jitterFactor.le 0 = true) (patient : a.patient = true) (hq : t.room.Unbounded)
    (hpace : t.Paced id) (hid : id < s.calls.length) (h : Follows x False id s) :
    Follows x False id t := by
  have later := acted.later
  rcases acted.passes queueCustody hid with hp | ⟨r, room, hr, rfl | rfl⟩
  · exact h.of_passes hp later
  · subst hr
    cases acted with
    | resumed hw course =>
      have along := (h.waits _ hw).released room
      have hwaiting := congrArg Call.waiting (released_call hid room)
      exact course.follows hj along hwaiting rfl (course.unbounded hq) (course.paced along hpace)
    | spent ha hw =>
      exact h.of_passes (.of_call rfl rfl) later
    | still ha => cases ha
  · cases patient

/-- Every call that is known follows its script or was turned away. -/
theorem Run.follows {room : Queue Request}
    (run : Run (queued p chance) queueCustody (·.room.Unbounded) (initial (queued p chance) room)
      as s)
    (hj : p.jitterFactor.le 0 = true) (patient : ∀ a ∈ as, a.patient = true) (hid : id < s.calls.length)
    (hpace : s.Paced id) :
    Follows ((s.call id).plan p) False id s ∨ s.Rejected id := by
  generalize hs : initial (queued p chance) room = s₀ at run
  induction run with
  | nil =>
    subst hs
    exact absurd hid (Nat.not_lt_zero id)
  | @snoc u as a run allowed hq ih =>
    subst hs
    have acted := act_acted (queued p chance) u a
    have now := patient a (List.mem_append_right _ List.mem_cons_self)
    by_cases hknown : id < u.calls.length
    · have hcall := acted.later.calls id hknown
      have hplan : (((queued p chance).act u a).call id).plan p = (u.call id).plan p := by
        rw [Call.plan, hcall.operation, hcall.token, Call.plan]
      have hbefore := hpace.earlier hknown acted.later (acted.turn queueCustody id).about_suffix
      rw [hplan]
      rcases ih (fun b hb => patient b (List.mem_append_left _ hb)) hknown hbefore with
        follows | ⟨remaining, hd, hw⟩
      · exact .inl (acted.follows hj now hq hpace hknown follows)
      · obtain ⟨hsettled, hsame, -⟩ := acted_of_settled queueCustody ⟨⟨_, hd⟩, hw⟩ acted
        exact .inr ⟨remaining, hsame.trans hd, hsettled.2⟩
    · obtain ⟨rfl, name, operation, options, rfl, started⟩ := acted.started_of_new queueCustody hid
        hknown
      rw [started.plan_eq]
      exact started.follows hj (run.about_unknown _ (Nat.le_refl _)) (Option.isNone_iff_eq_none.mp now) hq
        hpace

/-! ### The call on an engine of its own -/

/-- The call is started on a fresh engine and run until nothing waits. -/
def alone (p : Policy) (chance : Nat → Nat → Draw) (name : String) (operation : Operation)
    (token : Option String) : State (Queue Request) :=
  let e := queued p chance
  (Queued.runAll e (e.execute name operation ⟨token, none⟩ (initial e (.empty none))).1).1

/-- All steps of the script were made, and the outcome was handed over. -/
structure Told (x : Plan) (id : Nat) (s : State (Queue Request)) : Prop where
  tale : s.tale id = x.wholeTale
  delivered : (s.call id).delivered = x.wholeTale.filterMap Step.outcome?

theorem followed_later (p : Policy) (chance : Nat → Nat → Draw) (n ran id : Nat)
    (r : State (Queue Request) × Option Fault) :
    r.1.Later (followed (queued p chance) n ran r).1 ∧
      r.1.about id <:+ (followed (queued p chance) n ran r).1.about id := by
  rcases r with ⟨s, fault⟩
  cases fault with
  | some fault => exact ⟨.refl s, List.suffix_rfl⟩
  | none =>
    apply go_related (queued p chance) (R := fun s t => s.Later t ∧ s.about id <:+ t.about id)
    · intro s
      exact ⟨.refl s, List.suffix_rfl⟩
    · intro s t u first rest
      exact ⟨first.1.trans rest.1, first.2.trans rest.2⟩
    · intro s r room
      have acted := act_acted (queued p chance) s (.run r room)
      exact ⟨acted.later, (acted.turn queueCustody id).about_suffix⟩

/-- An attempt that ends its call makes the last steps of the script. -/
theorem told_of_ends {r : State (Queue Request) × Option Fault} {log : List Duration}
    (hj : x.policy.jitterFactor.le 0 = true) (along : Along x True id c s)
    (hw : (s.call id).waiting = none) (hroom : s.room = idleQueue log)
    (hleft : left = x.policy.maxAttempts.toNat - c.attempt)
    (ends : Ends (queued x.policy chance) id left c s r) (hpace : r.1.Paced id)
    (hdated : r.1.Dated) : Told x id r.1 := by
  have course : Course (queued x.policy chance) id left c s r.1 := by
    rw [← ends.run_eq]
    exact run_course _ id left c s
  have hq : s.room.Unbounded := by
    rw [hroom]
    exact ⟨rfl, rfl⟩
  have hidle (t : State (Queue Request)) (ht : t.room = idleQueue log) :
      Custody.tickets (e := queued x.policy chance) queueCustody t id = [] := by
    change t.room.waiting.filter _ = []
    rw [ht]
    rfl
  have hand : Custody.InHand (e := queued x.policy chance) queueCustody s id :=
    ⟨along.known, along.pending, hw, hidle s hroom⟩
  -- Nothing is held after the attempt, so that the call cannot be waiting for another one.
  rcases course.ends_of_dated hand hdated with ⟨⟨o, ho⟩, -⟩ | ⟨-, _, _, -, howned, -⟩
  · have follows := course.follows hj along hw hleft hq (course.paced along hpace)
    rcases follows.told with ⟨-, htold⟩ | ⟨hlone, -⟩
    · have hwhole : r.1.tale id = x.wholeTale := by
        apply htold
        rw [ho]
        exact List.cons_ne_nil o []
      refine ⟨hwhole, ?_⟩
      rw [← hwhole]
      exact follows.outcomes
    · exact absurd trivial hlone
  · rw [hidle r.1 (ends.room.trans hroom)] at howned
    cases howned

/-- The attempts of a call that has the queue to itself make the steps of its script. -/
theorem told_of_run {log : List Duration} (hj : x.policy.jitterFactor.le 0 = true)
    (along : Along x True id c s) (hw : (s.call id).waiting = none) (hroom : s.room = idleQueue log)
    (hleft : left = x.policy.maxAttempts.toNat - c.attempt) (hn : left ≤ n)
    {t : State (Queue Request)} (ht : t = (followed (queued x.policy chance) n ran
      ((queued x.policy chance).run id left c s)).1) (hpace : t.Paced id) (hdated : t.Dated) :
    Told x id t := by
  -- On the attempts left: each attempt either ends the call, or is followed by the round that makes
  -- the next one, in a queue that is empty again.
  induction left using Nat.strongRecOn generalizing c s n ran log with
  | ind left ih =>
  rcases ends_or_retries (queued x.policy chance) id left c s with ⟨r, ends⟩ | ⟨hc, f, retries⟩
  · have hidle : r.1.room.waiting = [] := congrArg Queue.waiting (ends.room.trans hroom)
    have hstop : t = r.1 := by
      rw [ht, ends.run_eq]
      rcases r with ⟨u, fault⟩
      cases fault with
      | some fault => rfl
      | none => exact congrArg Prod.fst (go_of_idle n ran hidle)
    subst hstop
    exact told_of_ends hj along hw hroom hleft ends hpace hdated
  · obtain ⟨k, rfl⟩ := Nat.exists_eq_succ_of_ne_zero retries.allowed
    obtain ⟨m, rfl⟩ : ∃ m, n = m + 1 := ⟨n - 1, by omega⟩
    have course : Course (queued x.policy chance) id (k + 1) c s
        (((queued x.policy chance).asked id c s).1.hold id (c.next x.policy)) :=
      .held hc retries (asked_queued x.policy chance hroom id c).1
    have hrun := run_queued hroom hc retries
    -- The invocation is still in the journal when the loop is over.
    obtain ⟨later, hsuffix⟩ := followed_later x.policy chance (m + 1) ran id
      ((queued x.policy chance).run id (k + 1) c s)
    rw [← ht, hrun] at later hsuffix
    have hbefore := hpace.earlier (Nat.lt_of_lt_of_le along.known course.later.length) later hsuffix
    have next := along.held hj (course.paced along hbefore hc) hleft hc retries
    have bare := bare_asked (e := queued x.policy chance) ⟨along.known, hw⟩ c
    have hone := (asked_queued x.policy chance hroom id c).2
    rw [hrun, followed_hold bare.known bare.waiting rfl hone] at ht
    have hfree : ((((queued x.policy chance).asked id c s).1.withRoom
        (idleQueue (log ++ [(queued x.policy chance).delay id c]))).call id).waiting = none :=
      bare.waiting
    have released := next.released (idleQueue (log ++ [(queued x.policy chance).delay id c]))
    have hback : ((((queued x.policy chance).asked id c s).1.hold id (c.next x.policy)).withRoom
        (idleQueue (log ++ [(queued x.policy chance).delay id c]))).release id = _ :=
      release_hold hfree (c.next x.policy)
    rw [hback] at released
    have hleft' : k = (queued x.policy chance).policy.maxAttempts.toNat -
        (c.next x.policy).attempt := by
      change k = x.policy.maxAttempts.toNat - (c.attempt + 1)
      omega
    rw [← hleft'] at ht
    exact ih k (Nat.lt_succ_self k) released hfree rfl hleft' (by omega) ht

/-- Only an attempt that ends its call throws a fault. -/
theorem ends_of_fault {log : List Duration} {fault : Fault} (hroom : s.room = idleQueue log)
    (hrun : (queued p chance).run id left c s = (t, some fault)) :
    Ends (queued p chance) id left c s (t, some fault) := by
  rcases ends_or_retries (queued p chance) id left c s with ⟨r, ends⟩ | ⟨hc, f, retries⟩
  · rw [← hrun, ends.run_eq]
    exact ends
  · obtain ⟨k, rfl⟩ := Nat.exists_eq_succ_of_ne_zero retries.allowed
    rw [run_queued hroom hc retries] at hrun
    cases hrun

theorem Told.dropHandle (told : Told x id s) : Told x id (s.dropHandle id) :=
  ⟨told.tale, (passes_dropHandle s id id).delivered.trans told.delivered⟩

theorem look_initial {Room : Type} (e : Engine Room) (room : Room) (name : String)
    (operation : Operation) (token : Option String) :
    ((initial e room).enroll name operation token).look.2 = .ok false := by
  obtain ⟨tokens, henrolled⟩ := State.enroll_eq (initial e room) name operation token
  rw [henrolled]
  by_cases hb : e.policy.breakerEnabled = true
  · have hbreaker : (initial e room).breaker = some (.fresh e.policy.breaker) := if_pos hb
    simp only [State.look, hbreaker, Breaker.isOpen, Breaker.fresh]
  · have hbreaker : (initial e room).breaker = none := if_neg hb
    simp only [State.look, hbreaker]

/-- A new call is cancelled from the beginning if its token was cancelled before. -/
theorem isCancelled_gated {Room : Type} (s : State Room) (name : String) (operation : Operation)
    (options : Options) : (s.gated name operation options).isCancelled s.calls.length =
      options.token.any s.tokenCancelled := by
  have hcall := State.call_append_last (State.gated_calls s name operation options)
  obtain ⟨_, _, hlook⟩ := State.look_eq (s.enroll name operation options.token)
  have htokens : (s.gated name operation options).tokens =
      (s.enroll name operation options.token).tokens := by
    rw [State.gated, hlook]
  rw [State.isCancelled, hcall, Bool.false_or]
  cases ht : options.token with
  | none => rfl
  | some token =>
    change (s.gated name operation options).tokenCancelled token = s.tokenCancelled token
    rw [ht] at htokens
    rw [← State.tokenCancelled_addToken s token token, State.tokenCancelled, htokens]
    rfl

theorem told_alone (hj : p.jitterFactor.le 0 = true) (chance : Nat → Nat → Draw) (name : String)
    (operation : Operation) (token : Option String)
    (hpace : (alone p chance name operation token).Paced 0)
    (hdated : (alone p chance name operation token).Dated) :
    Told (.lone p operation token) 0 (alone p chance name operation token) := by
  let s₀ := initial (queued p chance) (.empty none)
  let gate := s₀.gated name operation ⟨token, none⟩
  let ran := (queued p chance).run 0 (p.maxAttempts.toNat - 1) (.first p none) gate
  have hfree : gate.isCancelled 0 = false := by
    have hgate : gate.isCancelled 0 = token.any s₀.tokenCancelled :=
      isCancelled_gated s₀ name operation ⟨token, none⟩
    rw [hgate]
    cases token <;> rfl
  have along : Along (.lone p operation token) True 0 (.first p none) gate :=
    along_gated rfl p name operation fun _ => hfree
  have bare : gate.Bare 0 := bare_gated s₀ name operation ⟨token, none⟩
  have hroom : gate.room = idleQueue [] := State.gated_room s₀ name operation ⟨token, none⟩
  have halone : alone p chance name operation token = (Queued.runAll (queued p chance)
      (if ran.2.isSome then ran.1.dropHandle 0 else ran.1)).1 := by
    have hl : (s₀.enroll name operation token).look.2 = .ok false :=
      look_initial (queued p chance) (.empty none) name operation token
    have hd : gate.deadlineAfter none = .ok none := rfl
    have hstarted : (queued p chance).execute name operation ⟨token, none⟩ s₀ =
        (if ran.2.isSome then ran.1.dropHandle 0 else ran.1, ran.2) := execute_eq_of_admitted hl hd
    change (Queued.runAll _ ((queued p chance).execute name operation ⟨token, none⟩ s₀).1).1 = _
    rw [hstarted]
  rw [halone] at hpace hdated ⊢
  rcases hran : ran with ⟨t, _ | fault⟩
  · rw [hran] at hpace hdated
    obtain ⟨n, hn, hrounds⟩ : ∃ n, p.maxAttempts.toNat - 1 ≤ n ∧
        Queued.runAll (queued p chance) ran.1 = followed (queued p chance) n 0 (ran.1, none) :=
      runAll_eq_followed 0 hroom rfl
    have hloop : (Queued.runAll (queued p chance) t).1 =
        (followed (queued p chance) n 0 ran).1 := by
      rw [hran] at hrounds ⊢
      exact congrArg Prod.fst hrounds
    exact told_of_run hj along bare.waiting hroom rfl hn hloop hpace hdated
  · rw [hran] at hpace hdated
    have ends := ends_of_fault hroom hran
    -- The attempt leaves nothing for the loop, which stops where it begins.
    have hidle : (t.dropHandle 0).room.waiting = [] :=
      congrArg Queue.waiting (ends.room.trans hroom)
    have hstop : (Queued.runAll (queued p chance) (t.dropHandle 0)).1 = t.dropHandle 0 :=
      congrArg Prod.fst (go_of_idle _ 0 hidle)
    change ((Queued.runAll (queued p chance) (t.dropHandle 0)).1).Paced 0 at hpace
    change ((Queued.runAll (queued p chance) (t.dropHandle 0)).1).Dated at hdated
    change Told _ 0 (Queued.runAll (queued p chance) (t.dropHandle 0)).1
    rw [hstop] at hpace hdated ⊢
    have course := run_course (queued p chance) 0 (p.maxAttempts.toNat - 1) (.first p none) gate
    rw [ends.run_eq] at course
    have hknown := Nat.lt_of_lt_of_le along.known course.later.length
    have hbefore := hpace.earlier hknown (later_dropHandle t 0) List.suffix_rfl
    exact (told_of_ends hj along bare.waiting hroom rfl ends hbefore hdated).dropHandle

/-! ### Calls do not disturb each other -/

/-- On an unbounded queue that is not shut down, without jitter and without deadlines, whatever is
started, run, cancelled or given up in whatever order, and however the clock is moved, a call makes the
first steps that it makes alone on a fresh engine: the same invocations, the same requests with the
same waits and the same outcome. Once it is settled it has made all of them, unless it was rejected or
ended as cancelled. Alone or not, the clock has to be able to follow the invocations of the call. -/
theorem undisturbed (hj : p.jitterFactor.le 0 = true) (chance chance' : Nat → Nat → Draw)
    (run : Run (queued p chance) queueCustody (·.room.Unbounded)
      (initial (queued p chance) (.empty none)) as s)
    (patient : ∀ a ∈ as, a.patient = true) (hid : id < s.calls.length) :
    let call := s.call id
    let lone := alone p chance' call.name call.operation call.token
    s.Paced id → lone.Paced 0 → lone.Dated →
    (∀ remaining, .error (.circuitOpen remaining) ∉ call.delivered) →
    (s.isCancelled id = true → ∀ n, .error (.cancelled n) ∉ call.delivered) →
      s.tale id <+: lone.tale 0 ∧
      (call.delivered ≠ [] →
        s.tale id = lone.tale 0 ∧ call.delivered = (lone.call 0).delivered) := by
  intro call lone hpace hpace' hdated admitted uncancelled
  have told : Told (call.plan p) 0 lone :=
    told_alone hj chance' call.name call.operation call.token hpace' hdated
  rcases run.follows hj patient hid hpace with follows | ⟨remaining, hd, -⟩
  · rcases follows.told with ⟨hfirst, hall⟩ | ⟨-, ⟨n, hd⟩, hc⟩
    · rw [told.tale]
      refine ⟨hfirst, fun hsettled => ?_⟩
      have hwhole := hall hsettled
      refine ⟨hwhole, ?_⟩
      rw [told.delivered, ← hwhole]
      exact follows.outcomes
    · apply absurd _ (uncancelled hc n)
      rw [hd]
      exact List.mem_singleton_self _
  · apply absurd _ (admitted remaining)
    change _ ∈ (s.call id).delivered
    rw [hd]
    exact List.mem_singleton_self _

end

/-- Without a breaker and without jitter. -/
def calm : Policy := { Policy.standard with jitterFactor := 0 }

/-- The state after actions in a row. -/
def calmAfter (as : List (Action (Queue Request))) : State (Queue Request) :=
  as.foldl (queued calm fun _ _ => .middle).act
    (initial (queued calm fun _ _ => .middle) (.empty none))

/-- The start of a call that fails once and then takes some time to succeed. -/
def startRecovering (time : Duration) : Action (Queue Request) :=
  .start "svc" (.ofScript ⟨none, none, .failure (.plain .connection "refused")⟩
    [⟨some time, none, .value 7⟩]) ⟨none, none⟩

/-- The queue runs the retry of the first of two calls. -/
def runFirstOfTwo : Action (Queue Request) :=
  .run ⟨0, "svc", 2, .ofMillis 1000, .zero, false⟩
    ⟨none, [⟨1, "svc", 2, .ofMillis 1000, .zero, false⟩], [.ofMillis 1000, .ofMillis 1000], false⟩

/-- Another call that fails again and again is started and the clock is moved while a call waits for its
retry. -/
theorem undisturbed_recovering :
    let as : List (Action (Queue Request)) :=
      [startRecovering (.ofMillis 5), startRefused, .advance (.ofMillis 3), runFirstOfTwo]
    let s := calmAfter as
    let lone := alone calm (fun _ _ => .middle) "svc" (s.call 0).operation none
    Run (queued calm fun _ _ => .middle) queueCustody (·.room.Unbounded) (calmAfter []) as s ∧
    (s.call 0).delivered = [.ok 7] ∧ (s.call 1).delivered = [] ∧
    s.tale 0 = lone.tale 0 ∧ (lone.call 0).delivered = [.ok 7] := by
  intro as s lone
  have h0 : Run (queued calm fun _ _ => .middle) queueCustody (·.room.Unbounded) (calmAfter []) []
      (calmAfter []) := .nil ⟨rfl, rfl⟩
  have h1 := h0.snoc (a := startRecovering (.ofMillis 5)) trivial ⟨by decide, by decide⟩
  have h2 := h1.snoc (a := startRefused) trivial ⟨by decide, by decide⟩
  have h3 := h2.snoc (a := .advance (.ofMillis 3)) trivial ⟨by decide, by decide⟩
  have h4 := h3.snoc (a := runFirstOfTwo) (List.Perm.of_eq (by decide +kernel))
    ⟨by decide, by decide⟩
  have patient : ∀ a ∈ as, a.patient = true := by decide
  have hj : calm.jitterFactor.le 0 = true := by decide +kernel
  have hsettled : (s.call 0).delivered = [.ok 7] := by decide
  have hadmitted (remaining : Option Duration) :
      (.error (.circuitOpen remaining) : Outcome) ∉ (s.call 0).delivered := by
    rw [hsettled]
    simp
  have hcancelled : s.isCancelled 0 = true →
      ∀ n, (.error (.cancelled n) : Outcome) ∉ (s.call 0).delivered := by
    intro _ n
    rw [hsettled]
    simp
  have hknown : 0 < s.calls.length := by decide
  obtain ⟨-, hall⟩ := undisturbed hj (fun _ _ => .middle) (fun _ _ => .middle) h4 patient hknown
    (by decide) (by decide) (.inl (by decide)) hadmitted hcancelled
  have hdone : (s.call 0).delivered ≠ [] := by
    rw [hsettled]
    exact List.cons_ne_nil _ _
  obtain ⟨htale, hdelivered⟩ := hall hdone
  exact ⟨h4, hsettled, by decide, htale, hdelivered.symm.trans hsettled⟩

/-- A call does not always come to what it comes to alone: the clock is set as far as it goes while
its retry waits, and the retry gives up because it cannot take a nanosecond. -/
theorem disturbed_by_clock :
    ¬ ∀ (as : List (Action (Queue Request))) (s : State (Queue Request)),
      Run (queued calm fun _ _ => .middle) queueCustody (·.room.Unbounded) (calmAfter []) as s →
      (∀ a ∈ as, a.patient = true) → ∀ id, id < s.calls.length →
      (∀ remaining, .error (.circuitOpen remaining) ∉ (s.call id).delivered) →
      s.isCancelled id = false → (s.call id).delivered ≠ [] →
        s.tale id = (alone calm (fun _ _ => .middle) (s.call id).name (s.call id).operation
          (s.call id).token).tale 0 := by
  intro all
  let latest : Duration := ⟨Duration.maxNanos, Nat.le_refl _⟩
  let as : List (Action (Queue Request)) :=
    [startRecovering (.ofNanos 1), .setElapsed latest, runFirst]
  have h0 : Run (queued calm fun _ _ => .middle) queueCustody (·.room.Unbounded) (calmAfter []) []
      (calmAfter []) := .nil ⟨rfl, rfl⟩
  have h1 := h0.snoc (a := startRecovering (.ofNanos 1)) trivial
    ⟨by decide, by decide⟩
  have h2 := h1.snoc (a := .setElapsed latest) trivial ⟨by decide, by decide⟩
  have h3 := h2.snoc (a := runFirst) (List.Perm.of_eq (by decide +kernel))
    ⟨by decide, by decide⟩
  have patient : ∀ a ∈ as, a.patient = true := by decide
  have hpanicked : ((calmAfter as).call 0).delivered = [.error (.operationPanicked 2)] := by
    decide
  have hadmitted (remaining : Option Duration) :
      (.error (.circuitOpen remaining) : Outcome) ∉ ((calmAfter as).call 0).delivered := by
    rw [hpanicked]
    simp
  have hdone : ((calmAfter as).call 0).delivered ≠ [] := by
    rw [hpanicked]
    exact List.cons_ne_nil _ _
  have hsame := all as (calmAfter as) h3 patient 0 (by decide) hadmitted (by decide)
    hdone
  exact absurd hsame (by decide +kernel)

end Reattempt.Engine
