import Reattempt.Proofs.Course

/-!
Runs of an engine. A run is a list of actions: calls are started, handles are used, the clock is
moved, the breaker is asked, and the scheduler lets go of attempts that it holds, to run them or to
drop them. Nothing is assumed about when it does so, or in which order.

`Custody` is the view of a scheduler that a run needs: the attempts it holds.
-/
namespace Reattempt.Engine

variable {Room : Type}

/-! ### Starting a call -/

/-- How the start of a call can end; the number of the call is that of the calls before it. -/
inductive Started (e : Engine Room) (name : String) (operation : Operation) (options : Options)
    (s : State Room) : State Room → Prop
  /-- The clock could not be read before the first attempt, and the call never began. -/
  | barred (hs : ¬ s.clock.Readable) :
      Started e name operation options s
        ((s.gated name operation options).dropHandle s.calls.length)
  | rejected {remaining : Option Duration}
      (hl : (s.enroll name operation options.token).look.2 = .ok true)
      (hr : (s.gated name operation options).remaining = .ok remaining) :
      Started e name operation options s
        ((s.gated name operation options).deliver s.calls.length (.error (.circuitOpen remaining)))
  | admitted {deadline : Option Deadline} {t : State Room}
      (hl : (s.enroll name operation options.token).look.2 = .ok false)
      (hd : (s.gated name operation options).deadlineAfter options.deadline = .ok deadline)
      (course : Course e s.calls.length (e.policy.maxAttempts.toNat - 1) (.first e.policy deadline)
        (s.gated name operation options) t) :
      Started e name operation options s t
  /-- A fault of the first attempt leaves the caller without a handle. -/
  | thrown {deadline : Option Deadline} {t : State Room}
      (hl : (s.enroll name operation options.token).look.2 = .ok false)
      (hd : (s.gated name operation options).deadlineAfter options.deadline = .ok deadline)
      (course : Course e s.calls.length (e.policy.maxAttempts.toNat - 1) (.first e.policy deadline)
        (s.gated name operation options) t) :
      Started e name operation options s (t.dropHandle s.calls.length)

section

variable {e : Engine Room} {name : String} {operation : Operation} {options : Options}
  {s : State Room}

theorem State.look_enroll {answer : Except Fault Bool}
    (hl : (s.enroll name operation options.token).look.2 = answer) :
    (s.enroll name operation options.token).look = (s.gated name operation options, answer) :=
  Prod.ext rfl hl

theorem execute_of_unanswered {fault : Fault}
    (hl : (s.enroll name operation options.token).look.2 = .error fault) :
    (e.execute name operation options s).1 =
      (s.gated name operation options).dropHandle s.calls.length := by
  simp only [execute, State.look_enroll hl]

theorem execute_of_rejected {remaining : Option Duration}
    (hl : (s.enroll name operation options.token).look.2 = .ok true)
    (hr : (s.gated name operation options).remaining = .ok remaining) :
    e.execute name operation options s =
      ((s.gated name operation options).deliver s.calls.length (.error (.circuitOpen remaining)),
        none) := by
  simp only [execute, State.look_enroll hl, hr]

theorem execute_of_unknown {fault : Fault}
    (hl : (s.enroll name operation options.token).look.2 = .ok true)
    (hr : (s.gated name operation options).remaining = .error fault) :
    (e.execute name operation options s).1 =
      (s.gated name operation options).dropHandle s.calls.length := by
  simp only [execute, State.look_enroll hl, hr]

theorem execute_of_undue {fault : Fault}
    (hl : (s.enroll name operation options.token).look.2 = .ok false)
    (hd : (s.gated name operation options).deadlineAfter options.deadline = .error fault) :
    (e.execute name operation options s).1 =
      (s.gated name operation options).dropHandle s.calls.length := by
  simp only [execute, State.look_enroll hl, hd]

/-- An admitted call runs its first attempt; a fault in it takes the handle away. -/
theorem execute_of_admitted {deadline : Option Deadline}
    (hl : (s.enroll name operation options.token).look.2 = .ok false)
    (hd : (s.gated name operation options).deadlineAfter options.deadline = .ok deadline) :
    (e.execute name operation options s).1 =
      let ran := e.run s.calls.length (e.policy.maxAttempts.toNat - 1)
        (.first e.policy deadline) (s.gated name operation options)
      if ran.2.isSome then ran.1.dropHandle s.calls.length else ran.1 := by
  simp only [execute, State.look_enroll hl, hd]
  split <;> simp_all

theorem execute_started (e : Engine Room) (name : String) (operation : Operation)
    (options : Options) (s : State Room) :
    Started e name operation options s (e.execute name operation options s).1 := by
  have hclock : (s.gated name operation options).clock = s.clock := State.gated_clock ..
  cases hl : (s.enroll name operation options.token).look.2 with
  | error fault =>
    rw [execute_of_unanswered hl]
    refine .barred fun hs => State.not_readable_of_look hl ?_
    obtain ⟨_, he⟩ := State.enroll_eq s name operation options.token
    rwa [he]
  | ok isOpen =>
    cases isOpen with
    | true =>
      cases hr : (s.gated name operation options).remaining with
      | error fault =>
        rw [execute_of_unknown hl hr]
        exact .barred fun hs => State.not_readable_of_remaining hr (hclock ▸ hs)
      | ok remaining =>
        rw [execute_of_rejected hl hr]
        exact .rejected hl hr
    | false =>
      cases hd : (s.gated name operation options).deadlineAfter options.deadline with
      | error fault =>
        rw [execute_of_undue hl hd]
        exact .barred fun hs => State.not_readable_of_deadlineAfter hd (hclock ▸ hs)
      | ok deadline =>
        rw [execute_of_admitted hl hd]
        have course := run_course e s.calls.length (e.policy.maxAttempts.toNat - 1)
          (.first e.policy deadline) (s.gated name operation options)
        dsimp only
        split
        · exact .thrown hl hd course
        · exact .admitted hl hd course

end

/-! ### Actions -/

/-- What can happen to an engine while none of its attempts is being run. -/
inductive Action (Room : Type) where
  | start (name : String) (operation : Operation) (options : Options)
  /-- The scheduler lets go of an attempt and runs it; `room` is what it remembers before that. -/
  | run (r : Request) (room : Room)
  /-- The scheduler lets go of an attempt and drops it. -/
  | drop (r : Request) (room : Room)
  /-- The scheduler goes on without letting go of anything. -/
  | turn (room : Room)
  | poll (id : Nat)
  | await (id : Nat)
  /-- Whoever waited for an outcome goes on. -/
  | collect (id : Nat)
  | cancel (id : Nat)
  | giveUp (id : Nat)
  | cancelToken (token : String)
  | advance (d : Duration)
  | setElapsed (d : Duration)
  | askOpen
  | readMetrics
  | resetBreaker

def act (e : Engine Room) (s : State Room) : Action Room → State Room
  | .start name operation options => (e.execute name operation options s).1
  | .run r room => (e.runWaiting r.call { s with room }).1
  | .drop r room => (dropWaiting r.call { s with room }).1
  | .turn room => { s with room }
  | .poll id => (s.poll id).1
  | .await id => (s.await id).1
  | .collect id => (s.wait (fun s => s) id).1
  | .cancel id => s.cancelCall id
  | .giveUp id => s.dropHandle id
  | .cancelToken token => (s.addToken token).cancelToken token
  | .advance d => (s.advance d).1
  | .setElapsed d => s.setElapsed d
  | .askOpen => s.isOpen.1
  | .readMetrics => s.reading.1
  | .resetBreaker => s.resetBreaker

/-- A view of what a scheduler remembers as the attempts that it holds: an attempt handed over is
among them from then on if the scheduler decides to hold it. -/
structure Custody (scheduler : Scheduler Room) where
  held : Room → List Request
  held_answer : ∀ room r, (held (scheduler room r).room).Perm
    (if (scheduler room r).handling = .hold then r :: held room else held room)

/-- A scheduler lets go of what it holds and of nothing else, and a handle is used by one who has
it; whoever waits goes on once there is an outcome. -/
def Action.Allowed {scheduler : Scheduler Room} (custody : Custody scheduler) (s : State Room) :
    Action Room → Prop
  | .run r room | .drop r room => (custody.held s.room).Perm (r :: custody.held room)
  | .turn room => (custody.held s.room).Perm (custody.held room)
  | .collect id => s.hasHandle id = true ∧ (s.outcome? id).isSome = true
  | .poll id | .await id | .cancel id | .giveUp id => s.hasHandle id = true
  | _ => True

/-- Runs of which every state between two actions meets a condition. -/
inductive Run (e : Engine Room) (custody : Custody e.scheduler) (ok : State Room → Prop) :
    State Room → List (Action Room) → State Room → Prop
  | nil {s} (hs : ok s) : Run e custody ok s [] s
  | snoc {s t as a} (run : Run e custody ok s as t) (allowed : a.Allowed custody t)
      (ht : ok (e.act t a)) : Run e custody ok s (as ++ [a]) (e.act t a)

variable {e : Engine Room} {custody : Custody e.scheduler} {ok : State Room → Prop}
  {s t u : State Room} {as : List (Action Room)}

/-- What holds at the start of a run and is kept by every action holds at its end. -/
theorem Run.invariant (kept : State Room → Prop) (run : Run e custody ok s as t) (hs : kept s)
    (step : ∀ u a, kept u → a.Allowed custody u → ok u → ok (e.act u a) → kept (e.act u a)) :
    kept t := by
  -- The condition on the states is carried along, for the step may use it.
  have both : kept t ∧ ok t := by
    induction run with
    | nil h => exact ⟨hs, h⟩
    | snoc _ allowed ht ih => exact ⟨step _ _ ih.1 allowed ih.2 ht, ht⟩
  exact both.1

theorem Run.ok_end (run : Run e custody ok s as t) : ok t := by
  cases run with
  | nil hs => exact hs
  | snoc _ _ ht => exact ht

/-! ### Actions that run nothing -/

/-- Nothing was run: the calls are where they were, and no handle came to be. -/
structure State.Unmoved (s t : State Room) : Prop where
  room : t.room = s.room
  length : t.calls.length = s.calls.length
  metrics : t.metrics = s.metrics
  about : ∀ j, t.about j = s.about j
  invocations : ∀ j, (t.call j).invocations = (s.call j).invocations
  waiting : ∀ j, (t.call j).waiting = (s.call j).waiting
  delivered : ∀ j, (t.call j).delivered = (s.call j).delivered
  live : ∀ j, (t.call j).handle = .live → (s.call j).handle = .live

theorem State.Unmoved.of_calls (hc : t.calls = s.calls) (hr : t.room = s.room)
    (hm : t.metrics = s.metrics) (ha : ∀ j, t.about j = s.about j) : s.Unmoved t := by
  have h := State.call_congr hc
  refine ⟨hr, by rw [hc], hm, ha, ?_, ?_, ?_, ?_⟩ <;> intro j <;> rw [h j]
  exact fun hl => hl

theorem State.Unmoved.trans (hsu : s.Unmoved u) (hut : u.Unmoved t) : s.Unmoved t where
  room := hut.room.trans hsu.room
  length := hut.length.trans hsu.length
  metrics := hut.metrics.trans hsu.metrics
  about := fun j => (hut.about j).trans (hsu.about j)
  invocations := fun j => (hut.invocations j).trans (hsu.invocations j)
  waiting := fun j => (hut.waiting j).trans (hsu.waiting j)
  delivered := fun j => (hut.delivered j).trans (hsu.delivered j)
  live := fun j h => hsu.live j (hut.live j h)

/-- Marking a call as cancelled or its handle as used up moves nothing. -/
theorem State.unmoved_mark {s : State Room} {id : Nat} {f : Call → Call}
    (hi : ∀ c, (f c).invocations = c.invocations) (hw : ∀ c, (f c).waiting = c.waiting)
    (hd : ∀ c, (f c).delivered = c.delivered)
    (hl : ∀ c, (f c).handle = .live → c.handle = .live) : s.Unmoved (s.modifyCall id f) where
  room := rfl
  length := State.length_of_modify rfl
  metrics := rfl
  about := fun _ => rfl
  invocations := State.part_of_modify _ rfl hi
  waiting := State.part_of_modify _ rfl hw
  delivered := State.part_of_modify _ rfl hd
  live := fun j h => by
    by_cases hj : j = id
    · subst hj
      by_cases hlen : j < s.calls.length
      · rw [State.call_of_modify rfl hlen] at h
        exact hl _ h
      · have hle : (s.modifyCall j f).calls.length ≤ j := by
          rw [State.length_of_modify (s := s) rfl]
          omega
        rw [State.call_of_length_le hle] at h
        cases h
    · rwa [State.call_of_modify_ne rfl hj] at h

theorem State.unmoved_cancelCall (s : State Room) (id : Nat) : s.Unmoved (s.cancelCall id) :=
  unmoved_mark (fun _ => rfl) (fun _ => rfl) (fun _ => rfl) fun _ h => h

theorem State.unmoved_dropHandle (s : State Room) (id : Nat) : s.Unmoved (s.dropHandle id) :=
  unmoved_mark (fun _ => rfl) (fun _ => rfl) (fun _ => rfl) fun _ h => nomatch h

theorem State.unmoved_take (s : State Room) (id : Nat) : s.Unmoved (s.take id).1 := by
  unfold State.take
  split
  · exact unmoved_mark (fun _ => rfl) (fun _ => rfl) (fun _ => rfl) fun _ h => nomatch h
  · exact .of_calls rfl rfl rfl fun _ => rfl

theorem State.unmoved_poll (s : State Room) (id : Nat) : s.Unmoved (s.poll id).1 := by
  unfold State.poll
  split
  · exact .of_calls rfl rfl rfl fun _ => rfl
  · exact .of_calls rfl rfl rfl fun _ => rfl
  · exact s.unmoved_take id

theorem State.unmoved_await (s : State Room) (id : Nat) : s.Unmoved (s.await id).1 := by
  unfold State.await
  split
  · exact .of_calls rfl rfl rfl fun _ => rfl
  · exact .of_calls rfl rfl rfl fun _ => rfl
  · exact s.unmoved_take id

theorem State.unmoved_collect (s : State Room) (id : Nat) :
    s.Unmoved (s.wait (fun s => s) id).1 := by
  unfold State.wait
  split
  · exact .of_calls rfl rfl rfl fun _ => rfl
  · exact s.unmoved_dropHandle id
  · exact (s.unmoved_take id).trans (State.unmoved_dropHandle _ id)

theorem State.unmoved_cancelToken (s : State Room) (token : String) :
    s.Unmoved ((s.addToken token).cancelToken token) := by
  unfold State.addToken
  split <;> exact .of_calls rfl rfl rfl fun _ => rfl

theorem State.unmoved_look (s : State Room) : s.Unmoved s.look.1 := by
  have ha := s.look_about
  obtain ⟨_, _, h⟩ := State.look_eq s
  rw [h] at ha ⊢
  exact .of_calls rfl rfl rfl ha

theorem State.unmoved_resetBreaker (s : State Room) : s.Unmoved s.resetBreaker := by
  unfold State.resetBreaker
  split
  · exact .of_calls rfl rfl rfl fun _ => rfl
  · exact .of_calls rfl rfl rfl fun _ => State.about_cons_ne rfl fun h => nomatch h

theorem State.unmoved_advance (s : State Room) (d : Duration) : s.Unmoved (s.advance d).1 := by
  unfold State.advance
  split <;> exact .of_calls rfl rfl rfl fun _ => rfl

/-- The actions that neither run nor drop an attempt, and leave the scheduler alone. -/
def Action.still : Action Room → Bool
  | .start .. | .run .. | .drop .. | .turn _ => false
  | _ => true

theorem act_still (e : Engine Room) (s : State Room) {a : Action Room} (ha : a.still = true) :
    s.Unmoved (e.act s a) := by
  cases a with
  | start | run | drop | turn => cases ha
  | poll id => exact s.unmoved_poll id
  | await id => exact s.unmoved_await id
  | collect id => exact s.unmoved_collect id
  | cancel id => exact s.unmoved_cancelCall id
  | giveUp id => exact s.unmoved_dropHandle id
  | cancelToken token => exact s.unmoved_cancelToken token
  | advance d => exact s.unmoved_advance d
  | setElapsed d => exact .of_calls rfl rfl rfl fun _ => rfl
  | askOpen => exact s.unmoved_look
  | readMetrics => exact s.unmoved_look
  | resetBreaker => exact s.unmoved_resetBreaker

/-! ### What an action does -/

/-- What is let go for a call that does not wait does nothing, run or dropped. -/
theorem runWaiting_of_taken (e : Engine Room) {id : Nat} (h : (s.call id).waiting = none) :
    e.runWaiting id s = (s, none) := by
  simp only [runWaiting, h]

theorem dropWaiting_of_taken {id : Nat} (h : (s.call id).waiting = none) :
    dropWaiting id s = (s, none) := by
  simp only [dropWaiting, h]

theorem act_run_of_waiting (e : Engine Room) {r : Request} {c : Continuation} {room : Room}
    (hw : (s.call r.call).waiting = some c) : e.act s (.run r room) =
      (e.run r.call (e.policy.maxAttempts.toNat - c.attempt) c
        ((s.withRoom room).release r.call)).1 := by
  have hw' : ((s.withRoom room).call r.call).waiting = some c := hw
  change (e.runWaiting r.call (s.withRoom room)).1 = _
  simp only [runWaiting, hw']

theorem act_drop_of_waiting (e : Engine Room) {r : Request} {c : Continuation} {room : Room}
    (hw : (s.call r.call).waiting = some c) : e.act s (.drop r room) =
      ((s.withRoom room).release r.call).failed r.call (.scheduling (c.attempt - 1) .shutDown) := by
  have hw' : ((s.withRoom room).call r.call).waiting = some c := hw
  change (dropWaiting r.call (s.withRoom room)).1 = _
  simp only [dropWaiting, hw']
  exact State.abandon_fst _ r.call c

/-- From the state before an action to the state after it; each rule names one kind of action and all
that it can do. -/
inductive Acted (e : Engine Room) (s : State Room) : Action Room → State Room → Prop
  | started {name operation options t} (started : Started e name operation options s t) :
      Acted e s (.start name operation options) t
  /-- The attempt that was let go is the one its call waits for. -/
  | resumed {r room c t} (hw : (s.call r.call).waiting = some c)
      (course : Course e r.call (e.policy.maxAttempts.toNat - c.attempt) c
        ((s.withRoom room).release r.call) t) :
      Acted e s (.run r room) t
  | dropped {r room c} (hw : (s.call r.call).waiting = some c) :
      Acted e s (.drop r room) (((s.withRoom room).release r.call).failed r.call
        (.scheduling (c.attempt - 1) .shutDown))
  /-- Nothing waits for the attempt that was let go. -/
  | spent {a r room} (ha : a = .run r room ∨ a = .drop r room)
      (hw : (s.call r.call).waiting = none) : Acted e s a (s.withRoom room)
  | turned {room} : Acted e s (.turn room) (s.withRoom room)
  | still {a} (ha : a.still = true) : Acted e s a (e.act s a)

theorem act_acted (e : Engine Room) (s : State Room) (a : Action Room) :
    Acted e s a (e.act s a) := by
  cases a with
  | start name operation options => exact .started (execute_started e name operation options s)
  | run r room =>
    cases hw : (s.call r.call).waiting with
    | none =>
      have hrun : e.act s (.run r room) = s.withRoom room :=
        congrArg Prod.fst (runWaiting_of_taken (s := s.withRoom room) e hw)
      exact hrun ▸ .spent (.inl rfl) hw
    | some c =>
      rw [act_run_of_waiting e hw]
      exact .resumed hw (run_course e r.call _ c _)
  | drop r room =>
    cases hw : (s.call r.call).waiting with
    | none =>
      have hdrop : e.act s (.drop r room) = s.withRoom room :=
        congrArg Prod.fst (dropWaiting_of_taken (s := s.withRoom room) hw)
      exact hdrop ▸ .spent (.inr rfl) hw
    | some c =>
      rw [act_drop_of_waiting e hw]
      exact .dropped hw
  | turn room => exact .turned
  | _ => exact .still rfl

end Reattempt.Engine
