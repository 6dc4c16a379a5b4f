import Reattempt.Engine.Queued
import Reattempt.Proofs.Runs

/-!
Who owns a continuation. The scheduler holds attempts, and what it holds for a call matters only as
long as the call waits. A course writes one call and what is held for it, and leaves that call
settled, or waiting with one owner, or lost where its failure could not be dated.
-/
namespace Reattempt.Engine

variable {Room : Type} {e : Engine Room} {custody : Custody e.scheduler}
  {s t u : State Room} {id j left : Nat} {c : Continuation}

/-- The attempts of a call that the scheduler holds. -/
def Custody.tickets (custody : Custody e.scheduler) (s : State Room) (id : Nat) : List Request :=
  (custody.held s.room).filter (·.call = id)

/-- The call has its one outcome, and nothing of it waits. -/
def State.Settled (s : State Room) (id : Nat) : Prop :=
  (∃ o, (s.call id).delivered = [o]) ∧ (s.call id).waiting = none

/-- The call has no outcome, and one held attempt owns its continuation. -/
def Custody.Owns (custody : Custody e.scheduler) (s : State Room) (id : Nat) : Prop :=
  (s.call id).delivered = [] ∧ ∃ c r, (s.call id).waiting = some c ∧
    custody.tickets s id = [r] ∧ r.attempt = c.attempt

/-- The call has no outcome, nothing of it waits, and its failure could not be dated. -/
def State.Lost (s : State Room) (id : Nat) : Prop :=
  (s.call id).delivered = [] ∧ (s.call id).waiting = none ∧ ¬ s.Dated

/-- The call got past the gate: its operation was invoked, or it was answered without that. -/
def Call.Begun (c : Call) : Prop := c.invocations ≠ 0 ∨ c.delivered ≠ []

/-- Nobody but whoever runs the attempt has anything of the call. -/
structure Custody.InHand (custody : Custody e.scheduler) (s : State Room) (id : Nat) : Prop where
  known : id < s.calls.length
  pending : (s.call id).delivered = []
  taken : (s.call id).waiting = none
  unheld : custody.tickets s id = []

/-- Only one call is written, and only what is held for it changes. -/
structure Custody.Frame (custody : Custody e.scheduler) (id : Nat) (s t : State Room) : Prop where
  calls : ∃ f, t.calls = s.calls.modify id f
  others : ∀ j, j ≠ id → (custody.tickets t j).Perm (custody.tickets s j)
  known : ∀ r ∈ custody.held t.room, r.call = id ∨ r ∈ custody.held s.room

/-- What a queue holds is what waits in it. -/
def queueCustody : Custody Scheduler.queueing where
  held := Queue.waiting
  held_answer := fun q r => by
    cases h : q.refusal? with
    | none =>
      simp only [Scheduler.queueing, Queue.push, h]
      exact List.perm_append_singleton r q.waiting
    | some refusal =>
      simp only [Scheduler.queueing, Queue.push, h]
      exact List.Perm.refl _

/-! ### Tickets -/

theorem tickets_congr (h : t.room = s.room) (j : Nat) :
    custody.tickets t j = custody.tickets s j := by
  simp only [Custody.tickets, h]

/-- Handing over changes what is held for one call only, and only if the scheduler holds it. -/
theorem held_asked (e : Engine Room) (custody : Custody e.scheduler) (id : Nat)
    (c : Continuation) (s : State Room) : (custody.held (e.asked id c s).1.room).Perm
      (if (e.asked id c s).2.1 = .hold then e.request id c s :: custody.held s.room
        else custody.held s.room) := by
  have h := custody.held_answer (counted id c s).room (e.request id c s)
  rw [asked_eq]
  rwa [counted_room] at h ⊢

theorem tickets_asked_ne (hj : j ≠ id) :
    (custody.tickets (e.asked id c s).1 j).Perm (custody.tickets s j) := by
  have h := (held_asked e custody id c s).filter (·.call = j)
  split at h
  · have hn : decide ((e.request id c s).call = j) = false := decide_eq_false hj.symm
    rwa [List.filter_cons_of_neg (by simp [hn])] at h
  · exact h

theorem tickets_asked_of_not_held (h : (e.asked id c s).2.1 ≠ .hold) (j : Nat) :
    (custody.tickets (e.asked id c s).1 j).Perm (custody.tickets s j) := by
  have hp := held_asked e custody id c s
  rw [if_neg h] at hp
  exact hp.filter _

theorem tickets_asked_of_held (h : (e.asked id c s).2.1 = .hold)
    (hs : custody.tickets s id = []) :
    custody.tickets (e.asked id c s).1 id = [e.request id c s] := by
  have hp := (held_asked e custody id c s).filter (·.call = id)
  rw [if_pos h, List.filter_cons_of_pos (by simp [request])] at hp
  rw [Custody.tickets] at hs
  rw [hs] at hp
  exact List.perm_singleton.mp hp

theorem known_asked : ∀ r ∈ custody.held (e.asked id c s).1.room,
    r.call = id ∨ r ∈ custody.held s.room := by
  intro r hr
  have hr := (held_asked e custody id c s).mem_iff.mp hr
  split at hr
  · rcases List.mem_cons.mp hr with rfl | hr
    · exact .inl rfl
    · exact .inr hr
  · exact .inr hr

/-! ### Frames -/

theorem Custody.Frame.of_room (hc : ∃ f, t.calls = s.calls.modify id f) (hr : t.room = s.room) :
    custody.Frame id s t where
  calls := hc
  others := fun j _ => by rw [tickets_congr hr]
  known := fun r h => .inr (hr ▸ h)

theorem Custody.Frame.trans (hsu : custody.Frame id s u) (hut : custody.Frame id u t) :
    custody.Frame id s t where
  calls := by
    obtain ⟨f, hf⟩ := hsu.calls
    obtain ⟨g, hg⟩ := hut.calls
    exact ⟨g ∘ f, by rw [hg, hf, List.modify_modify_eq]⟩
  others := fun j hj => (hut.others j hj).trans (hsu.others j hj)
  known := fun r hr => (hut.known r hr).elim .inl (hsu.known r)

theorem Custody.Frame.length (h : custody.Frame id s t) : t.calls.length = s.calls.length := by
  obtain ⟨_, hf⟩ := h.calls
  exact State.length_of_modify hf

theorem Custody.Frame.call_ne (h : custody.Frame id s t) (hj : j ≠ id) : t.call j = s.call j := by
  obtain ⟨_, hf⟩ := h.calls
  exact State.call_of_modify_ne hf hj

theorem frame_invoked (custody : Custody e.scheduler) (s : State Room) (id n : Nat) :
    custody.Frame id s (s.invoked id n) :=
  .of_room ⟨_, State.invoked_calls s id n⟩ (State.invoked_room s id n)

theorem frame_failed (custody : Custody e.scheduler) (s : State Room) (id : Nat) (x : Ending) :
    custody.Frame id s (s.failed id x) :=
  .of_room (State.failed_calls s id x) (State.failed_room s id x)

theorem frame_asked (custody : Custody e.scheduler) (id : Nat) (c : Continuation)
    (s : State Room) : custody.Frame id s (e.asked id c s).1 where
  calls := ⟨_, asked_calls e id c s⟩
  others := fun _ hj => tickets_asked_ne hj
  known := known_asked

/-- A scheduler that remembers nothing of the request is as before. -/
theorem frame_restored (custody : Custody e.scheduler) (id : Nat) (c : Continuation)
    (s : State Room) :
    custody.Frame id s ((e.asked id c s).1.withRoom (counted id c s).room) :=
  .of_room ⟨_, asked_calls e id c s⟩ (counted_room id c s)

theorem frame_withClock (custody : Custody e.scheduler) (id : Nat) (s : State Room)
    (clock : Clock) : custody.Frame id s (s.withClock clock) :=
  .of_room ⟨fun call => call, (List.modify_id id s.calls).symm⟩ rfl

theorem Course.frame (course : Course e id left c s t) : custody.Frame id s t := by
  induction course with
  | cancelled hc => exact .of_room ⟨_, rfl⟩ rfl
  | succeeded hc hi =>
    exact (frame_invoked custody _ id _).trans (.of_room ⟨_, State.succeed_calls _ id _⟩ rfl)
  | failed hc why => exact (frame_invoked custody _ id _).trans (frame_failed custody _ id _)
  | unscheduled hc hr cause ha hh =>
    exact (frame_asked custody id _ _).trans (frame_failed custody _ id _)
  | stalled hc hr ha hp =>
    -- The room is the one before the answer, and so is what it holds.
    exact (frame_restored custody id _ _).trans (frame_failed custody _ id _)
  | held hc hr ha => exact (frame_asked custody id _ _).trans (.of_room ⟨_, rfl⟩ rfl)
  | again hc hr ha hp rest ih =>
    exact ((frame_asked custody id _ _).trans (frame_withClock custody id _ _)).trans ih

theorem invoked_about (s : State Room) (n : Nat) (hj : j ≠ id) :
    (s.invoked id n).about j = s.about j :=
  State.about_cons_ne (State.invoked_journal s id n) fun h => hj (Option.some.inj h).symm

theorem asked_about (e : Engine Room) (c : Continuation) (s : State Room) (hj : j ≠ id) :
    (e.asked id c s).1.about j = s.about j := by
  refine Eq.trans ?_ (invoked_about s c.attempt hj)
  exact State.about_cons_ne rfl fun h => hj (Option.some.inj h).symm

theorem deliver_about (s : State Room) (o : Outcome) (hj : j ≠ id) :
    (s.deliver id o).about j = s.about j :=
  State.about_cons_ne rfl fun h => hj (Option.some.inj h).symm

/-- All that a course records is about its own call. -/
theorem Course.about (course : Course e id left c s t) (hj : j ≠ id) : t.about j = s.about j := by
  induction course with
  | cancelled hc => exact deliver_about _ _ hj
  | succeeded hc hi => exact (deliver_about _ _ hj).trans (invoked_about _ _ hj)
  | failed hc why => exact (State.failed_about _ _ hj).trans (invoked_about _ _ hj)
  | unscheduled hc hr cause ha hh => exact (State.failed_about _ _ hj).trans (asked_about e _ _ hj)
  | stalled hc hr ha hp => exact (State.failed_about _ _ hj).trans (asked_about e _ _ hj)
  | held hc hr ha => exact asked_about e _ _ hj
  | again hc hr ha hp rest ih => exact ih.trans (asked_about e _ _ hj)

/-! ### Where a course ends -/

/-- A failure settles its call or loses it. -/
theorem failed_ends (x : Ending) (hid : id < s.calls.length) (hd : (s.call id).delivered = [])
    (hw : (s.call id).waiting = none) :
    (s.failed id x).Settled id ∨ (s.failed id x).Lost id := by
  by_cases h : s.Dated
  · have hc := State.call_of_modify (State.failed_calls_of_dated h id x) hid
    refine .inl ⟨⟨.error x, ?_⟩, ?_⟩
    · rw [hc, hd]
      rfl
    · rw [hc]
      exact hw
  · have hc := State.call_congr (State.failed_calls_of_not_dated h id x) id
    refine .inr ⟨?_, ?_, fun hn => h ((State.dated_failed id x).mp hn)⟩
    · rw [hc, hd]
    · rw [hc, hw]

theorem Custody.InHand.invoked (hand : custody.InHand s id) (n : Nat) :
    custody.InHand (s.invoked id n) id := by
  have hc := State.call_of_modify (State.invoked_calls s id n) hand.known
  refine ⟨?_, ?_, ?_, ?_⟩
  · rw [(frame_invoked custody s id n).length]
    exact hand.known
  · rw [hc]
    exact hand.pending
  · rw [hc]
    exact hand.taken
  · rw [tickets_congr (State.invoked_room s id n)]
    exact hand.unheld

theorem call_asked (hid : id < s.calls.length) (c : Continuation) : (e.asked id c s).1.call id =
    { s.call id with invocations := (s.call id).invocations + 1 } :=
  State.call_of_modify (asked_calls e id c s) hid

theorem Course.ends (course : Course e id left c s t) (hand : custody.InHand s id) :
    t.Settled id ∨ custody.Owns t id ∨ t.Lost id := by
  induction course with
  | @cancelled left c s hc =>
    have ht : (s.deliver id (.error (.cancelled (c.attempt - 1)))).call id = _ :=
      State.call_of_modify rfl hand.known
    refine .inl ⟨⟨.error (.cancelled (c.attempt - 1)), ?_⟩, ?_⟩
    · rw [ht, hand.pending]
      rfl
    · rw [ht]
      exact hand.taken
  | @succeeded left c s v hc hi =>
    have hu := hand.invoked c.attempt
    have ht := State.call_of_modify (State.succeed_calls (s.invoked id c.attempt) id v) hu.known
    refine .inl ⟨⟨.ok v, ?_⟩, ?_⟩
    · rw [ht, hu.pending]
      rfl
    · rw [ht]
      exact hu.taken
  | @failed left c s ending hc why =>
    have hu := hand.invoked c.attempt
    exact (failed_ends ending hu.known hu.pending hu.taken).imp_right .inr
  | @unscheduled left c s f handling refusal hc hr cause ha hh =>
    have hlen := (frame_asked custody id c s).length
    refine (failed_ends (.scheduling c.attempt cause) (hlen ▸ hand.known) ?_ ?_).imp_right .inr
    · rw [call_asked hand.known]
      exact hand.pending
    · rw [call_asked hand.known]
      exact hand.taken
  | @stalled left c s f pause contained refusal fault hc hr ha hp =>
    have hlen := (frame_asked custody id c s).length
    have hcall := call_asked (e := e) hand.known c
    refine (failed_ends _ (hlen ▸ hand.known) ?_ ?_).imp_right .inr
    · exact (congrArg Call.delivered hcall).trans hand.pending
    · exact (congrArg Call.waiting hcall).trans hand.taken
  | @held left c s f hc hr ha =>
    -- Nothing was held for the call, so the next attempt is its one ticket.
    have hlen := (frame_asked custody id c s).length
    have ht : ((e.asked id c s).1.hold id (c.next e.policy)).call id = _ :=
      State.call_of_modify rfl (hlen ▸ hand.known)
    have htickets : custody.tickets ((e.asked id c s).1.hold id (c.next e.policy)) id =
        [e.request id c s] := tickets_asked_of_held (by rw [ha]) hand.unheld
    refine .inr (.inl ⟨?_, c.next e.policy, e.request id c s, ?_, htickets, rfl⟩)
    · rw [ht, call_asked hand.known]
      exact hand.pending
    · rw [ht]
  | @again left c s t f pause contained refusal clock hc hr ha hp rest ih =>
    have hlen := (frame_asked custody id c s).length
    have hcall := call_asked (e := e) hand.known c
    -- An attempt that is run at once is not held, so the call is in hand again.
    have hkeep : (custody.tickets (e.asked id c s).1 id).Perm (custody.tickets s id) :=
      tickets_asked_of_not_held (by rw [ha]; exact Handling.noConfusion) id
    refine ih ⟨hlen ▸ hand.known, ?_, ?_, ?_⟩
    · exact (congrArg Call.delivered hcall).trans hand.pending
    · exact (congrArg Call.waiting hcall).trans hand.taken
    · rw [hand.unheld] at hkeep
      exact List.perm_nil.mp hkeep

theorem failed_invocations (s : State Room) (id : Nat) (x : Ending) (j : Nat) :
    ((s.failed id x).call j).invocations = (s.call j).invocations := by
  by_cases h : s.Dated
  · exact State.part_of_modify _ (State.failed_calls_of_dated h id x) (fun _ => rfl) j
  · rw [State.call_congr (State.failed_calls_of_not_dated h id x)]

/-- A course invokes the operation, unless it finds the call cancelled before its first attempt. -/
theorem Course.progress (course : Course e id left c s t) (hid : id < s.calls.length) :
    (s.call id).invocations < (t.call id).invocations ∨
      s.isCancelled id = true ∧ t = s.deliver id (.error (.cancelled (c.attempt - 1))) := by
  induction course with
  | cancelled hc => exact .inr ⟨hc, rfl⟩
  | @succeeded left c s v hc hi =>
    refine .inl ?_
    have hv := State.part_of_modify Call.invocations
      (State.succeed_calls (s.invoked id c.attempt) id v) (fun _ => rfl) id
    rw [hv, State.call_of_modify (State.invoked_calls s id c.attempt) hid]
    exact Nat.lt_succ_self _
  | @failed left c s ending hc why =>
    refine .inl ?_
    rw [failed_invocations, State.call_of_modify (State.invoked_calls s id c.attempt) hid]
    exact Nat.lt_succ_self _
  | @unscheduled left c s f handling refusal hc hr cause ha hh =>
    refine .inl ?_
    rw [failed_invocations, call_asked hid]
    exact Nat.lt_succ_self _
  | @stalled left c s f pause contained refusal fault hc hr ha hp =>
    refine .inl ?_
    have hcall := call_asked (e := e) hid c
    rw [failed_invocations]
    exact Nat.lt_of_lt_of_eq (Nat.lt_succ_self _) (congrArg Call.invocations hcall).symm
  | @held left c s f hc hr ha =>
    refine .inl ?_
    have hw := State.part_of_modify (s := (e.asked id c s).1)
      (t := (e.asked id c s).1.hold id (c.next e.policy)) Call.invocations rfl (fun _ => rfl) id
    rw [hw, call_asked hid]
    exact Nat.lt_succ_self _
  | @again left c s t f pause contained refusal clock hc hr ha hp rest ih =>
    have hlen := State.length_of_modify (asked_calls e id c s)
    have hcall := congrArg Call.invocations (call_asked (e := e) hid c)
    -- A retry that finds the call cancelled comes after the invocation that asked for it.
    have hle : (((e.asked id c s).1.withClock clock).call id).invocations ≤
        (t.call id).invocations := by
      rcases ih (hlen ▸ hid) with hlt | ⟨-, heq⟩
      · exact Nat.le_of_lt hlt
      · rw [heq]
        exact Nat.le_of_eq (State.part_of_modify Call.invocations (State.deliver_calls _ id _)
          (fun _ => rfl) id).symm
    exact .inl (Nat.lt_of_lt_of_le (Nat.lt_of_lt_of_eq (Nat.lt_succ_self _) hcall.symm) hle)

/-- After a course its call has begun, whichever way it went. -/
theorem Course.begun (course : Course e id left c s t) (hid : id < s.calls.length) :
    (t.call id).Begun := by
  rcases course.progress hid with hlt | ⟨-, rfl⟩
  · exact .inl (Nat.ne_zero_of_lt hlt)
  · refine .inr ?_
    have ht : (s.deliver id (.error (.cancelled (c.attempt - 1)))).call id = _ :=
      State.call_of_modify rfl hid
    rw [ht]
    exact List.concat_ne_nil _ _

end Reattempt.Engine
