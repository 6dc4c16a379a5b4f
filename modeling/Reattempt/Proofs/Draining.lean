import Mathlib.Data.List.Perm.Subperm
import Reattempt.Proofs.BreakerStates
import Reattempt.Proofs.Containment
import Reattempt.Proofs.Undisturbed

/-!
Draining a queue. Rounds take the attempts out of it one by one, and each may put the next attempt
of the same call in; the place that it needs was just left, so that a queue with a capacity never
refuses it for want of room. The rounds come to an end: nothing waits any more, and all calls are
settled, or a round met a fault. Main statement: `runAll_drains`.

No fault comes from the queue or from the loop. An operation panics, or the clock shows no instant
when an attempt has to read it; `stopped_by_clock` shows the latter.
-/
namespace Reattempt

/-- The call ended because there was no room for its next attempt. -/
def Outcome.IsSaturated (o : Outcome) : Prop := ∃ n m, o = .error (.scheduling n (.saturated m))

namespace Engine

/-- The queue holds no more than it may, and only attempts that the policy allows. -/
structure Orderly (p : Policy) (q : Queue Request) : Prop where
  within : ∀ n, q.capacity = some n → q.waiting.length ≤ n
  allowed : ∀ r ∈ q.waiting, r.attempt ≤ p.maxAttempts.toNat

/-- The operation of the attempt at the head of the queue is due, and panics. -/
def State.Panics (s : State (Queue Request)) : Prop :=
  ∃ r room c fault, s.room.pop? = some (r, room) ∧ (s.call r.call).waiting = some c ∧
    s.isCancelled r.call = false ∧ ((s.letGo r room).invoke r.call c.attempt).2 = .error fault

/-- Every call that was taken in is settled, or something of it waits. -/
def State.Attended {Room : Type} (s : State Room) : Prop := ∀ id < s.calls.length, ¬ s.Idle id

variable {p : Policy} {chance : Nat → Nat → Draw} {capacity : Option Nat}
  {s t u : State (Queue Request)} {id left k : Nat} {c : Continuation} {r : Request}
  {room q q' : Queue Request} {fault : Fault} {as : List (Action (Queue Request))}

/-! ### Orderly queues -/

theorem Orderly.push {d : Duration} (h : Orderly p q) (hr : r.attempt ≤ p.maxAttempts.toNat)
    (hpush : q.push d r = .ok q') : Orderly p q' := by
  obtain ⟨hnone, rfl⟩ := Queue.eq_of_push hpush
  constructor
  · intro n hn
    have hlt : q.waiting.length < n := Queue.lt_of_refusal? hnone hn
    rw [List.length_append, List.length_singleton]
    exact hlt
  · intro x hx
    rcases List.mem_append.mp hx with hx | hx
    · exact h.allowed x hx
    · rw [List.mem_singleton.mp hx]
      exact hr

/-- What is let go, or moved about in the queue, leaves it orderly. -/
theorem Orderly.subperm (h : Orderly p q) (hw : q'.waiting.Subperm q.waiting)
    (hc : q'.capacity = q.capacity) : Orderly p q' where
  within := fun n hn => Nat.le_trans hw.length_le (h.within n (hc ▸ hn))
  allowed := fun r hr => h.allowed r (hw.subset hr)

theorem Orderly.released (h : Orderly p q) (hw : q.waiting.Perm (r :: room.waiting))
    (hc : room.capacity = q.capacity) : Orderly p room :=
  h.subperm ((List.sublist_cons_self r room.waiting).subperm.trans hw.symm.subperm) hc

theorem capacity_of_pop (hpop : s.room.pop? = some (r, room)) :
    room.capacity = s.room.capacity := by
  rw [(Queue.waiting_of_pop hpop).2]

/-- Where an attempt was taken out there is room for another one. -/
theorem Orderly.not_saturated (h : Orderly p s.room) (hpop : s.room.pop? = some (r, room))
    (n : Nat) : room.refusal? ≠ some (.saturated n) := by
  intro hrefusal
  unfold Queue.refusal? at hrefusal
  split at hrefusal
  · cases hrefusal
  · obtain ⟨m, hm, hfull⟩ := Option.bind_eq_some_iff.mp hrefusal
    have hle := h.within m (capacity_of_pop hpop ▸ hm)
    rw [(Queue.waiting_of_pop hpop).1, List.length_cons] at hle
    rw [if_neg (Nat.not_le_of_lt hle)] at hfull
    cases hfull

/-! ### Orderly runs -/

theorem Course.capacity_eq (course : Course (queued p chance) id left c s t) :
    t.room.capacity = s.room.capacity := by
  rcases course.room_queued with hroom | ⟨-, hpush⟩
  · rw [hroom]
  · rw [(Queue.eq_of_push hpush).2]

theorem Course.orderly (course : Course (queued p chance) id left c s t) (h : Orderly p s.room)
    (hleft : left ≠ 0 → c.attempt + 1 ≤ p.maxAttempts.toNat) : Orderly p t.room := by
  rcases course.room_queued with hroom | ⟨hl, hpush⟩
  · rw [hroom]
    exact h
  · exact h.push (hleft hl) hpush

/-- Every action that leaves the capacity as it was keeps the queue orderly. -/
theorem Orderly.acted {a : Action (Queue Request)} (h : Orderly p s.room)
    (allowed : a.Allowed queueCustody s)
    (acted : Acted (queued p chance) s a t) (hc : t.room.capacity = s.room.capacity) :
    Orderly p t.room := by
  cases acted with
  | @started name operation options t started =>
    have hgated := State.gated_room s name operation options
    have admitted {deadline : Option Deadline} {t : State (Queue Request)}
        (course : Course (queued p chance) s.calls.length (p.maxAttempts.toNat - 1)
          (.first p deadline) (s.gated name operation options) t) : Orderly p t.room := by
      apply course.orderly (hgated ▸ h)
      intro hleft
      change 1 + 1 ≤ p.maxAttempts.toNat
      omega
    cases started with
    | barred hs => exact hgated ▸ h
    | rejected hl hr => exact hgated ▸ h
    | admitted hl hd course => exact admitted course
    | thrown hl hd course => exact (admitted course :)
  | @resumed r room c t hw course =>
    have hroom : room.capacity = s.room.capacity := course.capacity_eq.symm.trans hc
    apply course.orderly (h.released allowed hroom)
    intro hleft
    change p.maxAttempts.toNat - c.attempt ≠ 0 at hleft
    omega
  | @dropped r room c hw =>
    rw [State.failed_room] at hc ⊢
    exact h.released allowed hc
  | @spent a r room ha hw =>
    rcases ha with rfl | rfl
    · exact h.released allowed hc
    · exact h.released allowed hc
  | @turned room =>
    have hp : s.room.waiting.Perm room.waiting := allowed
    exact h.subperm hp.symm.subperm hc
  | still ha =>
    rw [(act_still (queued p chance) s ha).room]
    exact h

/-- A round leaves the capacity as it was. -/
theorem Orderly.act (h : Orderly p s.room) (hpop : s.room.pop? = some (r, room)) :
    Orderly p ((queued p chance).act s (.run r room)).room := by
  have acted := act_acted (queued p chance) s (.run r room)
  refine h.acted (allowed_of_pop hpop) acted ?_
  rw [← capacity_of_pop hpop]
  generalize (queued p chance).act s (.run r room) = t at acted
  cases acted with
  | resumed hw course => exact course.capacity_eq
  | spent ha hw =>
    rcases ha with ha | ha
    · cases ha
      rfl
    · cases ha
  | still ha => cases ha

theorem Rounds.orderly (rounds : Rounds (queued p chance) k s t) (h : Orderly p s.room) :
    Orderly p t.room := by
  induction rounds with
  | none => exact h
  | more first rest ih =>
    obtain ⟨r, room, hpop, rfl⟩ := pop_of_runNext first
    exact ih (h.act hpop)

theorem Run.orderly (run : Run (queued p chance) queueCustody (fun u => u.room.capacity = capacity)
    (initial (queued p chance) (.empty capacity)) as s) : Orderly p s.room := by
  refine run.invariant (fun u => Orderly p u.room) ⟨fun n _ => Nat.zero_le n, nofun⟩ ?_
  intro u a h allowed hu ht
  exact h.acted allowed (act_acted (queued p chance) u a) (ht.trans hu.symm)

/-! ### One attempt -/

/-- What an attempt comes to where retries wait in a queue: it ends its call, or the next one waits,
or the queue refuses the next one. -/
inductive Goes (p : Policy) (chance : Nat → Nat → Draw) (id left : Nat) (c : Continuation)
    (s : State (Queue Request)) : State (Queue Request) × Option Fault → Prop
  | ends {result} (ends : Ends (queued p chance) id left c s result) :
      Goes p chance id left c s result
  | waits {f} (hc : s.isCancelled id = false) (retries : Retries (queued p chance) id left c s f)
      (answer : ((queued p chance).asked id c s).2 = (.hold, none)) :
      Goes p chance id left c s (((queued p chance).asked id c s).1.hold id (c.next p), none)
  | refused {f cause} (hc : s.isCancelled id = false)
      (retries : Retries (queued p chance) id left c s f) (refusal : s.room.refusal? = some cause) :
      Goes p chance id left c s
        (((queued p chance).asked id c s).1.fail id (.scheduling c.attempt cause))

theorem run_goes (p : Policy) (chance : Nat → Nat → Draw) (id left : Nat) (c : Continuation)
    (s : State (Queue Request)) :
    Goes p chance id left c s ((queued p chance).run id left c s) := by
  rcases ends_or_retries (queued p chance) id left c s with ⟨result, ends⟩ | ⟨hc, f, retries⟩
  · rw [ends.run_eq]
    exact .ends ends
  · obtain ⟨n, rfl⟩ := Nat.exists_eq_succ_of_ne_zero retries.allowed
    rw [run_of_retries hc retries]
    have hasked : (queued p chance).asked id c s =
        (((queued p chance).asked id c s).1, ((queued p chance).asked id c s).2) := rfl
    rcases asked_queueing p chance id c s with ⟨_, -, answer, -⟩ | ⟨cause, refusal, answer, -⟩
    · rw [hasked, answer]
      exact .waits hc retries answer
    · rw [hasked, answer]
      exact .refused hc retries refusal

theorem dated_of_fail {x : Ending} (h : (s.fail id x).2 = none) : (s.failed id x).Dated := by
  rw [State.dated_failed]
  by_contra hn
  rw [State.fail_snd, State.countFailure_of_not_dated hn] at h
  cases h

/-- An attempt that meets no fault does not lose its call. -/
theorem Goes.not_lost {result : State (Queue Request) × Option Fault}
    (goes : Goes p chance id left c s result) (hid : id < s.calls.length) (hf : result.2 = none) :
    ¬ result.1.Lost id := by
  rintro ⟨hd, hw, hn⟩
  have hinvoked := State.length_of_modify (State.invoked_calls s id c.attempt)
  have hasked := State.length_of_modify (asked_calls (queued p chance) id c s)
  cases goes with
  | ends ends =>
    cases ends with
    | cancelled hc =>
      rw [State.call_of_modify (State.deliver_calls s id _) hid] at hd
      exact List.concat_ne_nil _ _ hd
    | succeeded hc hi =>
      rw [State.call_of_modify (State.succeed_calls _ id _) (hinvoked ▸ hid)] at hd
      exact List.concat_ne_nil _ _ hd
    | refused hc hi hr => exact hn (dated_of_fail hf)
    | late hc hi hl hr hm => exact hn (dated_of_fail hf)
    | panicked hc hi =>
      rw [State.unwind_snd] at hf
      cases hf
    | untimed hc hi hl hr hm =>
      rw [State.unwind_snd] at hf
      cases hf
  | waits hc retries answer =>
    rw [State.call_of_modify (State.hold_calls _ id _) (hasked ▸ hid)] at hw
    cases hw
  | refused hc retries refusal => exact hn (dated_of_fail hf)

theorem not_readable_of_misses {deadline : Option Deadline} {wait : Duration}
    (h : s.misses deadline wait = .error fault) : ¬ s.clock.Readable := by
  intro hr
  cases deadline with
  | none => cases h
  | some d =>
    simp only [State.misses, Clock.read_of_readable hr, Except.map] at h
    cases h

theorem not_readable_of_fail {x : Ending} (h : (s.fail id x).2 = some fault) :
    ¬ (s.failed id x).clock.Readable := by
  rw [State.failed_clock]
  intro hr
  rw [State.fail_snd, State.countFailure_of_dated (.inr hr)] at h
  cases h

/-- A fault comes from the operation, or from a clock that cannot be read. -/
theorem Goes.of_fault {result : State (Queue Request) × Option Fault}
    (goes : Goes p chance id left c s result) (hf : result.2 = some fault) :
    (s.isCancelled id = false ∧ ∃ raised, (s.invoke id c.attempt).2 = .error raised) ∨
      ¬ result.1.clock.Readable := by
  cases goes with
  | ends ends =>
    cases ends with
    | cancelled hc => cases hf
    | succeeded hc hi => cases hf
    | panicked hc hi => exact .inl ⟨hc, _, hi⟩
    | refused hc hi hr => exact .inr (not_readable_of_fail hf)
    | late hc hi hl hr hm => exact .inr (not_readable_of_fail hf)
    | untimed hc hi hl hr hm =>
      rw [unwind_clock]
      exact .inr (not_readable_of_misses hm)
  | waits hc retries answer => cases hf
  | refused hc retries refusal => exact .inr (not_readable_of_fail hf)

/-- A call is refused only for a cause for which the queue refuses everything. -/
theorem Goes.yields {result : State (Queue Request) × Option Fault} {those : Outcome → Prop}
    (goes : Goes p chance id left c s result) (hid : id < s.calls.length)
    (hvalue : ∀ v, those (.ok v))
    (hending : ∀ x : Ending, (∀ n cause, x = .scheduling n cause →
      cause = .shutDown ∨ s.room.refusal? = some cause) → those (.error x))
    (h : s.Yields those id) : result.1.Yields those id := by
  have hinvoked := State.length_of_modify (State.invoked_calls s id c.attempt)
  have hasked := State.length_of_modify (asked_calls (queued p chance) id c s)
  have invoked : (s.invoked id c.attempt).Yields those id := h.of_delivered <|
    State.part_of_modify Call.delivered (State.invoked_calls s id c.attempt) (fun _ => rfl) id
  have asked : ((queued p chance).asked id c s).1.Yields those id := h.of_delivered <|
    State.part_of_modify Call.delivered (asked_calls (queued p chance) id c s) (fun _ => rfl) id
  cases goes with
  | ends ends =>
    cases ends with
    | cancelled hc =>
      have hcall := State.call_of_modify
        (State.deliver_calls s id (.error (.cancelled (c.attempt - 1)))) hid
      exact h.concat (hending (.cancelled (c.attempt - 1)) nofun) (congrArg Call.delivered hcall)
    | @succeeded v hc hi =>
      have hcall := State.call_of_modify (State.succeed_calls _ id v) (hinvoked ▸ hid)
      exact invoked.concat (hvalue v) (congrArg Call.delivered hcall)
    | panicked hc hi =>
      rw [State.unwind_fst]
      exact invoked.failed (hinvoked ▸ hid) (hending _ nofun)
    | refused hc hi hr => exact invoked.failed (hinvoked ▸ hid) (hending _ nofun)
    | late hc hi hl hr hm => exact invoked.failed (hinvoked ▸ hid) (hending _ nofun)
    | untimed hc hi hl hr hm =>
      rw [State.unwind_fst]
      refine invoked.failed (hinvoked ▸ hid) (hending _ ?_)
      intro n cause heq
      cases heq
      exact .inl rfl
  | waits hc retries answer =>
    exact asked.of_delivered <| State.part_of_modify Call.delivered
      (State.hold_calls _ id (c.next p)) (fun _ => rfl) id
  | refused hc retries refusal =>
    refine asked.failed (hasked ▸ hid) (hending _ ?_)
    intro n cause heq
    cases heq
    exact .inr refusal

/-! ### One round -/

/-- A round answers with the fault of its attempt, if there was one. -/
theorem fault_of_round {result : State (Queue Request) × Option Fault} {answer : Except Fault Bool}
    (h : (result.1, result.2.elim (.ok true) .error) = (t, answer)) :
    result.1 = t ∧ (result.2 = none ∧ answer = .ok true ∨
      ∃ fault, result.2 = some fault ∧ answer = .error fault) := by
  obtain ⟨u, fault⟩ := result
  cases fault with
  | none =>
    cases h
    exact ⟨rfl, .inl ⟨rfl, rfl⟩⟩
  | some fault =>
    cases h
    exact ⟨rfl, .inr ⟨fault, rfl, rfl⟩⟩

theorem act_of_taken (p : Policy) (chance : Nat → Nat → Draw) (room : Queue Request)
    (hw : (s.call r.call).waiting = none) :
    (queued p chance).act s (.run r room) = s.withRoom room :=
  congrArg Prod.fst (runWaiting_of_taken (s := s.withRoom room) (queued p chance) hw)

theorem frame_act (hpop : s.room.pop? = some (r, room)) :
    Custody.Frame (e := queued p chance) queueCustody r.call s
      ((queued p chance).act s (.run r room)) := by
  have released : Custody.Frame (e := queued p chance) queueCustody r.call s (s.letGo r room) :=
    frame_release (allowed_of_pop hpop)
  cases hw : (s.call r.call).waiting with
  | none =>
    rw [act_of_taken p chance room hw]
    exact ⟨⟨fun call => call, (List.modify_id _ s.calls).symm⟩, released.others, released.known⟩
  | some c =>
    rw [act_run_of_waiting _ hw]
    exact released.trans (run_course _ _ _ c _).frame

/-- A round that meets no fault loses no call. -/
theorem ends_of_round (sole : Custody.Sole (e := queued p chance) queueCustody s)
    (hround : Queued.runNext (queued p chance) s = (t, .ok true))
    (h : s.Settled id ∨ Custody.Owns (e := queued p chance) queueCustody s id) :
    t.Settled id ∨ Custody.Owns (e := queued p chance) queueCustody t id := by
  obtain ⟨r, room, hpop, rfl⟩ := pop_of_runNext hround
  by_cases hid : id = r.call
  · subst hid
    cases hw : (s.call r.call).waiting with
    | none =>
      rw [act_of_taken p chance room hw]
      rcases h with hs | ⟨-, c, _, hc, -⟩
      · exact .inl hs
      · rw [hw] at hc
        cases hc
    | some c =>
      have hand := sole.inHand (allowed_of_pop hpop) hw
      have course := run_course (queued p chance) r.call (p.maxAttempts.toNat - c.attempt) c
        (s.letGo r room)
      have goes := run_goes p chance r.call (p.maxAttempts.toNat - c.attempt) c (s.letGo r room)
      rw [runNext_of_letGo hpop hw rfl] at hround
      rw [act_run_of_waiting _ hw]
      obtain ⟨-, ⟨hquiet, -⟩ | ⟨fault, -, hanswer⟩⟩ := fault_of_round hround
      · rcases course.ends hand with hs | howned | lost
        · exact .inl hs
        · exact .inr howned
        · exact absurd lost (goes.not_lost hand.known hquiet)
      · cases hanswer
  · have frame : Custody.Frame (e := queued p chance) queueCustody r.call s _ := frame_act hpop
    have hcall := frame.call_ne hid
    rcases h with hs | howned
    · left
      rw [State.Settled, hcall]
      exact hs
    · right
      exact howned.of_perm (hcall ▸ howned.1) (congrArg Call.waiting hcall) (frame.others id hid)

/-- A round that meets a fault made an attempt whose operation panicked, or that had to read a clock
that cannot be read. -/
theorem panics_of_round (hround : Queued.runNext (queued p chance) s = (t, .error fault)) :
    s.Panics ∨ ¬ t.clock.Readable := by
  rcases runNext_cases (queued p chance) s with ⟨-, hidle⟩ | ⟨r, room, hpop, -⟩
  · rw [hidle] at hround
    cases hround
  cases hw : (s.call r.call).waiting with
  | none =>
    rw [runNext_of_pop _ hpop, runWaiting_of_taken (s := s.withRoom room) _ hw] at hround
    cases hround
  | some c =>
    rw [runNext_of_letGo hpop hw rfl] at hround
    have goes := run_goes p chance r.call (p.maxAttempts.toNat - c.attempt) c (s.letGo r room)
    obtain ⟨rfl, ⟨-, hanswer⟩ | ⟨thrown, hf, -⟩⟩ := fault_of_round hround
    · cases hanswer
    · rcases goes.of_fault hf with ⟨hc, raised, hi⟩ | hclock
      · have hcancelled : s.isCancelled r.call = false :=
          (isCancelled_released s room r.call r.call).symm.trans hc
        exact .inl ⟨r, room, c, raised, hpop, hw, hcancelled, hi⟩
      · exact .inr hclock

/-- In a round no retry is refused for want of room. -/
theorem yields_act {before : List Outcome} (orderly : Orderly p s.room)
    (hpop : s.room.pop? = some (r, room))
    (h : s.Yields (fun o => Outcome.IsSaturated o → o ∈ before) id) :
    ((queued p chance).act s (.run r room)).Yields
      (fun o => Outcome.IsSaturated o → o ∈ before) id := by
  by_cases hid : id = r.call
  · subst hid
    cases hw : (s.call r.call).waiting with
    | none =>
      rw [act_of_taken p chance room hw]
      exact h
    | some c =>
      rw [act_run_of_waiting _ hw]
      have goes := run_goes p chance r.call (p.maxAttempts.toNat - c.attempt) c (s.letGo r room)
      refine goes.yields (lt_length_released (State.known_of_waiting hw) room) ?_ ?_ ?_
      · rintro v ⟨n, m, heq⟩
        cases heq
      · rintro x hcause ⟨n, m, heq⟩
        cases heq
        rcases hcause n (.saturated m) rfl with heq | hrefusal
        · cases heq
        · exact absurd hrefusal (orderly.not_saturated hpop m)
      · exact h.of_delivered (letGo_part Call.delivered (fun _ => rfl) s r room r.call)
  · have frame : Custody.Frame (e := queued p chance) queueCustody r.call s _ := frame_act hpop
    exact h.of_delivered (congrArg Call.delivered (frame.call_ne hid))

theorem Rounds.yields {before : List Outcome} (rounds : Rounds (queued p chance) k s t)
    (orderly : Orderly p s.room) (h : s.Yields (fun o => Outcome.IsSaturated o → o ∈ before) id) :
    t.Yields (fun o => Outcome.IsSaturated o → o ∈ before) id := by
  induction rounds with
  | none => exact h
  | more first rest ih =>
    obtain ⟨r, room, hpop, rfl⟩ := pop_of_runNext first
    exact ih (orderly.act hpop) (yields_act orderly hpop h)

theorem Rounds.ends (rounds : Rounds (queued p chance) k s t)
    (sole : Custody.Sole (e := queued p chance) queueCustody s)
    (h : s.Settled id ∨ Custody.Owns (e := queued p chance) queueCustody s id) :
    t.Settled id ∨ Custody.Owns (e := queued p chance) queueCustody t id := by
  induction rounds with
  | none => exact h
  | @more k s t u first rest ih =>
    have hround := ends_of_round sole first h
    obtain ⟨r, room, hpop, rfl⟩ := pop_of_runNext first
    exact ih (sole.acted (allowed_of_pop hpop) (act_acted (queued p chance) _ _)) hround

/-- Rounds follow each other until nothing waits or a round meets a fault. -/
theorem exists_rounds (sole : Custody.Sole (e := queued p chance) queueCustody s) :
    ∃ k t, Rounds (queued p chance) k s t ∧ (t.room.waiting = [] ∨
      ∃ u fault, Queued.runNext (queued p chance) t = (u, .error fault)) := by
  -- On the budget, from which every round takes something.
  generalize hn : Queued.budget (queued p chance) s = n
  induction n using Nat.strongRecOn generalizing s with
  | ind n ih =>
    rcases runNext_cases (queued p chance) s with ⟨hidle, -⟩ | ⟨r, room, hpop, hact⟩
    · exact ⟨0, s, .none, .inl hidle⟩
    rcases hround : Queued.runNext (queued p chance) s with ⟨t, answer⟩
    rw [hround] at hact
    have hanswer := hround
    rw [runNext_of_pop _ hpop] at hanswer
    obtain ⟨-, ⟨-, rfl⟩ | ⟨fault, -, rfl⟩⟩ := fault_of_round hanswer
    · have hless := budget_act sole hpop
      have hsole := sole.acted (allowed_of_pop hpop) (act_acted (queued p chance) _ _)
      rw [← hact] at hless hsole
      obtain ⟨k, u, rounds, hend⟩ := ih _ (by omega) hsole rfl
      exact ⟨k + 1, u, .more hround rounds, hend⟩
    · exact ⟨0, s, .none, .inr ⟨t, fault, hround⟩⟩

/-! ### Calls that were taken in -/

section

variable {Room : Type} {e : Engine Room} {custody : Custody e.scheduler} {s t : State Room}
  {as : List (Action Room)}

theorem State.Attended.of_call_ne (h : s.Attended) (hid : ¬ t.Idle id)
    (hne : ∀ j < t.calls.length, j ≠ id → j < s.calls.length ∧ t.call j = s.call j) :
    t.Attended := by
  intro j hj
  by_cases heq : j = id
  · exact heq ▸ hid
  · obtain ⟨hlt, hcall⟩ := hne j hj heq
    rw [State.Idle, hcall]
    exact h j hlt

theorem State.Attended.of_frame (h : s.Attended) (hid : ¬ t.Idle id)
    (frame : custody.Frame id s t) : t.Attended :=
  h.of_call_ne hid fun _ hj hne => ⟨frame.length ▸ hj, frame.call_ne hne⟩

theorem State.Attended.of_unmoved (h : s.Attended) (hm : s.Unmoved t) : t.Attended := by
  intro j hj
  rw [State.Idle, hm.delivered, hm.waiting]
  exact h j (hm.length ▸ hj)

theorem State.Attended.started {name : String} {operation : Operation} {options : Options}
    (sole : custody.Sole s) (h : s.Attended) (started : Started e name operation options s t)
    (hs : s.clock.Readable) (dated : t.Dated) : t.Attended := by
  have hand := sole.inHand_gated name operation options
  have hlength : t.calls.length = s.calls.length + 1 := started.length custody
  have hne (j : Nat) (hj : j < t.calls.length) (hid : j ≠ s.calls.length) :
      j < s.calls.length ∧ t.call j = s.call j := by
    exact ⟨by omega, started.call_ne custody hid⟩
  cases started with
  | barred unreadable => exact absurd hs unreadable
  | @rejected remaining hl hr =>
    refine h.of_call_ne (fun idle => ?_) hne
    have hd := idle.1
    rw [State.call_of_modify (State.deliver_calls _ _ (.error (.circuitOpen remaining)))
      hand.known] at hd
    exact List.concat_ne_nil _ _ hd
  | admitted hl hd course =>
    exact h.of_call_ne (not_idle_of_ends (course.ends_of_dated hand dated)) hne
  | @thrown deadline u hl hd course =>
    have hm := State.unmoved_dropHandle u s.calls.length
    have hidle : ¬ u.Idle s.calls.length := not_idle_of_ends (course.ends_of_dated hand dated)
    refine h.of_call_ne (fun idle => hidle ?_) hne
    rwa [State.Idle, hm.delivered, hm.waiting] at idle

/-- On a clock that can be read every call that is taken in comes to its end, or waits for it. -/
theorem State.Attended.acted {a : Action Room} (sole : custody.Sole s) (h : s.Attended)
    (allowed : a.Allowed custody s) (acted : Acted e s a t) (hs : s.clock.Readable)
    (dated : t.Dated) : t.Attended := by
  cases acted with
  | started started => exact h.started sole started hs dated
  | resumed hw course =>
    have hand := sole.inHand allowed hw
    have hends := course.ends_of_dated hand dated
    exact h.of_frame (not_idle_of_ends hends) ((frame_release allowed).trans course.frame)
  | @dropped r room c hw =>
    have hand := sole.inHand allowed hw
    have frame := (frame_release allowed).trans
      (frame_failed custody _ r.call (.scheduling (c.attempt - 1) .shutDown))
    obtain ⟨⟨o, ho⟩, -⟩ := (failed_ends (.scheduling (c.attempt - 1) .shutDown) hand.known
      hand.pending hand.taken).resolve_right fun lost => lost.2.2 dated
    exact h.of_frame (fun idle => List.cons_ne_nil o [] (ho.symm.trans idle.1)) frame
  | spent ha hw => exact h
  | turned => exact h
  | still ha => exact h.of_unmoved (act_still e s ha)

theorem Run.attended {room : Room} (hr : custody.held room = [])
    (run : Run e custody (fun u => u.clock.Readable) (initial e room) as s) : s.Attended :=
  (run.invariant (fun u => custody.Sole u ∧ u.Attended) ⟨sole_initial hr, nofun⟩
    fun u a h allowed hu ht => ⟨h.1.acted allowed (act_acted e u a),
      h.2.acted h.1 allowed (act_acted e u a) hu (.inr ht)⟩).2

end

/-! ### The loop -/

theorem settled_of_empty (h : t.Settled id ∨ Custody.Owns (e := queued p chance) queueCustody t id)
    (hempty : t.room.waiting = []) : t.Settled id := by
  apply h.resolve_right
  rintro ⟨-, c, r, -, htickets, -⟩
  change t.room.waiting.filter _ = [r] at htickets
  rw [hempty] at htickets
  cases htickets

theorem not_saturated_asked (orderly : Orderly p s.room) (hpop : s.room.pop? = some (r, room))
    (c : Continuation) (n : Nat) :
    ((queued p chance).asked r.call c (s.letGo r room)).2.2 ≠ some (.saturated n) := by
  intro hrefused
  rcases asked_queueing p chance r.call c (s.letGo r room) with
    ⟨_, -, answer, -⟩ | ⟨cause, refusal, answer, -⟩
  · rw [answer] at hrefused
    cases hrefused
  · rw [answer] at hrefused
    exact orderly.not_saturated hpop n (refusal.trans hrefused)

/-- Whatever waits in the queue, the loop makes no more rounds than the attempts in it can come to,
and none of the retries that it asks for is refused for want of room. It returns, unless an
operation panics or an attempt has to read a clock that shows no instant; it has counted its rounds
then, the queue is empty, and the calls are settled: those that waited, those that got past the gate
where every failure could be dated, and all that were taken in where the clock could always be
read. -/
theorem runAll_drains
    (history : Run (queued p chance) queueCustody (fun u => u.room.capacity = capacity)
      (initial (queued p chance) (.empty capacity)) as s) :
    let e := queued p chance
    let bound := (s.room.waiting.map fun r => p.maxAttempts.toNat - r.attempt + 1).sum
    (∀ r ∈ s.room.waiting, r.attempt ≤ p.maxAttempts.toNat) ∧
    (∀ k t r room, Rounds e k s t → t.room.pop? = some (r, room) →
      ∀ c n, (e.asked r.call c (t.letGo r room)).2.2 ≠ some (.saturated n)) ∧
    (∀ id o, Outcome.IsSaturated o → o ∈ ((Queued.runAll e s).1.call id).delivered →
      o ∈ (s.call id).delivered) ∧
    ((∃ k t, k ≤ bound ∧ Rounds e k s t ∧ Queued.runAll e s = (t, .ok k) ∧ t.room.waiting = [] ∧
        (∀ id, s.Settled id ∨ Custody.Owns (e := e) queueCustody s id → t.Settled id) ∧
        (Run e queueCustody State.Dated (initial e (.empty capacity)) as s →
          ∀ id, (s.call id).Begun → t.Settled id) ∧
        (Run e queueCustody (fun u => u.clock.Readable) (initial e (.empty capacity)) as s →
          ∀ id < s.calls.length, t.Settled id)) ∨
      ∃ k t u fault, k + 1 ≤ bound ∧ Rounds e k s t ∧ Queued.runNext e t = (u, .error fault) ∧
        Queued.runAll e s = (u, .error fault) ∧ (t.Panics ∨ ¬ u.clock.Readable)) := by
  intro e bound
  have sole : Custody.Sole (e := queued p chance) queueCustody s := history.sole rfl
  have orderly : Orderly p s.room := history.orderly
  have hbound : Queued.budget (queued p chance) s = bound := budget_eq (queued p chance) s
  have before (id : Nat) :
      s.Yields (fun o => Outcome.IsSaturated o → o ∈ (s.call id).delivered) id := fun _ ho _ => ho
  obtain ⟨k, t, rounds, hend⟩ := exists_rounds sole
  have hpaid := rounds.add_budget_le sole
  have yields (id : Nat) := rounds.yields orderly (before id)
  refine ⟨orderly.allowed, ?_, ?_, ?_⟩
  · intro k t r room rounds hpop
    exact not_saturated_asked (rounds.orderly orderly) hpop
  · intro id o hsaturated ho
    rcases hend with hidle | ⟨u, fault, hround⟩
    · rw [rounds.runAll_eq_of_idle sole hidle] at ho
      exact yields id o ho hsaturated
    · rw [rounds.runAll_eq sole hround] at ho
      rcases runNext_cases (queued p chance) t with ⟨-, hidle⟩ | ⟨r, room, hpop, hact⟩
      · rw [hidle] at hround
        cases hround
      · rw [hround] at hact
        subst hact
        exact yields_act (rounds.orderly orderly) hpop (yields id) o ho hsaturated
  · rcases hend with hidle | ⟨u, fault, hround⟩
    · left
      have settled (id : Nat)
          (h : s.Settled id ∨ Custody.Owns (e := queued p chance) queueCustody s id) :
          t.Settled id := settled_of_empty (rounds.ends sole h) hidle
      refine ⟨k, t, by omega, rounds, rounds.runAll_eq_of_idle sole hidle, hidle, settled, ?_, ?_⟩
      · intro dated id begun
        rcases sole.standing id with hs | howned | idle
        · exact settled id (.inl hs)
        · exact settled id (.inr howned)
        · exact absurd begun ((dated.complete rfl).begun id idle)
      · intro readable id hid
        rcases sole.standing id with hs | howned | idle
        · exact settled id (.inl hs)
        · exact settled id (.inr howned)
        · exact absurd idle (readable.attended rfl id hid)
    · right
      have hone : 1 ≤ Queued.budget (queued p chance) t := by
        rcases runNext_cases (queued p chance) t with ⟨-, hidle⟩ | ⟨r, room, hpop, -⟩
        · rw [hidle] at hround
          cases hround
        · have hless := budget_act (rounds.sole sole) hpop
          omega
      exact ⟨k, t, u, fault, by omega, rounds, hround, rounds.runAll_eq sole hround,
        panics_of_round hround⟩

/-- One attempt waits where there is room for one, and makes room for the next one of its call. -/
theorem runAll_drains_full :
    let e := queued steady fun _ _ => .middle
    let s := e.act (e.act (initial e (.empty (some 1))) startRefused) startRefused
    s.room.waiting.map Request.attempt = [2] ∧
    (s.call 1).delivered = [.error (.scheduling 1 (.saturated 1))] ∧
    ∃ t, Queued.runAll e s = (t, .ok 2) ∧ t.room.waiting = [] ∧ t.Settled 0 ∧ t.Settled 1 := by
  intro e s
  have run (ok : State (Queue Request) → Prop)
      (h : ∀ u, u.room.capacity = some 1 → u.clock.Readable → ok u) :
      Run e queueCustody ok (initial e (.empty (some 1))) [startRefused, startRefused] s := by
    have h0 : Run e queueCustody ok (initial e (.empty (some 1))) [] _ :=
      .nil (h _ rfl Clock.start_readable)
    have h1 := h0.snoc (a := startRefused) trivial (h _ (by decide +kernel) (by decide +kernel))
    exact h1.snoc (a := startRefused) trivial (h _ (by decide +kernel) (by decide +kernel))
  have hlength : s.calls.length = 2 := by decide +kernel
  have hcount : (Queued.runAll e s).2.toOption = some 2 := by decide +kernel
  obtain ⟨-, -, -, ⟨k, t, -, -, hran, hempty, -, -, settled⟩ |
    ⟨_, _, u, fault, -, -, -, hstopped, -⟩⟩ := runAll_drains (run _ fun _ hc _ => hc)
  · have settled := settled (run _ fun _ _ hr => hr)
    refine ⟨by decide +kernel, by decide +kernel, t, ?_, hempty, ?_, ?_⟩
    · change (Queued.runAll e s) = (t, .ok k) at hran
      rw [hran] at hcount ⊢
      cases hcount
      rfl
    · exact settled 0 (by omega)
    · exact settled 1 (by omega)
  · change (Queued.runAll e s) = (u, .error fault) at hstopped
    rw [hstopped] at hcount
    cases hcount

/-- The loop does not always return where no operation panics: the clock is set as far as it goes
while a retry with a deadline waits, and the next retry is not asked for because nobody can tell
whether it would be in time. -/
theorem stopped_by_clock :
    ¬ ∀ (as : List (Action (Queue Request))) (s : State (Queue Request)),
      Run (queued calm fun _ _ => .middle) queueCustody (fun u => u.room.capacity = none)
        (initial (queued calm fun _ _ => .middle) (.empty none)) as s →
      (∀ k t, Rounds (queued calm fun _ _ => .middle) k s t → ¬ t.Panics) →
        ∃ n, (Queued.runAll (queued calm fun _ _ => .middle) s).2 = .ok n := by
  intro all
  let e := queued calm fun _ _ => .middle
  let start : Action (Queue Request) := .start "svc"
    (fun _ => ⟨none, none, .failure (.plain .connection "refused")⟩) ⟨none, some (.ofSeconds 3600)⟩
  let late : Action (Queue Request) := .setElapsed (.ofSeconds (2 ^ 64 - 1))
  let s := e.act (e.act (initial e (.empty none)) start) late
  have h0 : Run e queueCustody (fun u => u.room.capacity = none) (initial e (.empty none)) [] _ :=
    .nil rfl
  have h1 := h0.snoc (a := start) trivial (by decide +kernel)
  have h2 := h1.snoc (a := late) trivial (by decide +kernel)
  let first : Request := ⟨0, "svc", 2, .ofMillis 1000, .zero, false⟩
  let room : Queue Request := { s.room with waiting := [] }
  have hheld : s.room.waiting = [first] := by decide +kernel
  have hpop : s.room.pop? = some (first, room) := by simp only [Queue.pop?, hheld, room]
  have hround : (Queued.runNext e s).2.toOption = none := by decide +kernel
  have hloop : (Queued.runAll e s).2.toOption = none := by decide +kernel
  have hdenied : ((s.letGo first room).invoke 0 2).2.toOption ≠ none := by decide +kernel
  -- The first round already meets the fault, and its operation answers.
  have quiet (k : Nat) (t : State (Queue Request)) (rounds : Rounds e k s t) : ¬ t.Panics := by
    cases rounds with
    | more next rest =>
      rw [next] at hround
      cases hround
    | none =>
      rintro ⟨r, room', c, fault, hpop', hw, -, hi⟩
      rw [hpop] at hpop'
      cases hpop'
      have hattempt : c.attempt = 2 := by
        have hsome : (s.call first.call).waiting.map Continuation.attempt = some 2 := by
          decide +kernel
        rw [hw] at hsome
        exact Option.some.inj hsome
      rw [hattempt] at hi
      exact hdenied (congrArg Except.toOption hi)
  obtain ⟨n, hn⟩ := all _ s h2 quiet
  change (Queued.runAll e s).2 = .ok n at hn
  rw [hn] at hloop
  cases hloop

end Engine

end Reattempt
