import Reattempt.Proofs.Cancellation
import Reattempt.Proofs.Likeness
import Reattempt.Proofs.SuggestedWait

/-!
A breaker decides whether a call is admitted, and nothing about a call that is. Next to an engine
stands the same engine without its breaker; as long as no call is rejected, every action leaves the
two of them alike. Main statement: `breaker_only_admits`.

The breaker of the first engine is written all the time, and it may open while calls wait for their
next attempts. What has to be shown is that nobody but the gate reads it: `run_beside` says so for
an attempt with all that are run because of it, and `act_beside` for an action.
-/
namespace Reattempt

/-- The breaker rejected the call. -/
def Outcome.isRejection : Outcome → Bool
  | .ok _ => false
  | .error x => x.isCircuitOpen

namespace Engine

variable {Room : Type}

/-- The same engine without a breaker, and with other draws of chance. -/
def unguarded (e : Engine Room) (chance : Nat → Nat → Draw) : Engine Room where
  policy := { e.policy with breakerEnabled := false }
  scheduler := e.scheduler
  chance

variable {e : Engine Room} {custody : Custody e.scheduler} {ok : State Room → Prop}
  {chance : Nat → Nat → Draw} {s s' t t' : State Room} {id left : Nat} {c : Continuation}
  {f : Failure} {a : Action Room} {as : List (Action Room)}

/-- Without jitter chance has no part in the waits. -/
theorem concurs_unguarded (hj : e.policy.jitterFactor.le 0 = true) (chance : Nat → Nat → Draw) :
    Concurs e (e.unguarded chance) where
  maxAttempts := rfl
  shouldRetry := fun _ => rfl
  first := fun _ => rfl
  next := fun _ => rfl
  delay := fun id c => by
    simp only [delay, unguarded, Policy.applyJitter, hj, Bool.true_or, ↓reduceIte]

/-! ### An attempt -/

/-- The states are alike, and the schedulers remember the same. -/
structure State.Beside (s s' : State Room) : Prop where
  alike : s.Alike false s'
  room : s'.room = s.room

/-- The same fault, and states beside each other. -/
structure BesideResults (r r' : State Room × Option Fault) : Prop where
  fault : r'.2 = r.2
  state : r.1.Beside r'.1

theorem State.Beside.failed_room (h : s.Beside s') (id : Nat) (x : Ending) :
    (s'.failed id x).room = (s.failed id x).room := by
  calc (s'.failed id x).room = s'.room := State.failed_room s' id x
    _ = s.room := h.room
    _ = (s.failed id x).room := (State.failed_room s id x).symm

theorem State.Beside.fail (h : s.Beside s') (hr : s.clock.Readable) (id : Nat) (x : Ending) :
    BesideResults (s.fail id x) (s'.fail id x) := by
  obtain ⟨hfault, hstate⟩ := h.alike.fail (.inr hr) id x
  exact ⟨hfault, hstate, h.failed_room id x⟩

theorem State.Beside.unwind (h : s.Beside s') (hr : s.clock.Readable) (id : Nat) (x : Ending)
    (fault : Fault) : BesideResults (s.unwind id x fault) (s'.unwind id x fault) := by
  obtain ⟨hfault, hstate⟩ := h.alike.unwind (.inr hr) id x fault
  refine ⟨hfault, hstate, ?_⟩
  rw [State.unwind_fst, State.unwind_fst]
  exact h.failed_room id x

theorem State.Beside.abandon (h : s.Beside s') (hr : s.clock.Readable) (id : Nat)
    (c : Continuation) : BesideResults (s.abandon id c) (s'.abandon id c) := by
  obtain ⟨hfault, hstate⟩ := h.alike.abandon (.inr hr) id c
  refine ⟨hfault, hstate, ?_⟩
  rw [State.abandon_fst, State.abandon_fst]
  exact h.failed_room id _

theorem settleHanded_clock (s : State Room) (id : Nat) (c : Continuation) (held : Bool)
    (refusal : Option ScheduleError) : (settleHanded s id c held refusal).1.clock = s.clock := by
  cases refusal with
  | some cause => exact State.failed_clock s id _
  | none =>
    cases held with
    | true => rfl
    | false =>
      change (s.abandon id c).1.clock = s.clock
      rw [State.abandon_fst, State.failed_clock]

theorem State.Beside.settleHanded (h : s.Beside s') (hr : s.clock.Readable) (id : Nat)
    (c : Continuation) (held : Bool) (refusal : Option ScheduleError) :
    BesideResults (settleHanded s id c held refusal) (settleHanded s' id c held refusal) := by
  cases refusal with
  | some cause => exact h.fail hr id _
  | none =>
    cases held with
    | true => exact ⟨rfl, h.alike.hold id c, h.room⟩
    | false => exact h.abandon hr id c

/-- A scheduler that remembers the same and is asked the same answers the same. -/
theorem State.Beside.asked (h : s.Beside s') (like : Concurs e (e.unguarded chance)) (id : Nat)
    (c : Continuation) : ((e.unguarded chance).asked id c s').2 = (e.asked id c s).2 ∧
      (e.asked id c s).1.Beside ((e.unguarded chance).asked id c s').1 := by
  have hanswer : (e.unguarded chance).scheduler (counted id c s').room
      ((e.unguarded chance).request id c s') =
        e.scheduler (counted id c s).room (e.request id c s) := by
    rw [counted_room, counted_room, h.room, h.alike.request like]
    rfl
  refine ⟨?_, h.alike.asked like id c, ?_⟩
  · rw [asked_eq, asked_eq, hanswer]
  · rw [asked_eq, asked_eq, hanswer]

/-- What follows the scheduler's answer, given what follows in the attempt that it runs at once. -/
theorem answered_beside (like : Concurs e (e.unguarded chance)) (h : s.Beside s')
    (hr : (answered e id left c s (e.asked id c s)).1.clock.Readable)
    (rest : ∀ t t', t.Beside t' → (e.run id left (c.next e.policy) t).1.clock.Readable →
      BesideResults (e.run id left (c.next e.policy) t)
        ((e.unguarded chance).run id left (c.next e.policy) t')) :
    BesideResults (answered e id left c s (e.asked id c s))
      (answered (e.unguarded chance) id left c s' ((e.unguarded chance).asked id c s')) := by
  obtain ⟨hanswer, hasked⟩ := h.asked like id c
  rcases ha : e.asked id c s with ⟨t, handling, refusal⟩
  rcases ha' : (e.unguarded chance).asked id c s' with ⟨t', handling', refusal'⟩
  rw [ha, ha'] at hanswer hasked
  rw [ha] at hr
  cases hanswer
  have hclock := hasked.alike.clock
  -- The answers are the same, so what is left to compare is what each answer makes of the states.
  cases handling with
  | hold =>
    change (settleHanded t id (c.next e.policy) true refusal).1.clock.Readable at hr
    rw [settleHanded_clock] at hr
    exact hasked.settleHanded hr id (c.next e.policy) true refusal
  | drop =>
    change (settleHanded t id (c.next e.policy) false refusal).1.clock.Readable at hr
    rw [settleHanded_clock] at hr
    exact hasked.settleHanded hr id (c.next e.policy) false refusal
  | run pause contained =>
    cases hp : t.clock.advance (pause.getD .zero) with
    | error fault =>
      have hp' : t'.clock.advance (pause.getD .zero) = .error fault := hclock ▸ hp
      simp only [answered, hp, unwind_clock] at hr
      simp only [answered, hp, hp']
      have hback : (t.withRoom (counted id c s).room).Beside
          (t'.withRoom (counted id c s').room) := by
        refine ⟨hasked.alike.withRoom _ _, ?_⟩
        change (counted id c s').room = (counted id c s).room
        rw [counted_room, counted_room, h.room]
      exact hback.unwind hr id _ fault
    | ok clock =>
      have hp' : t'.clock.advance (pause.getD .zero) = .ok clock := hclock ▸ hp
      simp only [answered, hp] at hr
      simp only [answered, hp, hp']
      have hlater : (t.withClock clock).Beside (t'.withClock clock) :=
        ⟨hasked.alike.withClock clock, hasked.room⟩
      obtain ⟨hfault, hstate⟩ := rest _ _ hlater hr
      refine ⟨?_, hstate⟩
      change (if contained then _ else _) = if contained then _ else _
      rw [show (c.next (e.unguarded chance).policy) = c.next e.policy from like.next c, hfault]

/-- An attempt and all that are run because of it do not notice that the breaker is gone. -/
theorem run_beside (like : Concurs e (e.unguarded chance)) (h : s.Beside s')
    (hr : (e.run id left c s).1.clock.Readable) :
    BesideResults (e.run id left c s) ((e.unguarded chance).run id left c s') := by
  -- A retry that is run at once is run with one attempt fewer left.
  induction left using Nat.strongRecOn generalizing c s s' with
  | ind left ih =>
  rcases ends_or_retries e id left c s with ⟨r, ends⟩ | ⟨hc, f, retries⟩
  · rw [ends.run_eq] at hr ⊢
    obtain ⟨r', ends', hfault, hstate⟩ := ends.alike like h.alike (.inr hr)
    rw [ends'.run_eq]
    refine ⟨hfault, hstate, ?_⟩
    rw [ends.room, ends'.room]
    exact h.room
  · obtain ⟨k, rfl⟩ := Nat.exists_eq_succ_of_ne_zero retries.allowed
    have hc' : s'.isCancelled id = false := (h.alike.isCancelled id).trans hc
    rw [run_of_retries hc retries] at hr ⊢
    rw [run_of_retries hc' (retries.alike like h.alike)]
    exact answered_beside like h hr fun t t' ht hrest => ih k (Nat.lt_succ_self k) ht hrest

/-! ### An action -/

/-- No call was ever told that the breaker is open. -/
def State.Unrejected (s : State Room) : Prop :=
  ∀ id remaining, .error (.circuitOpen remaining) ∉ (s.call id).delivered

theorem State.unrejected_iff (s : State Room) :
    s.Unrejected ↔ ∀ c ∈ s.calls, ∀ o ∈ c.delivered, Outcome.isRejection o = false := by
  constructor
  · intro h c hc o ho
    obtain ⟨id, hid, rfl⟩ := List.getElem_of_mem hc
    rw [← State.call_eq_getElem hid] at ho
    cases o with
    | ok v => rfl
    | error x =>
      cases x with
      | circuitOpen remaining => exact absurd ho (h id remaining)
      | _ => rfl
  · intro h id remaining hm
    by_cases hid : id < s.calls.length
    · rw [State.call_eq_getElem hid] at hm
      cases h _ (List.getElem_mem hid) _ hm
    · rw [State.call_of_length_le (Nat.le_of_not_lt hid)] at hm
      cases hm

instance (s : State Room) : Decidable s.Unrejected := decidable_of_iff' _ s.unrejected_iff

/-- Where no call is rejected, the gate lets the new call pass. -/
theorem admits_of_unrejected {name : String} {operation : Operation} {options : Options}
    (hs : s.clock.Readable)
    (hfree : (e.act s (.start name operation options)).Unrejected) :
    (s.enroll name operation options.token).look.2 = .ok false := by
  have hclock : (s.enroll name operation options.token).clock = s.clock := by
    obtain ⟨_, he⟩ := State.enroll_eq s name operation options.token
    rw [he]
  cases hl : (s.enroll name operation options.token).look.2 with
  | error fault => exact absurd (hclock ▸ hs) (State.not_readable_of_look hl)
  | ok rejects =>
    cases rejects with
    | false => rfl
    | true =>
      cases hr : (s.gated name operation options).remaining with
      | error fault =>
        have hn := State.not_readable_of_remaining hr
        rw [State.gated_clock] at hn
        exact absurd hs hn
      | ok remaining =>
        obtain ⟨call, hcall, hdelivered, -, -⟩ := deliver_gated s name operation options
          (.error (.circuitOpen remaining))
        have hact : e.act s (.start name operation options) = (s.gated name operation
            options).deliver s.calls.length (.error (.circuitOpen remaining)) :=
          congrArg Prod.fst (execute_of_rejected hl hr)
        rw [← hact] at hcall
        refine absurd ?_ (hfree s.calls.length remaining)
        rw [hcall, hdelivered]
        exact List.mem_cons_self

theorem look_of_unguarded (hb : s.breaker = none) : s.look.2 = .ok false := by
  simp only [State.look, hb]

theorem State.Beside.start (h : s.Beside s') (like : Concurs e (e.unguarded chance))
    (hs : s.clock.Readable) {name : String} {operation : Operation} {options : Options}
    (ht : (e.act s (.start name operation options)).clock.Readable)
    (hfree : (e.act s (.start name operation options)).Unrejected) :
    (e.act s (.start name operation options)).Beside
      ((e.unguarded chance).act s' (.start name operation options)) := by
  have hl := admits_of_unrejected hs hfree
  have hl' : (s'.enroll name operation options.token).look.2 = .ok false :=
    look_of_unguarded (h.alike.enroll name operation options.token).breaker
  have hgate := h.alike.gated name operation options
  have hroom : (s'.gated name operation options).room = (s.gated name operation options).room := by
    rw [State.gated_room, State.gated_room, h.room]
  cases hd : (s.gated name operation options).deadlineAfter options.deadline with
  | error fault =>
    have hn := State.not_readable_of_deadlineAfter hd
    rw [State.gated_clock] at hn
    exact absurd hs hn
  | ok deadline =>
    have hd' := (hgate.deadlineAfter options.deadline).trans hd
    change (e.execute name operation options s).1.clock.Readable at ht
    change (e.execute name operation options s).1.Beside
      ((e.unguarded chance).execute name operation options s').1
    rw [execute_of_admitted hl hd] at ht ⊢
    rw [execute_of_admitted hl' hd']
    -- Giving up the handle after a fault does not move the clock.
    have hran : (e.run s.calls.length (e.policy.maxAttempts.toNat - 1)
        (.first e.policy deadline) (s.gated name operation options)).1.clock.Readable := by
      dsimp only at ht
      split at ht <;> exact ht
    obtain ⟨hfault, hstate⟩ := run_beside like ⟨hgate, hroom⟩ hran
    have hnumber : s'.calls.length = s.calls.length := congrArg List.length h.alike.calls
    dsimp only
    rw [hnumber, show (e.unguarded chance).policy.maxAttempts = e.policy.maxAttempts from rfl,
      show Continuation.first (e.unguarded chance).policy deadline = .first e.policy deadline
        from rfl, hfault]
    split
    · exact ⟨hstate.alike.dropHandle _, hstate.room⟩
    · exact hstate

theorem State.Beside.release (h : s.Beside s') (room : Room) (id : Nat) :
    ((s.withRoom room).release id).Beside ((s'.withRoom room).release id) :=
  ⟨(h.alike.withRoom room room).release id, rfl⟩

theorem State.Beside.modifyCall (h : s.Beside s') (id : Nat) (g : Call → Call) :
    (s.modifyCall id g).Beside (s'.modifyCall id g) := ⟨h.alike.modifyCall id g, h.room⟩

theorem State.Beside.look (h : s.Beside s') : s.look.1.Beside s'.look.1 := by
  refine ⟨h.alike.look, ?_⟩
  obtain ⟨_, _, hl⟩ := State.look_eq s
  obtain ⟨_, _, hl'⟩ := State.look_eq s'
  rw [hl, hl']
  exact h.room

theorem State.Beside.resetBreaker (h : s.Beside s') : s.resetBreaker.Beside s'.resetBreaker := by
  have hnone : s'.breaker = none := h.alike.breaker
  have hright : s'.resetBreaker = s' := by
    simp only [State.resetBreaker, hnone]
  rw [hright]
  cases hb : s.breaker with
  | none =>
    have hleft : s.resetBreaker = s := by
      simp only [State.resetBreaker, hb]
    rw [hleft]
    exact h
  | some b =>
    have hstory : s.resetBreaker.story = s.story := by
      simp only [State.resetBreaker, hb]
      exact story_of_apart rfl rfl
    refine ⟨⟨?_, ?_, hnone, ?_, ?_, h.alike.story.trans hstory.symm⟩, ?_⟩ <;>
      simp only [State.resetBreaker, hb]
    · exact h.alike.clock
    · exact h.alike.metrics
    · exact h.alike.tokens
    · exact h.alike.calls
    · exact h.room

theorem State.Beside.advance (h : s.Beside s') (d : Duration) :
    (s.advance d).1.Beside (s'.advance d).1 := by
  unfold State.advance
  rw [h.alike.clock]
  cases s.clock.advance d with
  | ok clock => exact ⟨h.alike.withClock clock, h.room⟩
  | error fault => exact h

/-- As long as it rejects nobody, the breaker changes nothing about what an action does. -/
theorem act_beside (like : Concurs e (e.unguarded chance)) (h : s.Beside s')
    (hs : s.clock.Readable) (ht : (e.act s a).clock.Readable) (hfree : (e.act s a).Unrejected) :
    (e.act s a).Beside ((e.unguarded chance).act s' a) := by
  -- Only a start looks at the breaker before it goes on; that it rejects nobody is needed there.
  cases a with
  | start name operation options => exact h.start like hs ht hfree
  | run r room =>
    cases hw : (s.call r.call).waiting with
    | none =>
      have hw' : (s'.call r.call).waiting = none := by rw [h.alike.call, hw]
      have hleft : e.act s (.run r room) = s.withRoom room :=
        congrArg Prod.fst (runWaiting_of_taken (s := s.withRoom room) e hw)
      have hright : (e.unguarded chance).act s' (.run r room) = s'.withRoom room :=
        congrArg Prod.fst (runWaiting_of_taken (s := s'.withRoom room) (e.unguarded chance) hw')
      rw [hleft, hright]
      exact ⟨h.alike.withRoom room room, rfl⟩
    | some c =>
      have hw' : (s'.call r.call).waiting = some c := by rw [h.alike.call, hw]
      rw [act_run_of_waiting e hw] at ht ⊢
      rw [act_run_of_waiting (e.unguarded chance) hw']
      exact (run_beside like (h.release room r.call) ht).state
  | drop r room =>
    cases hw : (s.call r.call).waiting with
    | none =>
      have hw' : (s'.call r.call).waiting = none := by rw [h.alike.call, hw]
      have hleft : e.act s (.drop r room) = s.withRoom room :=
        congrArg Prod.fst (dropWaiting_of_taken (s := s.withRoom room) hw)
      have hright : (e.unguarded chance).act s' (.drop r room) = s'.withRoom room :=
        congrArg Prod.fst (dropWaiting_of_taken (s := s'.withRoom room) hw')
      rw [hleft, hright]
      exact ⟨h.alike.withRoom room room, rfl⟩
    | some c =>
      have hw' : (s'.call r.call).waiting = some c := by rw [h.alike.call, hw]
      rw [act_drop_of_waiting e hw, act_drop_of_waiting (e.unguarded chance) hw']
      exact ((h.release room r.call).fail hs r.call _).state
  | turn room => exact ⟨h.alike.withRoom room room, rfl⟩
  | poll id =>
    change (s.poll id).1.Beside (s'.poll id).1
    rw [s.poll_eq, s'.poll_eq]
    exact h.modifyCall id Call.queried
  | await id =>
    change (s.await id).1.Beside (s'.await id).1
    rw [s.await_eq, s'.await_eq]
    exact h.modifyCall id Call.queried
  | collect id =>
    change (s.wait (fun s => s) id).1.Beside (s'.wait (fun s => s) id).1
    rw [s.collect_eq, s'.collect_eq]
    exact h.modifyCall id Call.collected
  | cancel id => exact h.modifyCall id _
  | giveUp id => exact h.modifyCall id _
  | cancelToken token =>
    refine ⟨(h.alike.addToken token).cancelToken token, ?_⟩
    change (s'.addToken token).room = (s.addToken token).room
    unfold State.addToken
    rw [h.alike.tokens]
    split <;> exact h.room
  | advance d => exact h.advance d
  | setElapsed d => exact ⟨h.alike.withClock ⟨d⟩, h.room⟩
  | askOpen => exact h.look
  | readMetrics => exact h.look
  | resetBreaker => exact h.resetBreaker

/-- What may be done to an engine does not depend on its breaker. -/
theorem State.Beside.allowed (h : s.Beside s') (ha : a.Allowed custody s) :
    a.Allowed custody s' := by
  have hhandle (id : Nat) : s'.hasHandle id = s.hasHandle id := by
    simp only [State.hasHandle, h.alike.call]
  have houtcome (id : Nat) : (s'.outcome? id).isSome = (s.outcome? id).isSome := by
    rw [Bool.eq_iff_iff, State.isSome_outcome?, State.isSome_outcome?, h.alike.call]
  cases a <;> simp only [Action.Allowed, h.room, hhandle, houtcome] at ha ⊢ <;> exact ha

/-! ### A run -/

theorem beside_initial (e : Engine Room) (chance : Nat → Nat → Draw) (room : Room) :
    (initial e room).Beside (initial (e.unguarded chance) room) :=
  ⟨⟨rfl, rfl, rfl, rfl, rfl, rfl⟩, rfl⟩

/-- The part of a run up to some point is a run. -/
theorem Run.of_append {xs ys : List (Action Room)} (run : Run e custody ok s (xs ++ ys) t) :
    Run e custody ok s xs (xs.foldl e.act s) := by
  generalize hall : xs ++ ys = all at run
  induction run generalizing ys with
  | nil hs =>
    obtain ⟨rfl, -⟩ := List.append_eq_nil_iff.mp hall
    exact .nil hs
  | @snoc t as a run allowed ht ih =>
    rcases List.eq_nil_or_concat ys with rfl | ⟨ys, b, rfl⟩
    · rw [List.append_nil] at hall
      have whole := run.snoc allowed ht
      rw [← hall] at whole
      exact whole.end_eq ▸ whole
    · rw [List.concat_eq_append, ← List.append_assoc] at hall
      obtain ⟨hbefore, -⟩ := List.append_inj' hall rfl
      exact ih hbefore

theorem Run.beside {room : Room} (like : Concurs e (e.unguarded chance))
    (run : Run e custody (fun u => u.clock.Readable ∧ u.Unrejected) (initial e room) as s) :
    let e' := e.unguarded chance
    s.Beside (as.foldl e'.act (initial e' room)) ∧
      Run e' custody (fun u => u.clock.Readable) (initial e' room) as
        (as.foldl e'.act (initial e' room)) := by
  intro e'
  -- The second run is built along with the first one: what may be done next depends on the state.
  induction run with
  | nil hs => exact ⟨beside_initial e chance room, .nil hs.1⟩
  | @snoc t as a run allowed ht ih =>
    obtain ⟨hbeside, run'⟩ := ih
    have hstep := act_beside like hbeside run.ok_end.1 ht.1 ht.2
    rw [List.foldl_append, List.foldl_cons, List.foldl_nil]
    refine ⟨hstep, run'.snoc (hbeside.allowed allowed) ?_⟩
    rw [hstep.alike.clock]
    exact ht.1

/-- While no call is rejected, an engine does at every point of a run what it would do without its
breaker: every call has the same record, with its invocations and its outcomes, the same attempts
were requested after the same waits, and the counters are the same. A breaker that opens while calls
wait for their next attempts therefore changes nothing about these calls. -/
theorem breaker_only_admits {room : Room} (hj : e.policy.jitterFactor.le 0 = true)
    (chance : Nat → Nat → Draw)
    (run : Run e custody (fun u => u.clock.Readable ∧ u.Unrejected) (initial e room) as s) :
    let e' := e.unguarded chance
    Run e' custody (fun u => u.clock.Readable) (initial e' room) as
      (as.foldl e'.act (initial e' room)) ∧
    ∀ xs ys, as = xs ++ ys →
      let u := xs.foldl e.act (initial e room)
      let u' := xs.foldl e'.act (initial e' room)
      u'.breaker = none ∧ u'.calls = u.calls ∧ u'.requests = u.requests ∧
        u'.metrics = u.metrics ∧ u'.story = u.story ∧ u'.clock = u.clock ∧
        u'.tokens = u.tokens ∧ u'.room = u.room := by
  intro e'
  have like := concurs_unguarded hj chance
  refine ⟨(run.beside like).2, fun xs ys hxs => ?_⟩
  intro u u'
  subst hxs
  obtain ⟨⟨alike, hroom⟩, -⟩ := run.of_append.beside like
  exact ⟨alike.breaker, alike.calls, alike.requests, alike.metrics, alike.story, alike.clock,
    alike.tokens, hroom⟩

/-- An engine that makes two attempts of a call and whose breaker opens on the first failure. -/
def hasty : Engine (Queue Request) where
  policy := { Policy.guarded with
    maxAttempts := 2, jitterFactor := 0, breaker := ⟨1, .ofSeconds 30, 1⟩ }
  scheduler := .queueing
  chance := fun _ _ => .middle

def hastyCustody : Custody hasty.scheduler := queueCustody

/-- The start of a call whose failure is never retried. -/
def startInvalid : Action (Queue Request) :=
  .start "svc" (fun _ => ⟨none, none, .failure (.plain .invalidArgument "invalid")⟩) ⟨none, none⟩

/-- A call waits for its second attempt while another one fails, which opens the breaker. -/
def hastyOpened : State (Queue Request) :=
  hasty.act (hasty.act (initial hasty (.empty none)) startRefused) startInvalid

/-- The second attempt is made although the breaker is open by then. -/
theorem breaker_only_admits_opened :
    hasty.policy.jitterFactor.le 0 = true ∧
    Run hasty hastyCustody (fun u => u.clock.Readable ∧ u.Unrejected)
      (initial hasty (.empty none)) [startRefused, startInvalid, runFirst]
      (hasty.act hastyOpened runFirst) ∧
    hastyOpened.circuit? = some .opened ∧
    ((hasty.act hastyOpened runFirst).call 0).invocations = 2 ∧
    let e' := hasty.unguarded hasty.chance
    ([startRefused, startInvalid, runFirst].foldl e'.act (initial e' (.empty none))).calls =
      (hasty.act hastyOpened runFirst).calls := by
  have hj : hasty.policy.jitterFactor.le 0 = true := by decide +kernel
  have h0 : Run hasty hastyCustody (fun u => u.clock.Readable ∧ u.Unrejected)
      (initial hasty (.empty none)) [] (initial hasty (.empty none)) := .nil (by decide)
  have h1 := h0.snoc (a := startRefused) trivial (by decide)
  have h2 : Run hasty hastyCustody (fun u => u.clock.Readable ∧ u.Unrejected)
      (initial hasty (.empty none)) [startRefused, startInvalid] hastyOpened :=
    h1.snoc (a := startInvalid) trivial (by decide)
  have hheld : hastyOpened.room.waiting = [⟨0, "svc", 2, .ofMillis 1000, .zero, false⟩] := by
    decide +kernel
  have run := h2.snoc (a := runFirst) (List.Perm.of_eq hheld) (by decide)
  obtain ⟨-, same⟩ := breaker_only_admits hj hasty.chance run
  obtain ⟨-, hcalls, -⟩ := same [startRefused, startInvalid, runFirst] [] rfl
  exact ⟨hj, run, by decide, by decide, hcalls⟩

end Engine

end Reattempt
