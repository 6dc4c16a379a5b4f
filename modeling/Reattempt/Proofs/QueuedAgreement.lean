import Reattempt.Engine.Immediate
import Reattempt.Proofs.Likeness

/-!
One call on two schedulers. One of them runs every retry inside the attempt before it; the other one
holds it in a queue, from which attempts are run until none waits. Started in the same state and
without jitter, the call comes to the same. Main statement: `inline_eq_queued`.

The first way is a recursion and the second one a loop. An attempt that asks for another one is in
the same state on both sides when the other one begins (`followed_hold`), so that nothing but the
handle can tell them apart: a fault of a retry takes the handle of the caller away only where the
caller is still waiting for it.
-/
namespace Reattempt

theorem Clock.advance_zero (clock : Clock) : clock.advance .zero = .ok clock := by
  have hle : clock.elapsed.nanos + Duration.zero.nanos ≤ Duration.maxNanos :=
    clock.elapsed.nanos_le
  have hsum : clock.elapsed.add? .zero = some clock.elapsed :=
    (dif_pos hle).trans (congrArg some (Duration.ext_nanos rfl))
  simp only [Clock.advance, hsum]

namespace Engine

/-- An engine that runs every retry at once. -/
def inlined (p : Policy) (chance : Nat → Nat → Draw) : Engine (List Duration) :=
  ⟨p, .inline, chance⟩

/-- An engine whose retries wait in a queue. -/
def queued (p : Policy) (chance : Nat → Nat → Draw) : Engine (Queue Request) :=
  ⟨p, .queueing, chance⟩

/-- A queue without a limit in which nothing waits; the delays are those of earlier attempts. -/
def idleQueue (delays : List Duration) : Queue Request := ⟨none, [], delays, false⟩

/-- The state with another scheduler behind it. -/
def State.rehoused {Room Room' : Type} (s : State Room) (room : Room') : State Room' :=
  ⟨s.clock, s.metrics, s.breaker, s.tokens, s.calls, room, s.journal⟩

variable {p : Policy} {chance chance' : Nat → Nat → Draw} {s t : State (List Duration)}
  {s' t' : State (Queue Request)} {id left n ran : Nat} {c : Continuation} {f : Failure}
  {log : List Duration} {e : Engine (Queue Request)}

theorem concurs_queued (hj : p.jitterFactor.le 0 = true) (chance chance' : Nat → Nat → Draw) :
    Concurs (inlined p chance) (queued p chance') where
  maxAttempts := rfl
  shouldRetry := fun _ => rfl
  first := fun _ => rfl
  next := fun _ => rfl
  delay := fun id c => by
    simp only [delay, inlined, queued, Policy.applyJitter, hj, Bool.true_or, ↓reduceIte]

theorem alike_rehoused {Room Room' : Type} (s : State Room) (room : Room') :
    s.Alike true (s.rehoused room) := ⟨rfl, rfl, rfl, rfl, rfl, rfl⟩

/-! ### The loop -/

/-- What becomes of an attempt and of all that wait after it: a fault stops the loop. -/
def followed (e : Engine (Queue Request)) (n ran : Nat) :
    State (Queue Request) × Option Fault → State (Queue Request) × Except Fault Nat
  | (s, some fault) => (s, .error fault)
  | (s, none) => Queued.runAll.go e n ran s

theorem go_of_idle (n ran : Nat) (h : s'.room.waiting = []) :
    Queued.runAll.go e n ran s' = (s', .ok ran) := by
  cases n with
  | zero => rfl
  | succ n => simp only [Queued.runAll.go, Queued.runNext, Queue.pop?, h]

theorem runNext_of_waiting {r : Request} (h : s'.room.waiting = [r]) :
    Queued.runNext e s' =
      match e.runWaiting r.call (s'.withRoom { s'.room with waiting := [] }) with
      | (t, some fault) => (t, .error fault)
      | (t, none) => (t, .ok true) := by
  simp only [Queued.runNext, Queue.pop?, h]
  rfl

/-- The loop goes on with the one attempt that waits. -/
theorem go_of_waiting {r : Request} (h : s'.room.waiting = [r])
    (hw : (s'.call r.call).waiting = some c) (n ran : Nat) :
    Queued.runAll.go e (n + 1) ran s' = followed e n (ran + 1)
      (e.run r.call (e.policy.maxAttempts.toNat - c.attempt) c
        ((s'.withRoom { s'.room with waiting := [] }).release r.call)) := by
  have hw' : ((s'.withRoom { s'.room with waiting := [] }).call r.call).waiting = some c := hw
  have hrun : e.runWaiting r.call (s'.withRoom { s'.room with waiting := [] }) =
      e.run r.call (e.policy.maxAttempts.toNat - c.attempt) c
        ((s'.withRoom { s'.room with waiting := [] }).release r.call) := by
    simp only [runWaiting, hw']
  rw [Queued.runAll.go, runNext_of_waiting h, hrun]
  rcases e.run r.call (e.policy.maxAttempts.toNat - c.attempt) c
    ((s'.withRoom { s'.room with waiting := [] }).release r.call) with ⟨t, fault⟩
  cases fault <;> rfl

/-! ### An attempt -/

theorem asked_inlined (p : Policy) (chance : Nat → Nat → Draw) (id : Nat) (c : Continuation)
    (s : State (List Duration)) :
    ((inlined p chance).asked id c s).2 = (.run none false, none) ∧
      ((inlined p chance).asked id c s).1.room = s.room ++ [(inlined p chance).delay id c] := by
  refine ⟨rfl, ?_⟩
  change (counted id c s).room ++ [(inlined p chance).delay id c] = _
  rw [counted_room]

/-- The queue takes the next attempt and holds it, or it drops it and stays as it was. -/
theorem asked_queueing (p : Policy) (chance : Nat → Nat → Draw) (id : Nat) (c : Continuation)
    (s : State (Queue Request)) :
    let e := queued p chance
    (∃ room, s.room.push (e.delay id c) (e.request id c s) = .ok room ∧
        (e.asked id c s).2 = (.hold, none) ∧ (e.asked id c s).1.room = room) ∨
      ∃ cause, s.room.refusal? = some cause ∧ (e.asked id c s).2 = (.drop, some cause) ∧
        (e.asked id c s).1.room = s.room := by
  intro e
  have hcounted : (counted id c s).room = s.room := counted_room id c s
  rw [asked_eq, hcounted]
  simp only [e, queued, Scheduler.queueing, Queue.push]
  cases s.room.refusal? with
  | none => exact .inl ⟨_, rfl, rfl, rfl⟩
  | some cause => exact .inr ⟨cause, rfl, rfl, rfl⟩

theorem asked_queued (p : Policy) (chance : Nat → Nat → Draw) (hroom : s'.room = idleQueue log)
    (id : Nat) (c : Continuation) :
    ((queued p chance).asked id c s').2 = (.hold, none) ∧
      ((queued p chance).asked id c s').1.room =
        ⟨none, [(queued p chance).request id c s'], log ++ [(queued p chance).delay id c],
          false⟩ := by
  rcases asked_queueing p chance id c s' with ⟨room, hpush, answer, hafter⟩ | ⟨cause, refusal, -⟩
  · rw [hroom] at hpush
    cases hpush
    exact ⟨answer, hafter⟩
  · rw [hroom] at refusal
    cases refusal

/-- The scheduler runs the retry before the attempt returns. -/
theorem run_inlined (hc : s.isCancelled id = false)
    (hr : Retries (inlined p chance) id (left + 1) c s f) :
    (inlined p chance).run id (left + 1) c s =
      (inlined p chance).run id left (c.next p) ((inlined p chance).asked id c s).1 := by
  rw [run_of_retries hc hr]
  rcases ha : (inlined p chance).asked id c s with ⟨t, handling, refusal⟩
  have hanswer := (asked_inlined p chance id c s).1
  rw [ha] at hanswer
  cases hanswer
  have hstill : t.clock.advance ((none : Option Duration).getD .zero) = .ok t.clock :=
    t.clock.advance_zero
  simp only [answered, hstill]
  rfl

/-- The retry waits when the attempt returns. -/
theorem run_queued (hroom : s'.room = idleQueue log) (hc : s'.isCancelled id = false)
    (hr : Retries (queued p chance) id (left + 1) c s' f) :
    (queued p chance).run id (left + 1) c s' =
      (((queued p chance).asked id c s').1.hold id (c.next p), none) := by
  rw [run_of_retries hc hr]
  rcases ha : (queued p chance).asked id c s' with ⟨t, handling, refusal⟩
  have hanswer := (asked_queued p chance hroom id c).1
  rw [ha] at hanswer
  cases hanswer
  rfl

theorem release_hold {Room : Type} {s : State Room} (hw : (s.call id).waiting = none)
    (c : Continuation) : (s.hold id c).release id = s := by
  have hsame : { { s.call id with waiting := some c } with waiting := none } = s.call id := by
    rw [← hw]
  exact (State.modifyCall_modifyCall s id _ _).trans (State.modifyCall_self hsame)

/-- An attempt with every retry inside it, and the same attempt with the loop after it. -/
structure Drained (log : List Duration) (ran : Nat) (s : State (List Duration))
    (r : State (List Duration) × Option Fault)
    (q : State (Queue Request) × Except Fault Nat) : Prop where
  alike : r.1.Alike true q.1
  /-- The schedulers were handed the same waits, and nothing waits in the queue. -/
  rooms : ∃ delays, r.1.room = s.room ++ delays ∧ q.1.room = idleQueue (log ++ delays) ∧
    q.2 = r.2.elim (.ok (ran + delays.length)) .error

/-- The call waits for nothing, and is known. -/
structure State.Bare {Room : Type} (s : State Room) (id : Nat) : Prop where
  known : id < s.calls.length
  waiting : (s.call id).waiting = none

theorem bare_asked {Room : Type} {e : Engine Room} {s : State Room} (h : s.Bare id)
    (c : Continuation) : (e.asked id c s).1.Bare id where
  known := State.length_of_modify (asked_calls e id c s) ▸ h.known
  waiting := (State.part_of_modify Call.waiting (asked_calls e id c s) (fun _ => rfl) id).trans
    h.waiting

/-- An attempt that ends its call leaves nothing for the loop. -/
theorem drained_of_ends {r : State (List Duration) × Option Fault}
    (like : Concurs (inlined p chance) (queued p chance')) (h : s.Alike true s')
    (hroom : s'.room = idleQueue log) (ends : Ends (inlined p chance) id left c s r) :
    Drained log ran s r
      (followed (queued p chance') n ran ((queued p chance').run id left c s')) := by
  obtain ⟨⟨t', fault⟩, ends', hfault, hstate⟩ := ends.alike like h (.inl rfl)
  have hidle : t'.room = idleQueue log := ends'.room.trans hroom
  have hkept : r.1.room = s.room ++ [] := ends.room.trans (List.append_nil _).symm
  have hlog : t'.room = idleQueue (log ++ []) := hidle.trans (by rw [List.append_nil])
  rw [ends'.run_eq]
  cases fault with
  | some fault =>
    refine ⟨hstate, [], hkept, hlog, ?_⟩
    rw [← hfault]
    rfl
  | none =>
    have hstop : Queued.runAll.go (queued p chance') n ran t' = (t', .ok ran) :=
      go_of_idle n ran (congrArg Queue.waiting hidle)
    change Drained log ran s r (Queued.runAll.go (queued p chance') n ran t')
    rw [hstop]
    refine ⟨hstate, [], hkept, hlog, ?_⟩
    rw [← hfault]
    rfl

/-- An attempt that waits is the next one that the loop runs, and finds the queue empty. -/
theorem followed_hold (hknown : id < t'.calls.length) (hw : (t'.call id).waiting = none)
    {r : Request} (hr : r.call = id) (hroom : t'.room = ⟨none, [r], log, false⟩)
    (n ran : Nat) (c : Continuation) :
    followed e (n + 1) ran (t'.hold id c, none) = followed e n (ran + 1)
      (e.run id (e.policy.maxAttempts.toNat - c.attempt) c (t'.withRoom (idleQueue log))) := by
  subst hr
  have hwaits : ((t'.hold r.call c).call r.call).waiting = some c :=
    congrArg Call.waiting (State.call_of_modify (State.hold_calls t' r.call c) hknown)
  have hone : (t'.hold r.call c).room.waiting = [r] := congrArg Queue.waiting hroom
  have htaken : { (t'.hold r.call c).room with waiting := [] } = idleQueue log := by
    change { t'.room with waiting := [] } = idleQueue log
    rw [hroom]
    rfl
  change Queued.runAll.go e (n + 1) ran (t'.hold r.call c) = _
  rw [go_of_waiting hone hwaits, htaken]
  have hfree : ((t'.withRoom (idleQueue log)).call r.call).waiting = none := hw
  have hback := release_hold hfree c
  exact congrArg (fun u => followed e n (ran + 1)
    (e.run r.call (e.policy.maxAttempts.toNat - c.attempt) c u)) hback

/-- What the rest of the loop adds to the retry that was asked for first. -/
theorem Drained.asked {q : State (Queue Request) × Except Fault Nat}
    {r : State (List Duration) × Option Fault} {wait : Duration}
    (hroom : t.room = s.room ++ [wait]) (rest : Drained (log ++ [wait]) (ran + 1) t r q) :
    Drained log ran s r q := by
  obtain ⟨alike, delays, hr, hq, hran⟩ := rest
  refine ⟨alike, wait :: delays, ?_, ?_, ?_⟩
  · rw [hr, hroom, List.append_assoc, List.singleton_append]
  · rw [hq, List.append_assoc, List.singleton_append]
  · rw [hran, List.length_cons, Nat.add_assoc, Nat.add_comm 1]

/-- The loop needs as many rounds as the policy allows attempts after the one in hand. -/
theorem drained_run (like : Concurs (inlined p chance) (queued p chance')) (h : s.Alike true s')
    (bare : s.Bare id) (hroom : s'.room = idleQueue log)
    (hleft : left = p.maxAttempts.toNat - c.attempt) (hn : left ≤ n) :
    Drained log ran s ((inlined p chance).run id left c s)
      (followed (queued p chance') n ran ((queued p chance').run id left c s')) := by
  -- On the attempts left: a retry is the same attempt on both sides, with one fewer left, and the
  -- waits that the schedulers were handed before it are carried along.
  induction left using Nat.strongRecOn generalizing c s s' n ran log with
  | ind left ih =>
  rcases ends_or_retries (inlined p chance) id left c s with ⟨r, ends⟩ | ⟨hc, f, retries⟩
  · rw [ends.run_eq]
    exact drained_of_ends like h hroom ends
  · obtain ⟨k, rfl⟩ := Nat.exists_eq_succ_of_ne_zero retries.allowed
    obtain ⟨m, rfl⟩ : ∃ m, n = m + 1 := ⟨n - 1, by omega⟩
    have hc' : s'.isCancelled id = false := (h.isCancelled id).trans hc
    obtain ⟨-, hinlined⟩ := asked_inlined p chance id c s
    obtain ⟨-, hqueued⟩ := asked_queued p chance' hroom id c
    have hasked := h.asked like id c
    have bare' : ((inlined p chance).asked id c s).1.Bare id := bare_asked bare c
    rw [run_inlined hc retries, run_queued hroom hc' (retries.alike like h)]
    have hknown : id < ((queued p chance').asked id c s').1.calls.length := by
      rw [hasked.calls]
      exact bare'.known
    have hw : (((queued p chance').asked id c s').1.call id).waiting = none := by
      rw [hasked.call]
      exact bare'.waiting
    have hleft' : k = p.maxAttempts.toNat - (c.next p).attempt := by
      change k = p.maxAttempts.toNat - (c.attempt + 1)
      omega
    rw [like.delay] at hqueued
    rw [followed_hold hknown hw rfl hqueued]
    apply Drained.asked hinlined
    change Drained _ _ _ _ (followed (queued p chance') m (ran + 1) ((queued p chance').run id
      (p.maxAttempts.toNat - (c.next p).attempt) (c.next p) _))
    rw [← hleft']
    exact ih k (Nat.lt_succ_self k) (hasked.withRoom _ _) bare' rfl hleft' (by omega)

/-- The loop has rounds enough for what the first attempt leaves behind. -/
theorem runAll_eq_followed (id : Nat) (hroom : s'.room = idleQueue log)
    (hleft : left = p.maxAttempts.toNat - c.attempt) : ∃ n, left ≤ n ∧
      Queued.runAll (queued p chance') ((queued p chance').run id left c s').1 =
        followed (queued p chance') n 0 (((queued p chance').run id left c s').1, none) := by
  rcases ends_or_retries (queued p chance') id left c s' with ⟨r, ends⟩ | ⟨hc, f, retries⟩
  · -- Nothing waits, and any number of rounds is enough.
    have hidle : r.1.room.waiting = [] := congrArg Queue.waiting (ends.room.trans hroom)
    refine ⟨left, Nat.le_refl _, ?_⟩
    rw [ends.run_eq]
    exact (go_of_idle _ 0 hidle).trans (go_of_idle _ 0 hidle).symm
  · -- One attempt waits, and the loop counts on as many rounds as its call has attempts left.
    obtain ⟨k, rfl⟩ := Nat.exists_eq_succ_of_ne_zero retries.allowed
    refine ⟨_, ?_, rfl⟩
    rw [run_queued hroom hc retries]
    have hone : (((queued p chance').asked id c s').1.hold id (c.next p)).room.waiting =
        [(queued p chance').request id c s'] :=
      congrArg Queue.waiting (asked_queued p chance' hroom id c).2
    have hattempt : ((queued p chance').request id c s').attempt = c.attempt + 1 := rfl
    simp only [Queued.budget, hone, List.foldr_cons, List.foldr_nil, hattempt]
    change k + 1 ≤ p.maxAttempts.toNat - (c.attempt + 1) + 1 + 0 + 1
    omega

/-! ### A call -/

section

variable {Room : Type} {e : Engine Room} {s : State Room} {name : String} {operation : Operation}
  {options : Options} {r : State Room × Option Fault}

/-- A call that does not get as far as its first attempt, with the state that it leaves. -/
inductive Stopped (s : State Room) (name : String) (operation : Operation) (options : Options) :
    State Room × Option Fault → Prop
  | unanswered {fault : Fault}
      (hl : (s.enroll name operation options.token).look.2 = .error fault) :
      Stopped s name operation options
        ((s.gated name operation options).dropHandle s.calls.length, some fault)
  | rejected {remaining : Option Duration}
      (hl : (s.enroll name operation options.token).look.2 = .ok true)
      (hr : (s.gated name operation options).remaining = .ok remaining) :
      Stopped s name operation options ((s.gated name operation options).deliver s.calls.length
        (.error (.circuitOpen remaining)), none)
  | unknown {fault : Fault} (hl : (s.enroll name operation options.token).look.2 = .ok true)
      (hr : (s.gated name operation options).remaining = .error fault) :
      Stopped s name operation options
        ((s.gated name operation options).dropHandle s.calls.length, some fault)
  | undue {fault : Fault} (hl : (s.enroll name operation options.token).look.2 = .ok false)
      (hd : (s.gated name operation options).deadlineAfter options.deadline = .error fault) :
      Stopped s name operation options
        ((s.gated name operation options).dropHandle s.calls.length, some fault)

theorem Stopped.execute_eq (stopped : Stopped s name operation options r) (e : Engine Room) :
    e.execute name operation options s = r := by
  cases stopped with
  | unanswered hl => simp only [execute, State.look_enroll hl]
  | rejected hl hr => exact execute_of_rejected hl hr
  | unknown hl hr => simp only [execute, State.look_enroll hl, hr]
  | undue hl hd => simp only [execute, State.look_enroll hl, hd]

theorem Stopped.room (stopped : Stopped s name operation options r) : r.1.room = s.room := by
  have hgate := State.gated_room s name operation options
  cases stopped <;> exact hgate

/-- A call is stopped, or it is admitted and makes its first attempt. -/
theorem stopped_or_admitted (s : State Room) (name : String) (operation : Operation)
    (options : Options) : (∃ r, Stopped s name operation options r) ∨
      (s.enroll name operation options.token).look.2 = .ok false ∧ ∃ deadline,
        (s.gated name operation options).deadlineAfter options.deadline = .ok deadline := by
  cases hl : (s.enroll name operation options.token).look.2 with
  | error fault => exact .inl ⟨_, .unanswered hl⟩
  | ok rejects =>
    cases rejects with
    | true =>
      cases hr : (s.gated name operation options).remaining with
      | error fault => exact .inl ⟨_, .unknown hl hr⟩
      | ok remaining => exact .inl ⟨_, .rejected hl hr⟩
    | false =>
      cases hd : (s.gated name operation options).deadlineAfter options.deadline with
      | error fault => exact .inl ⟨_, .undue hl hd⟩
      | ok deadline => exact .inr ⟨rfl, deadline, rfl⟩

/-- A fault of the first attempt reaches the caller instead of the handle. -/
theorem execute_eq_of_admitted {deadline : Option Deadline}
    (hl : (s.enroll name operation options.token).look.2 = .ok false)
    (hd : (s.gated name operation options).deadlineAfter options.deadline = .ok deadline) :
    e.execute name operation options s =
      let ran := e.run s.calls.length (e.policy.maxAttempts.toNat - 1)
        (.first e.policy deadline) (s.gated name operation options)
      (if ran.2.isSome then ran.1.dropHandle s.calls.length else ran.1, ran.2) := by
  simp only [execute, State.look_enroll hl, hd]
  split <;> simp_all

end

theorem State.Alike.look_snd {Room Room' : Type} {s : State Room} {s' : State Room'}
    (h : s.Alike true s') : s'.look.2 = s.look.2 := by
  simp only [State.look, h.breaker, h.clock, ↓reduceIte]
  split <;> rfl

theorem Stopped.alike {name : String} {operation : Operation} {options : Options}
    {r : State (List Duration) × Option Fault} (stopped : Stopped s name operation options r)
    (h : s.Alike true s') :
    ∃ r', Stopped s' name operation options r' ∧ AlikeResults true r r' := by
  have hnumber : s'.calls.length = s.calls.length := congrArg List.length h.calls
  have henrolled := h.enroll name operation options.token
  have hgate := h.gated name operation options
  have hlook := henrolled.look_snd
  have hremaining : (s'.gated name operation options).remaining =
      (s.gated name operation options).remaining := by
    simp only [State.remaining, hgate.breaker, hgate.clock, ↓reduceIte]
  cases stopped with
  | unanswered hl =>
    refine ⟨_, .unanswered (hlook.trans hl), rfl, ?_⟩
    rw [hnumber]
    exact hgate.dropHandle _
  | rejected hl hr =>
    refine ⟨_, .rejected (hlook.trans hl) (hremaining.trans hr), rfl, ?_⟩
    rw [hnumber]
    exact hgate.deliver _ _
  | unknown hl hr =>
    refine ⟨_, .unknown (hlook.trans hl) (hremaining.trans hr), rfl, ?_⟩
    rw [hnumber]
    exact hgate.dropHandle _
  | undue hl hd =>
    refine ⟨_, .undue (hlook.trans hl) ((hgate.deadlineAfter _).trans hd), rfl, ?_⟩
    rw [hnumber]
    exact hgate.dropHandle _

/-- The fault that stopped the loop. -/
def stoppedBy : Except Fault Nat → Option Fault
  | .ok _ => none
  | .error fault => some fault

/-- A call with its retries inside it, beside one whose retries were let go from a queue: `started`
is what its start threw, and `drained` what the loop made of it. -/
structure Agreed (id : Nat) (log : List Duration) (s : State (List Duration))
    (nested : State (List Duration) × Option Fault) (started : Option Fault)
    (drained : State (Queue Request) × Except Fault Nat) : Prop where
  /-- A fault of a retry takes away the handle of a caller who is still waiting for it. -/
  alike : ∃ t : State (List Duration), t.Alike true drained.1 ∧
    (nested.1 = t ∨ nested.2 ≠ none ∧ nested.1 = t.dropHandle id)
  rooms : ∃ delays, nested.1.room = s.room ++ delays ∧ drained.1.room = idleQueue (log ++ delays)
  fault : nested.2 = started.or (stoppedBy drained.2)

theorem agreed_of_stopped {r : State (List Duration) × Option Fault}
    {r' : State (Queue Request) × Option Fault} (h : AlikeResults true r r')
    (hroom : r.1.room = s.room) (hidle : r'.1.room = idleQueue log) :
    Agreed id log s r r'.2 (Queued.runAll (queued p chance') r'.1) := by
  have hdrained : Queued.runAll (queued p chance') r'.1 = (r'.1, .ok 0) :=
    go_of_idle _ 0 (congrArg Queue.waiting hidle)
  rw [hdrained]
  refine ⟨⟨r.1, h.state, .inl rfl⟩, ⟨[], ?_, ?_⟩, ?_⟩
  · rw [hroom, List.append_nil]
  · rw [List.append_nil]
    exact hidle
  · rw [h.fault]
    exact (Option.or_none ..).symm

/-- The first attempt of a call that is admitted, and all that comes of it. -/
theorem agreed_of_run (like : Concurs (inlined p chance) (queued p chance'))
    (h : s.Alike true s') (bare : s.Bare id) (hroom : s'.room = idleQueue log)
    (hleft : left = p.maxAttempts.toNat - c.attempt) :
    let ran := (inlined p chance).run id left c s
    let ran' := (queued p chance').run id left c s'
    Agreed id log s (if ran.2.isSome then ran.1.dropHandle id else ran.1, ran.2) ran'.2
      (Queued.runAll (queued p chance')
        (if ran'.2.isSome then ran'.1.dropHandle id else ran'.1)) := by
  intro ran ran'
  obtain ⟨n, hn, hrounds⟩ : ∃ n, left ≤ n ∧ Queued.runAll (queued p chance') ran'.1 =
      followed (queued p chance') n 0 (ran'.1, none) := runAll_eq_followed id hroom hleft
  have drained : Drained log 0 s ran (followed (queued p chance') n 0 ran') :=
    drained_run like h bare hroom hleft hn
  generalize ran = r at drained ⊢
  generalize ran' = r' at drained hrounds ⊢
  obtain ⟨t', fault'⟩ := r'
  obtain ⟨t, fault⟩ := r
  obtain ⟨alike, delays, hrun, hqueue, hfault⟩ := drained
  cases fault' with
  | some thrown =>
    -- The first attempt itself threw, so that both callers are left without a handle.
    have hdrained : Queued.runAll (queued p chance') (t'.dropHandle id) =
        (t'.dropHandle id, .ok 0) := go_of_idle _ 0 (congrArg Queue.waiting hqueue)
    cases fault with
    | none => cases hfault
    | some fault =>
      cases hfault
      change Agreed id log s (t.dropHandle id, some thrown) (some thrown)
        (Queued.runAll (queued p chance') (t'.dropHandle id))
      rw [hdrained]
      exact ⟨⟨_, alike.dropHandle id, .inl rfl⟩, ⟨delays, hrun, hqueue⟩, rfl⟩
  | none =>
    change Agreed id log s _ none (Queued.runAll (queued p chance') t')
    rw [hrounds]
    generalize followed (queued p chance') n 0 (t', none) = q at alike hqueue hfault
    refine ⟨⟨t, alike, ?_⟩, ⟨delays, ?_, hqueue⟩, ?_⟩
    · cases fault with
      | none => exact .inl rfl
      | some fault => exact .inr ⟨Option.some_ne_none fault, rfl⟩
    · cases fault <;> exact hrun
    · rw [hfault]
      cases fault <;> rfl

/-- The call is known, and waits for nothing yet. -/
theorem bare_gated {Room : Type} (s : State Room) (name : String) (operation : Operation)
    (options : Options) : (s.gated name operation options).Bare s.calls.length where
  known := State.lt_length_gated s name operation options
  waiting := by rw [State.call_append_last (State.gated_calls s name operation options)]

theorem agreed_execute (like : Concurs (inlined p chance) (queued p chance')) (h : s.Alike true s')
    (hroom : s'.room = idleQueue log) (name : String) (operation : Operation) (options : Options) :
    let started := (queued p chance').execute name operation options s'
    Agreed s.calls.length log s ((inlined p chance).execute name operation options s) started.2
      (Queued.runAll (queued p chance') started.1) := by
  intro started
  rcases stopped_or_admitted s name operation options with ⟨r, stopped⟩ | ⟨hl, deadline, hd⟩
  · obtain ⟨r', stopped', results⟩ := stopped.alike h
    have hstarted : started = r' := stopped'.execute_eq (queued p chance')
    rw [hstarted, stopped.execute_eq]
    exact agreed_of_stopped results stopped.room (stopped'.room.trans hroom)
  · have hnumber : s'.calls.length = s.calls.length := congrArg List.length h.calls
    have hgate := h.gated name operation options
    have hidle : (s'.gated name operation options).room = idleQueue log :=
      (State.gated_room s' name operation options).trans hroom
    have hl' : (s'.enroll name operation options.token).look.2 = .ok false := by
      rw [← hl]
      exact (h.enroll name operation options.token).look_snd
    have hd' := (hgate.deadlineAfter options.deadline).trans hd
    have hstarted := execute_eq_of_admitted (e := queued p chance') hl' hd'
    have bare := bare_gated s name operation options
    obtain ⟨alike, rooms, fault⟩ := agreed_of_run like hgate bare hidle (c := .first p deadline) rfl
    rw [State.gated_room] at rooms
    change started = _ at hstarted
    rw [hstarted, execute_eq_of_admitted hl hd, hnumber]
    exact ⟨alike, rooms, fault⟩

namespace Agreed

variable {nested : State (List Duration) × Option Fault} {started : Option Fault}
  {drained : State (Queue Request) × Except Fault Nat}

/-- Giving up the handle writes the cancellation and the handle, and nothing else of the call. -/
theorem part (agreed : Agreed id log s nested started drained) {α : Type} (part : Call → α)
    (hkept : ∀ c : Call, part { c with cancelled := true, handle := .gone } = part c) :
    part (drained.1.call id) = part (nested.1.call id) := by
  obtain ⟨t, alike, ht⟩ := agreed.alike
  rw [alike.call]
  rcases ht with ht | ⟨-, ht⟩
  · rw [ht]
  · rw [ht]
    exact (State.part_of_modify part rfl hkept id).symm

theorem call_ne (agreed : Agreed id log s nested started drained) {j : Nat} (hj : j ≠ id) :
    drained.1.call j = nested.1.call j := by
  obtain ⟨t, alike, ht⟩ := agreed.alike
  rw [alike.call]
  rcases ht with ht | ⟨-, ht⟩
  · rw [ht]
  · rw [ht]
    exact (State.call_of_modify_ne rfl hj).symm

theorem calls (agreed : Agreed id log s nested started drained) (hquiet : nested.2 = none) :
    drained.1.calls = nested.1.calls := by
  obtain ⟨t, alike, ht⟩ := agreed.alike
  rcases ht with ht | ⟨hfault, -⟩
  · rw [ht]
    exact alike.calls
  · exact absurd hquiet hfault

/-- Giving up the handle writes the calls and nothing else. -/
theorem apart (agreed : Agreed id log s nested started drained) :
    ∃ calls, State.Alike true { nested.1 with calls } drained.1 := by
  obtain ⟨t, alike, ht⟩ := agreed.alike
  refine ⟨t.calls, ?_⟩
  rcases ht with ht | ⟨-, ht⟩
  · rw [ht]
    exact alike
  · rw [ht]
    exact alike

end Agreed

theorem State.Alike.breakerSnapshot {Room Room' : Type} {s : State Room} {s' : State Room'}
    (h : s.Alike true s') : s'.breakerSnapshot = s.breakerSnapshot := by
  simp only [State.breakerSnapshot, h.breaker, h.clock, ↓reduceIte]

/-- Without jitter a call comes to the same whether its scheduler runs every retry at once or holds
it in a queue that is emptied afterwards: it has the same outcome and as many invocations, the same
attempts were requested after the same waits at the same times, and the counters, the breaker and
the clock are the same, and so is all that belongs to other calls. A fault comes out of the start of
the call, or of the loop if a retry that was held throws it; only the handle can tell the
difference. -/
theorem inline_eq_queued (hj : p.jitterFactor.le 0 = true) (chance chance' : Nat → Nat → Draw)
    (s : State (List Duration)) (log : List Duration) (name : String) (operation : Operation)
    (options : Options) :
    let id := s.calls.length
    let nested := (inlined p chance).execute name operation options s
    let started := (queued p chance').execute name operation options (s.rehoused (idleQueue log))
    let drained := Queued.runAll (queued p chance') started.1
    (drained.1.call id).delivered = (nested.1.call id).delivered ∧
    (drained.1.call id).invocations = (nested.1.call id).invocations ∧
    (drained.1.call id).waiting = (nested.1.call id).waiting ∧
    (∀ j, j ≠ id → drained.1.call j = nested.1.call j) ∧
    drained.1.requests = nested.1.requests ∧ drained.1.story = nested.1.story ∧
    drained.1.metrics = nested.1.metrics ∧ drained.1.breaker = nested.1.breaker ∧
    drained.1.breakerSnapshot = nested.1.breakerSnapshot ∧ drained.1.clock = nested.1.clock ∧
    drained.1.tokens = nested.1.tokens ∧
    (∃ delays, nested.1.room = s.room ++ delays ∧ drained.1.room = idleQueue (log ++ delays)) ∧
    nested.2 = started.2.or (stoppedBy drained.2) ∧
    (nested.2 = none → drained.1.calls = nested.1.calls) := by
  intro id nested started drained
  have agreed : Agreed id log s nested started.2 drained :=
    agreed_execute (concurs_queued hj chance chance') (alike_rehoused s (idleQueue log)) rfl name
      operation options
  obtain ⟨_, alike⟩ := agreed.apart
  exact ⟨agreed.part Call.delivered fun _ => rfl, agreed.part Call.invocations fun _ => rfl,
    agreed.part Call.waiting fun _ => rfl, fun j hj => agreed.call_ne hj, alike.requests,
    alike.story, alike.metrics, alike.breaker, alike.breakerSnapshot, alike.clock, alike.tokens,
    agreed.rooms, agreed.fault, agreed.calls⟩

/-- The operation fails once and then gives up by itself. -/
def explosive : Operation :=
  .ofScript ⟨none, none, .failure (.plain .connection "refused")⟩ [⟨none, none, .panic "boom"⟩]

/-- A policy without jitter. -/
def steady : Policy := { Policy.guarded with jitterFactor := 0 }

/-- The fault comes out of the start of the one call and out of the loop for the other, and both
calls are told of it. -/
theorem inline_eq_queued_panicked :
    steady.jitterFactor.le 0 = true ∧
    let nested := inlined steady fun _ _ => .middle
    let held := queued steady fun _ _ => .middle
    let s := initial nested []
    let started := held.execute "svc" explosive ⟨none, none⟩ (s.rehoused (idleQueue []))
    let drained := Queued.runAll held started.1
    (nested.execute "svc" explosive ⟨none, none⟩ s).2 = some (.raised "boom") ∧
    started.2 = none ∧ stoppedBy drained.2 = some (.raised "boom") ∧
    (drained.1.call 0).delivered = [.error (.operationPanicked 2)] ∧
    (drained.1.call 0).invocations = 2 := by
  have hj : steady.jitterFactor.le 0 = true := by decide +kernel
  refine ⟨hj, ?_⟩
  intro nested held s started drained
  obtain ⟨hdelivered, hinvocations, -, -, -, -, -, -, -, -, -, -, hfault, -⟩ :=
    inline_eq_queued hj (fun _ _ => .middle) (fun _ _ => .middle) s [] "svc" explosive ⟨none, none⟩
  have hthrown : (nested.execute "svc" explosive ⟨none, none⟩ s).2 = some (.raised "boom") := by
    decide +kernel
  have hquiet : started.2 = none := by decide
  change (nested.execute "svc" explosive ⟨none, none⟩ s).2 =
    started.2.or (stoppedBy drained.2) at hfault
  rw [hthrown, hquiet] at hfault
  refine ⟨hthrown, hquiet, hfault.symm, ?_, ?_⟩
  · exact hdelivered.trans (by decide +kernel)
  · exact hinvocations.trans (by decide +kernel)

end Engine

end Reattempt
