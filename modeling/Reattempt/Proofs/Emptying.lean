import Mathlib.Algebra.GroupWithZero.Nat
import Reattempt.Proofs.Cancellation
import Reattempt.Proofs.QueuedAgreement
import Reattempt.Proofs.Queues
import Reattempt.Proofs.Requests

/-!
Emptying a queue, round by round. A round lets the oldest attempt go, which is an action like any
other. It may bring another attempt of the same call into the queue, but one that has fewer attempts
after it: every round takes at least one from the budget, so that the loop never stops for want of
rounds. Main statement: `Rounds.runAll_eq`.
-/
namespace Reattempt.Engine

/-- Rounds in a row, none of which meets a fault. -/
inductive Rounds (e : Engine (Queue Request)) :
    Nat → State (Queue Request) → State (Queue Request) → Prop
  | none {s} : Rounds e 0 s s
  | more {k s t u} (first : Queued.runNext e s = (t, .ok true)) (rest : Rounds e k t u) :
      Rounds e (k + 1) s u

variable {p : Policy} {chance : Nat → Nat → Draw} {e : Engine (Queue Request)}
  {s t u : State (Queue Request)} {id left k : Nat} {c : Continuation} {r : Request}
  {room : Queue Request}

/-! ### A round is an action -/

theorem runNext_of_pop (e : Engine (Queue Request)) (hpop : s.room.pop? = some (r, room)) :
    Queued.runNext e s = ((e.runWaiting r.call (s.withRoom room)).1,
      (e.runWaiting r.call (s.withRoom room)).2.elim (.ok true) .error) := by
  rcases hran : e.runWaiting r.call (s.withRoom room) with ⟨t, fault⟩
  have hran : e.runWaiting r.call { s with room } = (t, fault) := hran
  cases fault <;> simp only [Queued.runNext, hpop, hran, Option.elim]

theorem act_of_pop (e : Engine (Queue Request)) (hpop : s.room.pop? = some (r, room)) :
    (Queued.runNext e s).1 = e.act s (.run r room) := by
  rw [runNext_of_pop e hpop]
  rfl

theorem allowed_of_pop (hpop : s.room.pop? = some (r, room)) :
    Action.Allowed queueCustody s (.run r room) := List.Perm.of_eq (Queue.waiting_of_pop hpop).1

/-- A round either finds nothing or lets the oldest attempt go. -/
theorem runNext_cases (e : Engine (Queue Request)) (s : State (Queue Request)) :
    s.room.waiting = [] ∧ Queued.runNext e s = (s, .ok false) ∨
      ∃ r room, s.room.pop? = some (r, room) ∧
        (Queued.runNext e s).1 = e.act s (.run r room) := by
  cases hpop : s.room.pop? with
  | none =>
    refine .inl ⟨Queue.pop?_eq_none_iff.mp hpop, ?_⟩
    simp only [Queued.runNext, hpop]
  | some popped => exact .inr ⟨popped.1, popped.2, rfl, act_of_pop e hpop⟩

theorem pop_of_runNext (h : Queued.runNext e s = (t, .ok true)) :
    ∃ r room, s.room.pop? = some (r, room) ∧ t = e.act s (.run r room) := by
  rcases runNext_cases e s with ⟨-, hidle⟩ | ⟨r, room, hpop, hact⟩
  · rw [hidle] at h
    cases h
  · rw [h] at hact
    exact ⟨r, room, hpop, hact⟩

theorem Rounds.sole (rounds : Rounds (queued p chance) k s t)
    (h : Custody.Sole (e := queued p chance) queueCustody s) :
    Custody.Sole (e := queued p chance) queueCustody t := by
  induction rounds with
  | none => exact h
  | more first rest ih =>
    obtain ⟨r, room, hpop, rfl⟩ := pop_of_runNext first
    exact ih (h.acted (allowed_of_pop hpop) (act_acted (queued p chance) _ _))

/-! ### The budget -/

/-- The rounds that an attempt can come to: itself and the attempts that the policy allows after
it. -/
def roundsOf (p : Policy) (r : Request) : Nat := p.maxAttempts.toNat - r.attempt + 1

theorem budget_eq (e : Engine (Queue Request)) (s : State (Queue Request)) :
    Queued.budget e s = (s.room.waiting.map (roundsOf e.policy)).sum := by
  unfold Queued.budget
  induction s.room.waiting with
  | nil => rfl
  | cons r rest ih =>
    rw [List.foldr_cons, List.map_cons, List.sum_cons, ih]
    rfl

/-- An attempt asks for nothing and leaves the queue alone, or it asks for the next attempt, which
the queue refuses or puts behind the others. -/
theorem Course.asks_queued (course : Course (queued p chance) id left c s t) :
    (t.room = s.room ∧ t.requests = s.requests) ∨
      t.requests = s.requests ++ [(queued p chance).request id c s] ∧
        ((∃ cause, s.room.refusal? = some cause ∧ t.room = s.room) ∨
          left ≠ 0 ∧ s.room.push ((queued p chance).delay id c)
            ((queued p chance).request id c s) = .ok t.room) := by
  have answer := asked_queueing p chance id c s
  have requested := asked_requests (queued p chance) id c s
  cases course with
  | cancelled hc => exact .inl ⟨rfl, State.requests_of_other rfl rfl⟩
  | succeeded hc hi =>
    refine .inl ⟨State.invoked_room s id c.attempt, ?_⟩
    exact (State.requests_of_other rfl rfl).trans (State.invoked_requests s id c.attempt)
  | failed hc why =>
    rw [State.failed_room, State.invoked_room, State.failed_requests, State.invoked_requests]
    exact .inl ⟨rfl, rfl⟩
  | @unscheduled _ _ _ f handling refusal hc hr cause ha hh =>
    rw [State.failed_room, State.failed_requests]
    rcases answer with ⟨room, -, hanswer, -⟩ | ⟨cause', hrefusal, -, hroom⟩
    · rw [hanswer] at ha
      cases ha
      rcases hh with ⟨-, hh⟩ | ⟨hh, -⟩ <;> cases hh
    · exact .inr ⟨requested, .inl ⟨cause', hrefusal, hroom⟩⟩
  | held hc hr ha =>
    rcases answer with ⟨room, hpush, -, hroom⟩ | ⟨cause, -, hanswer, -⟩
    · exact .inr ⟨requested, .inr ⟨hr.allowed, hpush.trans (congrArg Except.ok hroom.symm)⟩⟩
    · rw [hanswer] at ha
      cases ha
  | stalled hc hr ha hp | again hc hr ha hp rest =>
    rcases answer with ⟨room, -, hanswer, -⟩ | ⟨cause, -, hanswer, -⟩ <;>
    · rw [hanswer] at ha
      cases ha

/-- An attempt leaves the queue as it was, or puts the next attempt into it. -/
theorem Course.room_queued (course : Course (queued p chance) id left c s t) :
    t.room = s.room ∨ left ≠ 0 ∧ s.room.push ((queued p chance).delay id c)
      ((queued p chance).request id c s) = .ok t.room := by
  rcases course.asks_queued with ⟨hroom, -⟩ | ⟨-, ⟨_, -, hroom⟩ | hpush⟩
  · exact .inl hroom
  · exact .inl hroom
  · exact .inr hpush

theorem Course.waiting_queued (course : Course (queued p chance) id left c s t) :
    t.room.waiting = s.room.waiting ∨
      left ≠ 0 ∧ t.room.waiting = s.room.waiting ++ [(queued p chance).request id c s] := by
  rcases course.room_queued with hroom | ⟨hleft, hpush⟩
  · exact .inl (congrArg Queue.waiting hroom)
  · exact .inr ⟨hleft, congrArg Queue.waiting (Queue.eq_of_push hpush).2⟩

/-- The attempt that a call waits for is the one that the queue holds for it. -/
theorem Custody.Sole.attempt_eq {Room : Type} {e : Engine Room} {custody : Custody e.scheduler}
    {s : State Room} (h : custody.Sole s) (hr : r ∈ custody.held s.room)
    (hw : (s.call r.call).waiting = some c) : r.attempt = c.attempt := by
  have hmem : r ∈ custody.tickets s r.call := List.mem_filter.mpr ⟨hr, decide_eq_true rfl⟩
  rcases h.standing r.call with ⟨-, hn⟩ | ⟨-, c', r', hw', htickets, hattempt⟩ | ⟨-, hn⟩
  · rw [hn] at hw
    cases hw
  · rw [hw] at hw'
    cases hw'
    rw [htickets] at hmem
    rw [List.mem_singleton.mp hmem, hattempt]
  · rw [hn] at hw
    cases hw

/-- A round takes at least one from the budget. -/
theorem budget_act (h : Custody.Sole (e := queued p chance) queueCustody s)
    (hpop : s.room.pop? = some (r, room)) :
    Queued.budget (queued p chance) ((queued p chance).act s (.run r room)) + 1 ≤
      Queued.budget (queued p chance) s := by
  obtain ⟨hwaiting, -⟩ := Queue.waiting_of_pop hpop
  have hheld : r ∈ s.room.waiting := hwaiting ▸ List.mem_cons_self
  have hbefore : Queued.budget (queued p chance) s =
      roundsOf p r + (room.waiting.map (roundsOf p)).sum := by
    rw [budget_eq, hwaiting, List.map_cons, List.sum_cons]
    rfl
  have hone : 1 ≤ roundsOf p r := Nat.le_add_left 1 _
  cases hw : (s.call r.call).waiting with
  | none =>
    have hact : (queued p chance).act s (.run r room) = s.withRoom room :=
      congrArg Prod.fst (runWaiting_of_taken (s := s.withRoom room) (queued p chance) hw)
    have hafter : Queued.budget (queued p chance) ((queued p chance).act s (.run r room)) =
        (room.waiting.map (roundsOf p)).sum := by
      rw [hact, budget_eq]
      rfl
    omega
  | some c =>
    have hattempt : r.attempt = c.attempt := h.attempt_eq hheld hw
    rw [act_run_of_waiting (queued p chance) hw]
    have course := run_course (queued p chance) r.call
      ((queued p chance).policy.maxAttempts.toNat - c.attempt) c ((s.withRoom room).release r.call)
    generalize ((queued p chance).run r.call _ c ((s.withRoom room).release r.call)).1 = u
      at course ⊢
    have hafter : Queued.budget (queued p chance) u = (u.room.waiting.map (roundsOf p)).sum :=
      budget_eq (queued p chance) u
    rcases course.waiting_queued with hkept | ⟨hleft, hkept⟩
    · change u.room.waiting = room.waiting at hkept
      rw [hkept] at hafter
      omega
    · -- The next attempt has one fewer after it than the one that was let go.
      have hnext : roundsOf p ((queued p chance).request r.call c
          ((s.withRoom room).release r.call)) + 1 ≤ roundsOf p r := by
        change p.maxAttempts.toNat - c.attempt ≠ 0 at hleft
        change p.maxAttempts.toNat - (c.attempt + 1) + 1 + 1 ≤ p.maxAttempts.toNat - r.attempt + 1
        omega
      change u.room.waiting = room.waiting ++ _ at hkept
      rw [hkept, List.map_append, List.sum_append, List.map_singleton, List.sum_singleton] at hafter
      omega

/-- Every round is paid for. -/
theorem Rounds.add_budget_le (rounds : Rounds (queued p chance) k s t)
    (h : Custody.Sole (e := queued p chance) queueCustody s) :
    k + Queued.budget (queued p chance) t ≤ Queued.budget (queued p chance) s := by
  induction rounds with
  | none => exact Nat.le_of_eq (Nat.zero_add _)
  | @more k s t u first rest ih =>
    obtain ⟨r, room, hpop, rfl⟩ := pop_of_runNext first
    have hrest := ih (h.acted (allowed_of_pop hpop) (act_acted (queued p chance) _ _))
    have hround := budget_act h hpop
    omega

/-! ### The loop -/

/-- The loop makes the same rounds, one after the other. -/
theorem Rounds.go_eq (rounds : Rounds e k s t) (n ran : Nat) :
    Queued.runAll.go e (k + n) ran s = Queued.runAll.go e n (ran + k) t := by
  induction rounds generalizing ran with
  | none => rw [Nat.zero_add, Nat.add_zero]
  | @more k s t u first rest ih =>
    rw [Nat.add_right_comm, Queued.runAll.go, first]
    exact (ih (ran + 1)).trans (by rw [Nat.add_assoc, Nat.add_comm 1 k])

/-- The loop has rounds enough for those that it finds to make, and one more. -/
theorem Rounds.exists_left (rounds : Rounds (queued p chance) k s t)
    (h : Custody.Sole (e := queued p chance) queueCustody s) :
    ∃ n, Queued.runAll (queued p chance) s = Queued.runAll.go (queued p chance) (n + 1) k t := by
  have hle := rounds.add_budget_le h
  obtain ⟨n, hn⟩ : ∃ n, Queued.budget (queued p chance) s + 1 = k + (n + 1) :=
    ⟨Queued.budget (queued p chance) s - k, by omega⟩
  refine ⟨n, ?_⟩
  unfold Queued.runAll
  rw [hn, rounds.go_eq, Nat.zero_add]

/-- The loop meets the fault that some number of rounds lead to, and leaves what that round
leaves. -/
theorem Rounds.runAll_eq (rounds : Rounds (queued p chance) k s t)
    (h : Custody.Sole (e := queued p chance) queueCustody s) {fault : Fault}
    (hfault : Queued.runNext (queued p chance) t = (u, .error fault)) :
    Queued.runAll (queued p chance) s = (u, .error fault) := by
  obtain ⟨n, hn⟩ := rounds.exists_left h
  rw [hn, Queued.runAll.go, hfault]

/-- The loop stops where nothing waits, and counts the rounds that lead there. -/
theorem Rounds.runAll_eq_of_idle (rounds : Rounds (queued p chance) k s t)
    (h : Custody.Sole (e := queued p chance) queueCustody s) (hidle : t.room.waiting = []) :
    Queued.runAll (queued p chance) s = (t, .ok k) := by
  obtain ⟨n, hn⟩ := rounds.exists_left h
  rw [hn]
  exact go_of_idle (n + 1) k hidle

/-- What holds between the states before and after a round, and is passed on from one round to the
next, holds between the states before and after the loop. -/
theorem go_related (e : Engine (Queue Request))
    {R : State (Queue Request) → State (Queue Request) → Prop} (refl : ∀ s, R s s)
    (trans : ∀ {s t u}, R s t → R t u → R s u)
    (round : ∀ s r room, R s (e.act s (.run r room))) (n ran : Nat) (s : State (Queue Request)) :
    R s (Queued.runAll.go e n ran s).1 := by
  induction n generalizing ran s with
  | zero => exact refl s
  | succ n ih =>
    have first : R s (Queued.runNext e s).1 := by
      rcases runNext_cases e s with ⟨-, hidle⟩ | ⟨r, room, -, hact⟩
      · rw [hidle]
        exact refl s
      · rw [hact]
        exact round s r room
    rw [Queued.runAll.go]
    rcases hnext : Queued.runNext e s with ⟨t, answer⟩
    rw [hnext] at first
    rcases answer with fault | ran'
    · exact first
    · cases ran' with
      | false => exact first
      | true => exact trans first (ih (ran + 1) t)

end Reattempt.Engine
