import Reattempt.Proofs.Chronicle

/-!
What an engine has asked its scheduler for. A failed attempt asks once, and nothing else does.
-/
namespace Reattempt.Engine

variable {Room : Type} {s t : State Room} {entry : Entry}

theorem State.requests_eq_filterMap (s : State Room) :
    s.requests = (s.journal.filterMap (·.event.request?)).reverse := rfl

theorem State.requests_congr (h : t.journal = s.journal) : t.requests = s.requests := by
  rw [State.requests, h, State.requests]

theorem State.requests_of_other (h : t.journal = entry :: s.journal)
    (hr : entry.event.request? = none) : t.requests = s.requests := by
  simp only [State.requests_eq_filterMap, h, List.filterMap_cons, hr]

theorem State.requests_of_request {r : Request} (h : t.journal = entry :: s.journal)
    (hr : entry.event.request? = some r) : t.requests = s.requests ++ [r] := by
  simp only [State.requests_eq_filterMap, h, List.filterMap_cons, hr, List.reverse_cons]

theorem State.invoked_requests (s : State Room) (id n : Nat) :
    (s.invoked id n).requests = s.requests :=
  State.requests_of_other (State.invoked_journal s id n) rfl

theorem State.failed_requests (s : State Room) (id : Nat) (x : Ending) :
    (s.failed id x).requests = s.requests := by
  by_cases h : s.Dated
  · exact State.requests_of_other (State.failed_journal_of_dated h id x) rfl
  · apply State.requests_congr
    rw [State.failed_of_not_dated h, State.countFailure_fst]

theorem asked_requests (e : Engine Room) (id : Nat) (c : Continuation) (s : State Room) :
    (e.asked id c s).1.requests = s.requests ++ [e.request id c s] := by
  have hjournal : (e.asked id c s).1.journal =
      ⟨(counted id c s).clock.elapsed, .requested (e.request id c s)⟩ ::
        (s.invoked id c.attempt).journal := by
    rw [asked_eq]
    rfl
  rw [State.requests_of_request hjournal rfl, State.invoked_requests]

theorem State.look_requests (s : State Room) : s.look.1.requests = s.requests := by
  cases h : s.breaker with
  | none => simp only [State.look, h]
  | some b =>
    have hjournal : s.look.1.journal = ⟨s.clock.elapsed, .looked⟩ :: s.journal := by
      simp only [State.look, h, State.log]
    exact State.requests_of_other hjournal rfl

theorem State.take_requests (s : State Room) (id : Nat) :
    (s.take id).1.requests = s.requests := by
  unfold State.take
  split <;> rfl

theorem State.gated_requests (s : State Room) (name : String) (operation : Operation)
    (options : Options) : (s.gated name operation options).requests = s.requests := by
  obtain ⟨tokens, henroll⟩ := State.enroll_eq s name operation options.token
  rw [State.gated, State.look_requests, henroll]
  rfl

theorem requests_still (e : Engine Room) (s : State Room) {a : Action Room}
    (ha : a.still = true) : (e.act s a).requests = s.requests := by
  cases a with
  | start | run | drop | turn => cases ha
  | poll id | await id | collect id =>
    simp only [act, State.poll, State.await, State.wait]
    split
    · rfl
    · rfl
    · exact s.take_requests id
  | cancelToken token =>
    simp only [act, State.addToken]
    split <;> rfl
  | advance d =>
    simp only [act, State.advance]
    split <;> rfl
  | askOpen => exact s.look_requests
  | readMetrics => exact s.look_requests
  | resetBreaker =>
    simp only [act, State.resetBreaker]
    split
    · rfl
    · exact State.requests_of_other rfl rfl
  | cancel | giveUp | setElapsed => rfl

end Reattempt.Engine
