import Reattempt.Proofs.Custody

/-!
What a course writes besides the record of its call: the counters, and the breaker as far as it is
told of outcomes. Every writer has one effect, effects follow each other, and `Course.effect` puts
them together.
-/
namespace Reattempt

/-- The call failed of itself. -/
def Outcome.isFailure : Outcome → Bool
  | .ok _ => false
  | .error x => x.countsAsFailure

/-- The last invocation decided the call. -/
def Outcome.isDecided : Outcome → Bool
  | .ok _ | .error (.operation ..) | .error (.operationPanicked _)
  | .error (.deadlineExceeded ..) => true
  | _ => false

/-- What a breaker can be told. -/
inductive Command where
  | look
  | success
  | failure
  | reset
  deriving DecidableEq

/-- What a breaker is told of an outcome: a call that was rejected or cancelled is not recorded. -/
def Outcome.command : Outcome → Option Command
  | .ok _ => some .success
  | .error x => if x.countsAsFailure then some .failure else none

namespace Breaker

/-- The breaker after a command, given a reading of the clock. -/
def told (b : Breaker) (reading : Except Fault Instant) : Command → Breaker
  | .look => (b.isOpen reading).1
  | .success => b.recordSuccess
  | .failure => (b.recordFailure reading).1
  | .reset => b.reset

/-- The breaker after commands, each at its own time. -/
def replay (b : Breaker) (history : List (Clock × Command)) : Breaker :=
  history.foldl (fun b entry => b.told entry.1.read entry.2) b

theorem replay_append (b : Breaker) (xs ys : List (Clock × Command)) :
    b.replay (xs ++ ys) = (b.replay xs).replay ys := by
  simp only [replay, List.foldl_append]

theorem replay_nil (o : Option Breaker) : o = o.map (·.replay []) :=
  (Option.map_id_apply ..).symm

end Breaker

namespace Engine

variable {Room : Type} {e : Engine Room} {s t u : State Room} {id left n r n' r' : Nat}
  {c : Continuation} {outcomes : List Outcome}

/-- What the breaker is told of outcomes at a time. -/
def recorded (clock : Clock) (outcomes : List Outcome) : List (Clock × Command) :=
  outcomes.filterMap fun o => o.command.map (clock, ·)

/-- What happened to one call from a state to a later one: `n` invocations, `r` retries asked for,
and the outcomes it was handed, recorded at the later time. -/
structure Effect (id : Nat) (s t : State Room) (n r : Nat) (outcomes : List Outcome) : Prop where
  length : t.calls.length = s.calls.length
  invocations : (t.call id).invocations = (s.call id).invocations + n
  delivered : (t.call id).delivered = (s.call id).delivered ++ outcomes
  metrics : t.metrics = ⟨s.metrics.attempts + n,
    s.metrics.successes + outcomes.countP Except.isOk,
    s.metrics.failures + outcomes.countP Outcome.isFailure, s.metrics.retries + r⟩
  breaker : t.breaker = s.breaker.map (·.replay (recorded t.clock outcomes))

/-- Only the later effect hands over outcomes, so that they are recorded at its end. -/
theorem Effect.followed (first : Effect id s u n r []) (second : Effect id u t n' r' outcomes) :
    Effect id s t (n + n') (r + r') outcomes where
  length := second.length.trans first.length
  invocations := by rw [second.invocations, first.invocations, Nat.add_assoc]
  delivered := by rw [second.delivered, first.delivered, List.append_nil]
  metrics := by
    rw [second.metrics, first.metrics]
    simp only [List.countP_nil, Nat.add_zero, Nat.add_assoc]
  breaker := by
    have hfirst : u.breaker = s.breaker := first.breaker.trans (Breaker.replay_nil _).symm
    rw [second.breaker, hfirst]

theorem effect_of_calls (hcalls : t.calls = s.calls) (hm : t.metrics = s.metrics)
    (hb : t.breaker = s.breaker) : Effect id s t 0 0 [] where
  length := by rw [hcalls]
  invocations := by rw [State.call_congr hcalls, Nat.add_zero]
  delivered := by rw [State.call_congr hcalls, List.append_nil]
  metrics := hm
  breaker := hb.trans (Breaker.replay_nil _)

/-! ### The effects of the writers -/

theorem effect_invoked (hid : id < s.calls.length) (n : Nat) :
    Effect id s (s.invoked id n) 1 0 [] := by
  have hcalls := State.invoked_calls s id n
  have hcall := State.call_of_modify hcalls hid
  refine ⟨State.length_of_modify hcalls, by rw [hcall], by rw [hcall, List.append_nil],
    State.invoked_metrics s id n, ?_⟩
  exact (State.invoked_breaker s id n).trans (Breaker.replay_nil _)

theorem effect_asked (e : Engine Room) (hid : id < s.calls.length) (c : Continuation) :
    Effect id s (e.asked id c s).1 1 1 [] := by
  have hcalls := asked_calls e id c s
  have hcall := State.call_of_modify hcalls hid
  refine ⟨State.length_of_modify hcalls, by rw [hcall], by rw [hcall, List.append_nil], ?_, ?_⟩
  · exact congrArg Metrics.recordRetry (State.invoked_metrics s id c.attempt)
  · exact (State.invoked_breaker s id c.attempt).trans (Breaker.replay_nil _)

theorem effect_hold (hid : id < s.calls.length) (c : Continuation) :
    Effect id s (s.hold id c) 0 0 [] := by
  have hcalls := State.hold_calls s id c
  have hcall := State.call_of_modify hcalls hid
  refine ⟨State.length_of_modify hcalls, by rw [hcall, Nat.add_zero],
    by rw [hcall, List.append_nil], rfl, ?_⟩
  exact Breaker.replay_nil _

theorem effect_release (hid : id < s.calls.length) : Effect id s (s.release id) 0 0 [] := by
  have hcalls := State.release_calls s id
  have hcall := State.call_of_modify hcalls hid
  refine ⟨State.length_of_modify hcalls, by rw [hcall, Nat.add_zero],
    by rw [hcall, List.append_nil], rfl, ?_⟩
  exact Breaker.replay_nil _

theorem effect_succeed (hid : id < s.calls.length) (v : Int) :
    Effect id s (s.succeed id v) 0 0 [.ok v] := by
  have hcalls := State.succeed_calls s id v
  have hcall := State.call_of_modify hcalls hid
  exact ⟨State.length_of_modify hcalls, by rw [hcall, Nat.add_zero], by rw [hcall], rfl, rfl⟩

/-- An outcome that is not recorded. -/
theorem effect_deliver (hid : id < s.calls.length) {x : Ending} (hx : x.countsAsFailure = false) :
    Effect id s (s.deliver id (.error x)) 0 0 [.error x] := by
  have hcalls := State.deliver_calls s id (.error x)
  have hcall := State.call_of_modify hcalls hid
  have hfailure : Outcome.isFailure (.error x) = false := hx
  have hcommand : Outcome.command (.error x) = none := if_neg (by simp [hx])
  refine ⟨State.length_of_modify hcalls, by rw [hcall, Nat.add_zero], by rw [hcall], ?_, ?_⟩
  · rw [List.countP_singleton, List.countP_singleton, hfailure]
    rfl
  · simp only [recorded, List.filterMap_cons, hcommand, List.filterMap_nil, Option.map_none]
    exact Breaker.replay_nil _

theorem failed_metrics (s : State Room) (id : Nat) (x : Ending) :
    (s.failed id x).metrics = s.metrics.recordFailure := by
  by_cases h : s.Dated
  · rw [State.failed_of_dated h, State.countFailure_fst]
    rfl
  · rw [State.failed_of_not_dated h, State.countFailure_fst]

/-- A failure on a clock that can be read. -/
theorem effect_failed (hid : id < s.calls.length) (hr : s.clock.Readable) {x : Ending}
    (hx : x.countsAsFailure = true) : Effect id s (s.failed id x) 0 0 [.error x] := by
  have hcalls := State.failed_calls_of_dated (.inr hr) id x
  have hcall := State.call_of_modify hcalls hid
  have hfailure : Outcome.isFailure (.error x) = true := hx
  have hcommand : Outcome.command (.error x) = some .failure := if_pos hx
  refine ⟨State.length_of_modify hcalls, by rw [hcall, Nat.add_zero], by rw [hcall], ?_, ?_⟩
  · rw [failed_metrics, List.countP_singleton, List.countP_singleton, hfailure]
    rfl
  · rw [State.failed_breaker, State.failed_clock]
    simp only [recorded, List.filterMap_cons, hcommand, List.filterMap_nil, Option.map_some]
    rfl

/-! ### The effect of a course -/

/-- On a clock that can be read the ending of a call is decided by its last invocation. -/
theorem Fatal.decided {x : Ending} (why : Fatal e id left c s x)
    (hr : (s.invoked id c.attempt).clock.Readable) :
    Outcome.isDecided (.error x) = true ∧ x.countsAsFailure = true := by
  cases why with
  | untimed hi hm =>
    -- The comparison with a deadline fails only if the clock does.
    cases hd : c.deadline with
    | none =>
      rw [hd] at hm
      cases hm
    | some d =>
      rw [hd] at hm
      simp only [State.misses, Clock.read_of_readable hr, Except.map] at hm
      cases hm
  | _ => exact ⟨rfl, rfl⟩

/-- Every invocation of a course is made up for by a retry, but for the one that decides the call. -/
theorem Course.effect (course : Course e id left c s t) (hid : id < s.calls.length)
    (hr : t.clock.Readable) : ∃ n r outcomes, Effect id s t n r outcomes ∧
      n = r + outcomes.countP Outcome.isDecided := by
  induction course with
  | cancelled hc => exact ⟨_, _, _, effect_deliver hid rfl, rfl⟩
  | @succeeded left c s v hc hi =>
    have first := effect_invoked hid c.attempt
    exact ⟨_, _, _, first.followed (effect_succeed (first.length ▸ hid) v), rfl⟩
  | @failed left c s x hc why =>
    rw [State.failed_clock] at hr
    obtain ⟨hdecided, hfailure⟩ := why.decided hr
    have first := effect_invoked hid c.attempt
    refine ⟨_, _, _, first.followed (effect_failed (first.length ▸ hid) hr hfailure), ?_⟩
    rw [List.countP_singleton, hdecided]
    rfl
  | @unscheduled left c s f handling refusal hc hr' cause ha hh =>
    rw [State.failed_clock] at hr
    have first := effect_asked e hid c
    exact ⟨_, _, _, first.followed (effect_failed (first.length ▸ hid) hr rfl), rfl⟩
  | @stalled left c s f pause contained refusal fault hc hr' ha hp =>
    rw [State.failed_clock] at hr
    have first := (effect_asked e hid c).followed
      (effect_of_calls (t := (e.asked id c s).1.withRoom (counted id c s).room) rfl rfl rfl)
    exact ⟨_, _, _, first.followed (effect_failed (first.length ▸ hid) hr rfl), rfl⟩
  | @held left c s f hc hr' ha =>
    have first := effect_asked e hid c
    exact ⟨_, _, _, first.followed (effect_hold (first.length ▸ hid) _), rfl⟩
  | @again left c s t f pause contained refusal clock hc hr' ha hp rest ih =>
    -- One more invocation and one more retry: what the rest of the course has is kept.
    have first := (effect_asked e hid c).followed
      (effect_of_calls (t := (e.asked id c s).1.withClock clock) rfl rfl rfl)
    obtain ⟨n, r, outcomes, later, hbalance⟩ := ih (first.length ▸ hid) hr
    exact ⟨_, _, _, first.followed later, by omega⟩

end Engine

end Reattempt
