import Reattempt.Proofs.Chronicle
import Reattempt.Proofs.QueuedAgreement

/-!
The waits that calls ask for. After each failed attempt but the last a call asks for a wait that is
spread around its base by chance. The bases are those of the policy, one after the other: what
chance made of a wait is not in the base of the next. Main statement: `requests_follow_bases`.
-/
namespace Reattempt

namespace Policy

/-- Wherever chance moves a wait to, it is no longer than the longest. -/
theorem applyJitter_le_maxDelay (p : Policy) (draw : Draw) (base : Duration) :
    p.applyJitter draw base ≤ p.maxDelay := by
  unfold applyJitter
  dsimp only
  split
  · exact Duration.shorter_le_right base p.maxDelay
  · exact Duration.ofBinary64_le _ p.maxDelay

theorem calculateDelay_le_maxDelay (p : Policy) (draw : Draw) (n : Nat) :
    p.calculateDelay draw n ≤ p.maxDelay :=
  p.applyJitter_le_maxDelay draw _

end Policy

namespace Engine

variable {Room : Type} {e : Engine Room} {custody : Custody e.scheduler} {ok : State Room → Prop}
  {s : State Room} {id n : Nat} {as : List (Action Room)} {operation : Operation}
  {entries : List Entry} {dated : Prop} {outcomes : List Outcome}

/-- The attempt and the wait that a call asks for after `k` attempts and one more. -/
def asks (e : Engine Room) (id k : Nat) : Nat × Duration :=
  (k + 2, e.policy.applyJitter (e.chance id (k + 1)) (e.policy.base (k + 1)))

theorem Chronicle.asks (h : Chronicle e id operation n entries) :
    (entries.filterMap (·.event.request?)).map (fun r => (r.attempt, r.delay)) =
      ((List.range n).map (e.asks id)).reverse := by
  induction h with
  | fresh => rfl
  | @retried n entries time f r before allowed failed call attempt delay asked ih =>
    have hself : (Event.requested r).request? = some r := rfl
    have hother : (Event.invoked id (n + 1)).request? = none := rfl
    have hasks : (r.attempt, r.delay) = e.asks id n := Prod.ext attempt delay
    rw [List.range_succ, List.map_append, List.reverse_append]
    simp only [List.filterMap_cons, hself, hother, List.map_cons, ih, hasks]
    rfl

theorem Record.asks (h : Record e id operation dated n outcomes entries) :
    ∃ m, (entries.filterMap (·.event.request?)).map (fun r => (r.attempt, r.delay)) =
      ((List.range m).map (e.asks id)).reverse := by
  induction h with
  | @pending n entries h => exact ⟨n, h.asks⟩
  | @struck n entries time h allowed => exact ⟨n, h.asks⟩
  | settled h ho ih => exact ih

/-- What the requests of a call ask for depends on their place alone. -/
theorem Recorded.asks (h : Recorded e dated s id) {k : Nat} {r : Request}
    (hr : (s.requests.filter (·.call = id))[k]? = some r) : (r.attempt, r.delay) = e.asks id k := by
  obtain ⟨m, hm⟩ := h.record.asks
  have hall : (s.requests.filter (·.call = id)).map (fun r => (r.attempt, r.delay)) =
      (List.range m).map (e.asks id) := by
    rw [requests_eq, List.map_reverse, hm, List.reverse_reverse]
  have hk := congrArg (·[k]?) hall
  simp only [List.getElem?_map, hr, Option.map_some] at hk
  obtain ⟨i, hi, hasks⟩ := Option.map_eq_some_iff.mp hk.symm
  obtain ⟨hlt, rfl⟩ := List.getElem?_eq_some_iff.mp hi
  rw [List.getElem_range] at hasks
  exact hasks.symm

theorem Recorded.delay_le (h : Recorded e dated s id) {r : Request} (hr : r ∈ s.requests)
    (hid : r.call = id) : r.delay ≤ e.policy.maxDelay := by
  have hmem : r ∈ s.requests.filter (·.call = id) :=
    List.mem_filter.mpr ⟨hr, decide_eq_true hid⟩
  obtain ⟨k, hk⟩ := List.mem_iff_getElem?.mp hmem
  have hdelay : r.delay = (e.asks id k).2 := congrArg Prod.snd (h.asks hk)
  rw [hdelay]
  exact e.policy.applyJitter_le_maxDelay _ _

/-- Whatever the scheduler does, whatever happens to other calls and whatever is drawn, the requests
of a call are for its second attempt, its third and so on, and each asks for a base of the policy
spread by one draw: the first base is the initial delay and each other one follows from the base
before it. The base that an attempt has in hand is the one of its number, so that no draw is in it.
No wait is longer than the longest. -/
theorem requests_follow_bases {room : Room} (valid : e.policy.validate = .ok ())
    (run : Run e custody ok (initial e room) as s) :
    let p := e.policy
    (p.base 1 = p.initialDelay ∧ ∀ k, 1 ≤ k → p.base (k + 1) = p.nextBackoff (p.base k)) ∧
    (∀ id k r, (s.requests.filter (·.call = id))[k]? = some r →
      r.attempt = k + 2 ∧ r.delay = p.applyJitter (e.chance id (k + 1)) (p.base (k + 1))) ∧
    (∀ a id left c u, Makes e s a id left c u → c.backoff = p.base c.attempt) ∧
    (∀ id c, (s.call id).waiting = some c → c.backoff = p.base c.attempt) ∧
    (∀ r ∈ s.requests, r.delay ≤ p.maxDelay) ∧
    ∀ draw n, p.calculateDelay draw n ≤ p.maxDelay := by
  intro p
  have hpos : 0 < p.maxAttempts.toNat := Policy.maxAttempts_pos valid
  -- The clock may fail to show an instant, for no wait depends on what it shows.
  have recorded (id : Nat) : Recorded e False s id := run.recorded valid (fun h => h.elim) id
  refine ⟨⟨rfl, fun k hk => p.base_succ hk⟩, ?_, ?_, ?_, ?_, p.calculateDelay_le_maxDelay⟩
  · intro id k r hr
    exact Prod.ext_iff.mp ((recorded id).asks hr)
  · intro a id left c u made
    exact ((recorded id).makes hpos made).backoff
  · intro id c hw
    exact ((recorded id).waiting c hw).2.2.2.2
  · intro r hr
    exact (recorded r.call).delay_le hr rfl

/-- Every draw is the lowest one, which takes a tenth off each wait. -/
def eager : Engine (Queue Request) := queued .standard fun _ _ => 0

def eagerStarted : State (Queue Request) := eager.act (initial eager (.empty none)) startRefused

/-- The queue lets go of the only attempt that waits. -/
def eagerRun : Action (Queue Request) :=
  .run ⟨0, "svc", 2, .ofMillis 900, .zero, false⟩ ⟨none, [], [.ofMillis 900], false⟩

/-- A tenth is missing from the second wait, as it is from the first, and no more than that. -/
theorem requests_follow_bases_eager :
    eager.policy.validate = .ok () ∧
    Run eager queueCustody (fun _ => True) (initial eager (.empty none)) [startRefused, eagerRun]
      (eager.act eagerStarted eagerRun) ∧
    eager.policy.base 2 = .ofMillis 2000 ∧
    ∃ r, ((eager.act eagerStarted eagerRun).requests.filter (·.call = 0))[1]? = some r ∧
      r.attempt = 3 ∧ r.delay = .ofMillis 1800 := by
  have valid : eager.policy.validate = .ok () := ConfigError.firstOf_eq_ok.mpr (by decide +kernel)
  have h0 : Run eager queueCustody (fun _ => True) (initial eager (.empty none)) [] _ :=
    .nil trivial
  have h1 := h0.snoc (a := startRefused) trivial trivial
  have hheld : eagerStarted.room.waiting = [⟨0, "svc", 2, .ofMillis 900, .zero, false⟩] := by
    decide +kernel
  have run := h1.snoc (a := eagerRun) (List.Perm.of_eq hheld) trivial
  have hsecond : (((eager.act eagerStarted eagerRun).requests.filter (·.call = 0))[1]?).isSome =
      true := by decide
  obtain ⟨r, hr⟩ := Option.isSome_iff_exists.mp hsecond
  obtain ⟨-, asks, -⟩ := requests_follow_bases valid run
  obtain ⟨hattempt, hdelay⟩ := asks 0 1 r hr
  have hwait : eager.policy.applyJitter (eager.chance 0 2) (eager.policy.base 2) =
      .ofMillis 1800 := by decide +kernel
  exact ⟨valid, run, by decide +kernel, r, hr, hattempt, hdelay.trans hwait⟩

end Engine

end Reattempt
