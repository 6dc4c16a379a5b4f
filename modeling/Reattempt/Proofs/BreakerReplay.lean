import Reattempt.Proofs.Effects
import Reattempt.Proofs.Settlement

/-!
The breaker of an engine next to a breaker on its own. The latter is told what callers can see of a
run: that a call is started or the breaker is asked, that it is reset, and with which outcome a call
is settled, each at its time. Main statement: `breaker_replays`.
-/
namespace Reattempt

namespace Engine

variable {Room : Type} {e : Engine Room} {custody : Custody e.scheduler} {ok : State Room → Prop}
  {s t u : State Room} {id j left : Nat} {c : Continuation} {a : Action Room}
  {as : List (Action Room)}

/-! ### The history of a run -/

/-- What the breaker is told of an action as such. -/
def Action.commands (s : State Room) : Action Room → List (Clock × Command)
  | .start .. | .askOpen | .readMetrics => [(s.clock, .look)]
  | .resetBreaker => [(s.clock, .reset)]
  | _ => []

/-- The outcomes that calls were handed from one state to a later one. -/
def State.handed (s t : State Room) : List Outcome :=
  (List.range t.calls.length).flatMap fun id =>
    (t.call id).delivered.drop (s.call id).delivered.length

/-- What the breaker is told of a run. An action tells it at once, and outcomes are recorded at the
time at which the action ends. -/
def history (e : Engine Room) (s : State Room) : List (Action Room) → List (Clock × Command)
  | [] => []
  | a :: as =>
    a.commands s ++ recorded (e.act s a).clock (s.handed (e.act s a)) ++ e.history (e.act s a) as

theorem clock_of_commands {entry : Clock × Command} (h : entry ∈ a.commands s) :
    entry.1 = s.clock := by
  cases a <;> simp only [Action.commands, List.mem_singleton, List.not_mem_nil] at h <;> rw [h]

theorem clock_of_recorded {clock : Clock} {outcomes : List Outcome} {entry : Clock × Command}
    (h : entry ∈ recorded clock outcomes) : entry.1 = clock := by
  obtain ⟨o, _, ho⟩ := List.mem_filterMap.mp h
  obtain ⟨command, _, rfl⟩ := Option.map_eq_some_iff.mp ho
  rfl

theorem history_concat (e : Engine Room) (s : State Room) (as : List (Action Room))
    (a : Action Room) : e.history s (as ++ [a]) = e.history s as ++
      (a.commands (as.foldl e.act s) ++ recorded (e.act (as.foldl e.act s) a).clock
        ((as.foldl e.act s).handed (e.act (as.foldl e.act s) a))) := by
  induction as generalizing s with
  | nil => simp only [List.nil_append, history, List.append_nil, List.foldl_nil]
  | cons first as ih =>
    simp only [List.cons_append, history, List.foldl_cons, ih, List.append_assoc]

theorem Run.end_eq (run : Run e custody ok s as t) : t = as.foldl e.act s := by
  induction run with
  | nil => rfl
  | snoc run allowed ht ih => rw [List.foldl_append, ← ih, List.foldl_cons, List.foldl_nil]

/-! ### Outcomes of one call -/

theorem flatMap_range_eq {α : Type} {f : Nat → List α} {id n : Nat} (hid : id < n)
    (h : ∀ j, j ≠ id → f j = []) : (List.range n).flatMap f = f id := by
  induction n with
  | zero => cases hid
  | succ n ih =>
    rw [List.range_succ, List.flatMap_append, List.flatMap_singleton]
    by_cases hn : id = n
    · have hnil : (List.range n).flatMap f = [] := by
        apply List.flatMap_eq_nil_iff.mpr
        intro j hj
        have hlt := List.mem_range.mp hj
        exact h j (by omega)
      rw [hnil, ← hn, List.nil_append]
    · rw [ih (by omega), h n (Ne.symm hn), List.append_nil]

/-- Where one call was handed outcomes, these are all. -/
theorem handed_of_one {outcomes : List Outcome} (hid : id < t.calls.length)
    (hne : ∀ j, j ≠ id → (t.call j).delivered = (s.call j).delivered)
    (hd : (t.call id).delivered = (s.call id).delivered ++ outcomes) : s.handed t = outcomes := by
  have hrest (j : Nat) (hj : j ≠ id) :
      (t.call j).delivered.drop (s.call j).delivered.length = [] := by
    rw [hne j hj, List.drop_length]
  rw [State.handed, flatMap_range_eq hid hrest, hd, List.drop_left]

theorem handed_of_none (h : ∀ j, (t.call j).delivered = (s.call j).delivered) :
    s.handed t = [] := by
  apply List.flatMap_eq_nil_iff.mpr
  intro j _
  rw [h j, List.drop_length]

/-! ### What an action tells the breaker -/

theorem look_breaker (s : State Room) :
    s.look.1.breaker = s.breaker.map fun b => (b.isOpen s.clock.read).1 := by
  cases h : s.breaker with
  | none => simp only [State.look, h, Option.map_none]
  | some b =>
    simp only [State.look, h, Option.map_some]
    rfl

theorem gated_breaker (s : State Room) (name : String) (operation : Operation)
    (options : Options) : (s.gated name operation options).breaker =
      s.breaker.map fun b => (b.isOpen s.clock.read).1 := by
  obtain ⟨tokens, he⟩ := State.enroll_eq s name operation options.token
  rw [State.gated, look_breaker, he]

theorem Started.records {name : String} {operation : Operation} {options : Options}
    (custody : Custody e.scheduler) (started : Started e name operation options s t)
    (hr : t.clock.Readable) : t.breaker =
      s.breaker.map (·.replay ((s.clock, .look) :: recorded t.clock (s.handed t))) := by
  have hcalls := State.gated_calls s name operation options
  have hgate := gated_breaker s name operation options
  have hnew : (s.call s.calls.length).delivered = [] := by
    rw [State.call_of_length_le (Nat.le_refl _)]
    rfl
  have hpending : ((s.gated name operation options).call s.calls.length).delivered = [] := by
    rw [State.call_append_last hcalls]
  have hid := State.lt_length_gated s name operation options
  have hne (j : Nat) (hj : j ≠ s.calls.length) : (t.call j).delivered = (s.call j).delivered := by
    rw [started.call_ne custody hj]
  -- It is enough to know what became of the new call and of the breaker behind the gate.
  have of_gated (outcomes : List Outcome) (hlen : s.calls.length < t.calls.length)
      (hd : (t.call s.calls.length).delivered = outcomes)
      (hb : t.breaker = (s.gated name operation options).breaker.map
        (·.replay (recorded t.clock outcomes))) :
      t.breaker = s.breaker.map (·.replay ((s.clock, .look) :: recorded t.clock (s.handed t))) := by
    rw [handed_of_one hlen hne (hd.trans (by rw [hnew, List.nil_append])), hb, hgate,
      Option.map_map]
    rfl
  cases started with
  | barred hs =>
    have hm := State.unmoved_dropHandle (s.gated name operation options) s.calls.length
    exact of_gated [] (hm.length ▸ hid) ((hm.delivered _).trans hpending) (Breaker.replay_nil _)
  | @rejected remaining hl hr' =>
    have ht := State.call_of_modify (State.deliver_calls (s.gated name operation options)
      s.calls.length (.error (.circuitOpen remaining))) hid
    have hlen := State.length_of_modify (State.deliver_calls (s.gated name operation options)
      s.calls.length (.error (.circuitOpen remaining)))
    refine of_gated [.error (.circuitOpen remaining)] (hlen ▸ hid) ?_ (Breaker.replay_nil _)
    rw [ht, hpending]
    rfl
  | admitted hl hd course =>
    obtain ⟨n, r, outcomes, effect, -⟩ := course.effect hid hr
    have hdelivered := effect.delivered
    rw [hpending, List.nil_append] at hdelivered
    exact of_gated outcomes (effect.length ▸ hid) hdelivered effect.breaker
  | @thrown deadline t hl hd course =>
    have hm := State.unmoved_dropHandle t s.calls.length
    obtain ⟨n, r, outcomes, effect, -⟩ := course.effect hid hr
    have hdelivered := (hm.delivered s.calls.length).trans effect.delivered
    rw [hpending, List.nil_append] at hdelivered
    exact of_gated outcomes (hm.length ▸ effect.length ▸ hid) hdelivered effect.breaker

theorem take_breaker (s : State Room) (id : Nat) : (s.take id).1.breaker = s.breaker := by
  unfold State.take
  split <;> rfl

/-- An action that runs nothing tells the breaker what it is, and nothing else. -/
theorem still_breaker (e : Engine Room) (s : State Room) (ha : a.still = true) :
    (e.act s a).breaker = s.breaker.map (·.replay (a.commands s)) := by
  cases a with
  | start | run | drop | turn => cases ha
  | poll id =>
    refine Eq.trans ?_ (Breaker.replay_nil _)
    change (s.poll id).1.breaker = s.breaker
    unfold State.poll
    split
    · rfl
    · rfl
    · exact take_breaker s id
  | await id =>
    refine Eq.trans ?_ (Breaker.replay_nil _)
    change (s.await id).1.breaker = s.breaker
    unfold State.await
    split
    · rfl
    · rfl
    · exact take_breaker s id
  | collect id =>
    refine Eq.trans ?_ (Breaker.replay_nil _)
    change (s.wait (fun s => s) id).1.breaker = s.breaker
    unfold State.wait
    split
    · rfl
    · rfl
    · exact take_breaker s id
  | cancelToken token =>
    refine Eq.trans ?_ (Breaker.replay_nil _)
    change ((s.addToken token).cancelToken token).breaker = s.breaker
    unfold State.addToken
    split <;> rfl
  | advance d =>
    refine Eq.trans ?_ (Breaker.replay_nil _)
    change (s.advance d).1.breaker = s.breaker
    unfold State.advance
    split <;> rfl
  | askOpen => exact look_breaker s
  | readMetrics => exact look_breaker s
  | resetBreaker =>
    change s.resetBreaker.breaker = _
    cases h : s.breaker with
    | none => simp only [State.resetBreaker, h, Option.map_none]
    | some b =>
      simp only [State.resetBreaker, h, Option.map_some]
      rfl
  | _ => exact Breaker.replay_nil _

/-- Between two clocks that can be read an action tells the breaker what it is and which outcomes it
led to. -/
theorem Acted.records (custody : Custody e.scheduler) (acted : Acted e s a t)
    (hr : t.clock.Readable) : t.breaker =
      s.breaker.map (·.replay (a.commands s ++ recorded t.clock (s.handed t))) := by
  have hreleased (room : Room) (id j : Nat) :
      (((s.withRoom room).release id).call j).delivered = (s.call j).delivered :=
    State.part_of_modify Call.delivered (State.release_calls (s.withRoom room) id)
      (fun _ => rfl) j
  cases acted with
  | started started => exact started.records custody hr
  | @resumed r room c t hw course =>
    have hid := State.known_of_waiting hw
    have hlen := State.length_of_modify (State.release_calls (s.withRoom room) r.call)
    have frame : custody.Frame _ _ _ := course.frame
    obtain ⟨n, _, outcomes, effect, -⟩ := course.effect (hlen ▸ hid) hr
    have hd := effect.delivered
    rw [hreleased] at hd
    have hhanded : s.handed t = outcomes := by
      refine handed_of_one (effect.length ▸ hlen ▸ hid) (fun j hj => ?_) hd
      rw [frame.call_ne hj, hreleased]
    rw [hhanded]
    exact effect.breaker
  | @dropped r room c hw =>
    have hid := State.known_of_waiting hw
    have hlen := State.length_of_modify (State.release_calls (s.withRoom room) r.call)
    rw [State.failed_clock] at hr
    have effect := effect_failed (x := .scheduling (c.attempt - 1) .shutDown) (hlen ▸ hid) hr rfl
    have frame := frame_failed custody ((s.withRoom room).release r.call) r.call
      (.scheduling (c.attempt - 1) .shutDown)
    have hd := effect.delivered
    rw [hreleased] at hd
    have hhanded : s.handed (((s.withRoom room).release r.call).failed r.call
        (.scheduling (c.attempt - 1) .shutDown)) =
          [.error (.scheduling (c.attempt - 1) .shutDown)] := by
      refine handed_of_one (effect.length ▸ hlen ▸ hid) (fun j hj => ?_) hd
      rw [frame.call_ne hj, hreleased]
    rw [hhanded]
    exact effect.breaker
  | @spent a r room ha hw =>
    have hhanded : s.handed (s.withRoom room) = [] := handed_of_none fun _ => rfl
    rw [hhanded]
    rcases ha with rfl | rfl <;> exact Breaker.replay_nil _
  | @turned room =>
    have hhanded : s.handed (s.withRoom room) = [] := handed_of_none fun _ => rfl
    rw [hhanded]
    exact Breaker.replay_nil _
  | still ha =>
    have hm := act_still e s ha
    rw [handed_of_none hm.delivered, still_breaker e s ha]
    simp only [recorded, List.filterMap_nil, List.append_nil]

theorem Run.breaker (run : Run e custody (fun u => u.clock.Readable) s as t) :
    t.breaker = s.breaker.map (·.replay (e.history s as)) := by
  induction run with
  | nil => exact Breaker.replay_nil _
  | @snoc t as a run allowed ht ih =>
    -- `history` starts from the first state, so it is split off at the end of the run.
    have hend := run.end_eq
    rw [history_concat, ← hend, (act_acted e t a).records custody ht, ih, Option.map_map]
    congr 1
    funext b
    exact (Breaker.replay_append ..).symm

/-! ### Rejected calls -/

theorem Started.length {name : String} {operation : Operation} {options : Options}
    (custody : Custody e.scheduler) (started : Started e name operation options s t) :
    t.calls.length = s.calls.length + 1 := by
  have hg : (s.gated name operation options).calls.length = s.calls.length + 1 := by
    rw [State.gated_calls, List.length_append]
    rfl
  cases started with
  | barred hs => exact (State.unmoved_dropHandle _ _).length.trans hg
  | rejected hl hr => exact (State.length_of_modify (State.deliver_calls _ _ _)).trans hg
  | admitted hl hd course =>
    have frame : custody.Frame _ _ _ := course.frame
    exact frame.length.trans hg
  | thrown hl hd course =>
    have frame : custody.Frame _ _ _ := course.frame
    exact (State.unmoved_dropHandle _ _).length.trans (frame.length.trans hg)

/-- An action records nothing about calls that are not known after it. -/
theorem Acted.about_unknown (custody : Custody e.scheduler) (acted : Acted e s a t)
    (hj : t.calls.length ≤ j) : s.calls.length ≤ j ∧ t.about j = s.about j := by
  cases acted with
  | started started =>
    rw [started.length custody] at hj
    exact ⟨by omega, started.about (by omega)⟩
  | @resumed r room c t hw course =>
    have frame : custody.Frame _ _ _ := course.frame
    have hid := State.known_of_waiting hw
    rw [frame.length, State.length_of_modify (State.release_calls _ _)] at hj
    have hlen : s.calls.length ≤ j := hj
    exact ⟨hlen, course.about (by omega)⟩
  | @dropped r room c hw =>
    have frame := frame_failed custody ((s.withRoom room).release r.call) r.call
      (.scheduling (c.attempt - 1) .shutDown)
    have hid := State.known_of_waiting hw
    rw [frame.length, State.length_of_modify (State.release_calls _ _)] at hj
    have hlen : s.calls.length ≤ j := hj
    exact ⟨hlen, State.failed_about _ _ (by omega)⟩
  | spent ha hw => exact ⟨hj, rfl⟩
  | turned => exact ⟨hj, rfl⟩
  | still ha =>
    have hm := act_still e s ha
    rw [hm.length] at hj
    exact ⟨hj, hm.about j⟩

/-- Nothing is recorded about a call before it is started. -/
theorem Run.about_unknown {room : Room} (run : Run e custody ok (initial e room) as s) (j : Nat)
    (hj : s.calls.length ≤ j) : s.about j = [] := by
  refine run.invariant (fun u => ∀ j, u.calls.length ≤ j → u.about j = []) (fun _ _ => rfl) ?_ j hj
  intro u a hu _ _ _ j hj
  obtain ⟨hlen, habout⟩ := (act_acted e u a).about_unknown custody hj
  rw [habout]
  exact hu j hlen

/-- A call that an open breaker rejects is settled at once, and nothing else happens. -/
theorem act_start_of_open {b : Breaker} (hb : s.breaker = some b) (hr : s.clock.Readable)
    (ho : (b.isOpen s.clock.read).2 = .ok true) (e : Engine Room) (name : String)
    (operation : Operation) (options : Options) : ∃ remaining,
      e.act s (.start name operation options) = (s.gated name operation options).deliver
        s.calls.length (.error (.circuitOpen remaining)) := by
  have hl : (s.enroll name operation options.token).look.2 = .ok true := by
    obtain ⟨tokens, he⟩ := State.enroll_eq s name operation options.token
    simp only [he, State.look, hb]
    exact ho
  cases hremaining : (s.gated name operation options).remaining with
  | error fault =>
    have hn := State.not_readable_of_remaining hremaining
    rw [State.gated_clock] at hn
    exact absurd hr hn
  | ok remaining =>
    exact ⟨remaining, congrArg Prod.fst (execute_of_rejected hl hremaining)⟩

/-- A call that is settled right behind the gate. -/
theorem deliver_gated (s : State Room) (name : String) (operation : Operation) (options : Options)
    (o : Outcome) : ∃ call, ((s.gated name operation options).deliver s.calls.length o).call
      s.calls.length = call ∧
        call.delivered = [o] ∧ call.invocations = 0 ∧ call.waiting = none := by
  have hcalls := State.gated_calls s name operation options
  have hid := State.lt_length_gated s name operation options
  have ht := State.call_of_modify (State.deliver_calls (s.gated name operation options)
    s.calls.length o) hid
  rw [State.call_append_last hcalls] at ht
  exact ⟨_, ht, rfl, rfl, rfl⟩

/-- The breaker of an engine is at every point the breaker that was told the history of the run: a
look for each call started and each question, a reset for each reset, and a record for each call that
ended well or failed of itself. A call that finds it open is settled with that, and then nothing is
ever invoked, scheduled or counted for it. -/
theorem breaker_replays {room : Room} (henabled : e.policy.breakerEnabled = true)
    (run : Run e custody (fun u => u.clock.Readable) (initial e room) as s) :
    let b := (Breaker.fresh e.policy.breaker).replay (e.history (initial e room) as)
    s.breaker = some b ∧ s.breakerSnapshot = (b.snapshot s.clock.read).map some ∧
    ∀ name operation options, (b.isOpen s.clock.read).2 = .ok true →
      let id := s.calls.length
      let t := e.act s (.start name operation options)
      t.metrics = s.metrics ∧ t.room = s.room ∧ ∃ remaining, ∀ bs u,
        Run e custody (fun _ => True) t bs u →
          (u.call id).delivered = [.error (.circuitOpen remaining)] ∧
          (u.call id).invocations = 0 ∧
          u.about id = [⟨s.clock.elapsed, .settled id (.error (.circuitOpen remaining))⟩] := by
  intro b
  have hb : s.breaker = some b := by
    have h := run.breaker
    rwa [show (initial e room).breaker = some (.fresh e.policy.breaker) from if_pos henabled] at h
  refine ⟨hb, by simp only [State.breakerSnapshot, hb], fun name operation options ho => ?_⟩
  intro id t
  obtain ⟨remaining, ht⟩ := act_start_of_open hb run.ok_end ho e name operation options
  obtain ⟨call, hcall, hd, hi, hw⟩ := deliver_gated s name operation options
    (.error (.circuitOpen remaining))
  rw [← ht] at hcall
  -- The call is settled as soon as it is started, so no later action touches it.
  have hsettled : t.Settled id := ⟨⟨_, hcall ▸ hd⟩, hcall ▸ hw⟩
  have habout : t.about id =
      [⟨s.clock.elapsed, .settled id (.error (.circuitOpen remaining))⟩] := by
    -- Nothing was recorded about its number before, and the gate records nothing about it.
    have hgated := State.gated_about s name operation options id
    rw [run.about_unknown id (Nat.le_refl _)] at hgated
    have hclock := State.gated_clock s name operation options
    change State.about (e.act s _) id = _
    rw [ht]
    change List.filter _ (⟨(s.gated name operation options).clock.elapsed, _⟩ ::
      (s.gated name operation options).journal) = _
    rw [List.filter_cons_of_pos (by simp [Event.call?, id]), hclock]
    exact congrArg _ hgated
  refine ⟨?_, ?_, remaining, fun bs u later => ?_⟩
  · exact (congrArg State.metrics ht).trans (State.gated_metrics s name operation options)
  · exact (congrArg State.room ht).trans (State.gated_room s name operation options)
  · obtain ⟨_, hdelivered, hinvocations, hrecorded⟩ := later.of_settled hsettled
    refine ⟨hdelivered.trans (hcall ▸ hd), hinvocations.trans (hcall ▸ hi), ?_⟩
    exact hrecorded.trans habout

/-- An engine that makes one attempt of a call and whose breaker opens on the first failure. -/
def brittle : Engine (Queue Request) where
  policy := { Policy.guarded with maxAttempts := 1, breaker := ⟨1, .ofSeconds 30, 1⟩ }
  scheduler := .queueing
  chance := fun _ _ => .middle

/-- The attempts that wait in the engine's queue. -/
def brittleCustody : Custody brittle.scheduler := queueCustody

/-- The state after its first call. -/
def brittleTripped : State (Queue Request) :=
  brittle.act (initial brittle (.empty none)) startRefused

theorem run_brittleTripped : Run brittle brittleCustody (fun u => u.clock.Readable)
    (initial brittle (.empty none)) [startRefused] brittleTripped := by
  have h0 : Run brittle brittleCustody (fun u => u.clock.Readable)
      (initial brittle (.empty none)) [] (initial brittle (.empty none)) :=
    .nil Clock.start_readable
  exact h0.snoc trivial (by decide)

/-- The first failure opens the breaker, and the next call is rejected. -/
theorem breaker_replays_rejected :
    brittle.policy.breakerEnabled = true ∧
    Run brittle brittleCustody (fun u => u.clock.Readable) (initial brittle (.empty none))
      [startRefused] brittleTripped ∧
    ∃ remaining, ((brittle.act brittleTripped startRefused).call 1).delivered =
      [.error (.circuitOpen remaining)] := by
  obtain ⟨_, _, rejects⟩ := breaker_replays rfl run_brittleTripped
  obtain ⟨_, _, remaining, later⟩ := rejects "svc"
    (fun _ => ⟨none, none, .failure (.plain .connection "refused")⟩) ⟨none, none⟩
    (by decide)
  have hlength : brittleTripped.calls.length = 1 := by decide
  obtain ⟨hd, _⟩ := later [] _ (.nil trivial)
  refine ⟨rfl, run_brittleTripped, remaining, ?_⟩
  rw [← hlength]
  exact hd

end Engine

end Reattempt
