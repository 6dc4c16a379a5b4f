import Reattempt.Proofs.Likeness

/-!
A settled call behind a veil. What its operation would do and what it was handed are out of sight, and
so are its entries in the journal; all else shows. An action does the same behind the veil as before
it, as long as the call is settled (`act_veil`), so that two states that look alike stay alike,
whatever happens (`sameLater_of_veil`). In which way the call failed does not show
(`veil_failed_self`).
-/
namespace Reattempt.Engine

variable {Room : Type} {e : Engine Room} {custody : Custody e.scheduler} {ok : State Room → Prop}
  {s t u : State Room} {id j left n : Nat} {c : Continuation}

/-- The call as the others see it: without its operation, and without what it was handed. -/
def Call.veiled (c : Call) : Call :=
  { c with operation := Call.blank.operation, delivered := c.delivered.map fun _ => .ok 0 }

def State.veil (id : Nat) (s : State Room) : State Room :=
  { s with
    calls := s.calls.modify id Call.veiled
    journal := s.journal.filter (·.event.call? ≠ some id) }

/-- The veil over the state that comes with an answer. -/
def veilFst {α : Type} (id : Nat) (r : State Room × α) : State Room × α := (r.1.veil id, r.2)

/-! ### What shows -/

theorem veil_calls (s : State Room) (id : Nat) :
    (s.veil id).calls = s.calls.modify id Call.veiled := rfl

theorem veil_call_ne (s : State Room) (hj : j ≠ id) : (s.veil id).call j = s.call j :=
  State.call_of_modify_ne (veil_calls s id) hj

theorem veil_length (s : State Room) (id : Nat) : (s.veil id).calls.length = s.calls.length :=
  State.length_of_modify (veil_calls s id)

/-- A part of a call that is neither its operation nor what it was handed shows. -/
theorem veil_part {α : Type} (part : Call → α) (hpart : ∀ c : Call, part c.veiled = part c)
    (s : State Room) (id j : Nat) : part ((s.veil id).call j) = part (s.call j) :=
  State.part_of_modify part (veil_calls s id) hpart j

theorem veil_isCancelled (s : State Room) (id j : Nat) :
    (s.veil id).isCancelled j = s.isCancelled j :=
  State.isCancelled_of_modify (veil_calls s id) rfl (fun _ => rfl) (fun _ => rfl) j

/-! ### Writers -/

theorem veil_modifyCall (s : State Room) {f : Call → Call}
    (hf : j ≠ id ∨ ∀ c : Call, (f c).veiled = f c.veiled) :
    (s.modifyCall j f).veil id = (s.veil id).modifyCall j f := by
  have hcalls : (s.calls.modify j f).modify id Call.veiled =
      (s.calls.modify id Call.veiled).modify j f := by
    rcases hf with hj | hf
    · exact List.modify_modify_ne f Call.veiled s.calls hj
    · by_cases hj : j = id
      · subst hj
        rw [List.modify_modify_eq, List.modify_modify_eq]
        congr 1
        funext c
        exact hf c
      · exact List.modify_modify_ne f Call.veiled s.calls hj
  simp only [State.veil, State.modifyCall, hcalls]

theorem veil_log (s : State Room) {event : Event} (h : event.call? ≠ some id) :
    (s.log event).veil id = (s.veil id).log event := by
  have hkept : (s.log event).journal.filter (·.event.call? ≠ some id) =
      ⟨s.clock.elapsed, event⟩ :: s.journal.filter (·.event.call? ≠ some id) :=
    List.filter_cons_of_pos (by simpa using h)
  simp only [State.veil, hkept]
  rfl

theorem veil_deliver (s : State Room) (hj : j ≠ id) (o : Outcome) :
    (s.deliver j o).veil id = (s.veil id).deliver j o := by
  have hevent : (Event.settled j o).call? ≠ some id := by
    intro h
    exact hj (Option.some.inj h)
  rw [State.deliver, veil_log _ hevent, veil_modifyCall _ (.inl hj)]
  rfl

theorem veil_addToken (s : State Room) (token : String) :
    (s.addToken token).veil id = (s.veil id).addToken token := by
  unfold State.addToken
  change _ = if (s.tokens.lookup token).isSome then _ else _
  split <;> rfl

theorem veil_countFailure (s : State Room) (id : Nat) :
    (s.veil id).countFailure = veilFst id s.countFailure := by
  cases hb : s.breaker with
  | none =>
    have hb' : (s.veil id).breaker = none := hb
    simp only [State.countFailure, veilFst, hb, hb']
    rfl
  | some b =>
    have hb' : (s.veil id).breaker = some b := hb
    simp only [State.countFailure, veilFst, hb, hb']
    rfl

theorem veil_succeed (s : State Room) (hj : j ≠ id) (v : Int) :
    (s.succeed j v).veil id = (s.veil id).succeed j v := veil_deliver s.countSuccess hj (.ok v)

theorem veil_fail (s : State Room) (hj : j ≠ id) (x : Ending) :
    (s.veil id).fail j x = veilFst id (s.fail j x) := by
  unfold State.fail
  rw [veil_countFailure]
  rcases s.countFailure with ⟨t, fault⟩
  cases fault with
  | none => exact congrArg (·, none) (veil_deliver t hj (.error x)).symm
  | some fault => rfl

theorem veil_unwind (s : State Room) (hj : j ≠ id) (x : Ending) (fault : Fault) :
    (s.veil id).unwind j x fault = veilFst id (s.unwind j x fault) := by
  unfold State.unwind
  rw [veil_countFailure]
  rcases s.countFailure with ⟨t, second⟩
  cases second with
  | none => exact congrArg (·, some fault) (veil_deliver t hj (.error x)).symm
  | some second => rfl

theorem veil_abandon (s : State Room) (hj : j ≠ id) (c : Continuation) :
    (s.veil id).abandon j c = veilFst id (s.abandon j c) := by
  unfold State.abandon
  rw [veil_countFailure]
  rcases s.countFailure with ⟨t, fault⟩
  cases fault with
  | none =>
    exact congrArg (·, none) (veil_deliver t hj (.error (.scheduling (c.attempt - 1) .shutDown))).symm
  | some fault => rfl

/-! ### An attempt of another call -/

theorem veil_tallied (s : State Room) (hj : j ≠ id) (n : Nat) :
    (s.tallied j n).veil id = (s.veil id).tallied j n := by
  have hevent : (Event.invoked j n).call? ≠ some id := by
    intro h
    exact hj (Option.some.inj h)
  rw [State.tallied, veil_modifyCall _ (.inl hj), veil_log _ hevent]
  rfl

theorem veil_invoke (s : State Room) (hj : j ≠ id) (n : Nat) :
    (s.veil id).invoke j n = veilFst id (s.invoke j n) := by
  have hcall := congrArg (fun c => c.operation c.invocations) (veil_call_ne s hj)
  generalize hp : (s.call j).operation (s.call j).invocations = play at hcall
  cases hc : s.clock.advance (play.advance.getD .zero) with
  | error fault =>
    rw [invoke_of_fault hp hc, invoke_of_fault hcall hc, ← veil_tallied s hj n]
    rfl
  | ok clock =>
    rw [invoke_of_clock hp hc, invoke_of_clock hcall hc, ← veil_tallied s hj n]
    cases play.cancel <;> rfl

theorem veil_hand (e : Engine Room) (s : State Room) (hj : j ≠ id) (c : Continuation)
    (wait : Duration) : e.hand (s.veil id) j c wait = veilFst id (e.hand s j c wait) := by
  have hcall := veil_call_ne s hj
  have hcancelled := veil_isCancelled s id j
  have hrequest : (⟨j, ((s.veil id).call j).name, c.attempt, wait, (s.veil id).clock.elapsed,
      (s.veil id).isCancelled j⟩ : Request) =
      ⟨j, (s.call j).name, c.attempt, wait, s.clock.elapsed, s.isCancelled j⟩ := by
    rw [hcall, hcancelled]
    rfl
  have hevent : (Event.requested ⟨j, (s.call j).name, c.attempt, wait, s.clock.elapsed,
      s.isCancelled j⟩).call? ≠ some id := by
    intro h
    exact hj (Option.some.inj h)
  unfold hand veilFst
  rw [hrequest, veil_log _ hevent]
  rfl

theorem veil_settleHanded (s : State Room) (hj : j ≠ id) (c : Continuation) (held : Bool)
    (refusal : Option ScheduleError) :
    settleHanded (s.veil id) j c held refusal = veilFst id (settleHanded s j c held refusal) := by
  cases refusal with
  | some cause => exact veil_fail s hj _
  | none =>
    cases held with
    | true => exact congrArg (·, none) (veil_modifyCall s (.inl hj)).symm
    | false => exact veil_abandon s hj c

/-- An attempt of another call sees nothing of the call behind the veil. -/
theorem veil_run (e : Engine Room) (hj : j ≠ id) (left : Nat) (c : Continuation) (s : State Room) :
    e.run j left c (s.veil id) = veilFst id (e.run j left c s) := by
  -- On the attempts left, along the branches of an attempt.
  induction left using Nat.strongRecOn generalizing c s with
  | ind left ih =>
  rw [run, run, veil_isCancelled, veil_invoke s hj]
  by_cases hc : s.isCancelled j = true
  · rw [if_pos hc, if_pos hc]
    exact congrArg (·, none) (veil_deliver s hj _).symm
  rw [if_neg hc, if_neg hc]
  rcases s.invoke j c.attempt with ⟨t, fault | response⟩
  · exact veil_unwind t hj _ fault
  rcases response with f | v
  · cases left with
    | zero => exact veil_fail t hj _
    | succ left =>
      by_cases hr : (!e.policy.shouldRetry f) = true
      · simp only [veilFst, hr, ↓reduceIte]
        exact veil_fail t hj _
      have hmisses : (t.veil id).misses c.deadline (e.delay j c) =
          t.misses c.deadline (e.delay j c) := rfl
      simp only [veilFst, hr, hmisses]
      rcases t.misses c.deadline (e.delay j c) with fault | missed
      · exact veil_unwind t hj _ fault
      cases missed with
      | some d => exact veil_fail t hj _
      | none =>
        let asked : State Room := { t with metrics := t.metrics.recordRetry }
        have hhand : e.hand { t.veil id with metrics := (t.veil id).metrics.recordRetry } j
            (c.next e.policy) (e.delay j c) =
              veilFst id (e.hand asked j (c.next e.policy) (e.delay j c)) :=
          veil_hand e asked hj (c.next e.policy) (e.delay j c)
        simp only [Bool.false_eq_true, ↓reduceIte, hhand]
        rcases e.hand asked j (c.next e.policy) (e.delay j c) with ⟨u, handling, refusal⟩
        cases handling with
        | hold => exact veil_settleHanded u hj _ true refusal
        | drop => exact veil_settleHanded u hj _ false refusal
        | run pause contained =>
          have hclock : (u.veil id).clock = u.clock := rfl
          simp only [veilFst, hclock]
          cases hp : u.clock.advance (pause.getD .zero) with
          | error fault => exact veil_unwind { u with room := asked.room } hj _ fault
          | ok clock =>
            have hrest := ih left (Nat.lt_succ_self left) (c.next e.policy) { u with clock }
            exact congrArg (fun r => (r.1, if contained then Fault.contain r.2 else r.2)) hrest
  · exact congrArg (·, none) (veil_succeed t hj v).symm

/-! ### The gate -/

theorem modify_concat {α : Type} (f : α → α) (xs : List α) (x : α) (hid : id < xs.length) :
    (xs ++ [x]).modify id f = xs.modify id f ++ [x] := by
  induction xs generalizing id with
  | nil => cases hid
  | cons y xs ih =>
    cases id with
    | zero => rfl
    | succ id => exact congrArg (y :: ·) (ih (Nat.lt_of_succ_lt_succ hid))

theorem veil_enroll (hid : id < s.calls.length) (name : String) (operation : Operation)
    (token : Option String) :
    (s.veil id).enroll name operation token = (s.enroll name operation token).veil id := by
  have htokens : token.elim (s.veil id) (s.veil id).addToken =
      (token.elim s s.addToken).veil id := by
    cases token with
    | none => rfl
    | some token => exact (veil_addToken s token).symm
  have hcalls : (token.elim s s.addToken).calls = s.calls := by
    cases token with
    | none => rfl
    | some token =>
      simp only [Option.elim, State.addToken]
      split <;> rfl
  have happend := modify_concat Call.veiled s.calls
    ⟨name, operation, token, false, 0, none, [], .live⟩ hid
  simp only [State.enroll, htokens]
  simp only [State.veil, hcalls, happend]

theorem veil_look (s : State Room) (id : Nat) : (s.veil id).look = veilFst id s.look := by
  cases hb : s.breaker with
  | none =>
    have hb' : (s.veil id).breaker = none := hb
    simp only [State.look, veilFst, hb, hb']
  | some b =>
    have hb' : (s.veil id).breaker = some b := hb
    simp only [State.look, veilFst, hb, hb']
    have hlooked : Event.looked.call? ≠ some id := Option.some_ne_none id |>.symm
    rw [veil_log _ hlooked]
    rfl

/-- A new call goes the same way behind the veil. -/
theorem veil_execute (e : Engine Room) (hid : id < s.calls.length) (name : String)
    (operation : Operation) (options : Options) :
    e.execute name operation options (s.veil id) =
      veilFst id (e.execute name operation options s) := by
  have hnew : s.calls.length ≠ id := by omega
  have hdrop (t : State Room) : (t.dropHandle s.calls.length).veil id =
      (t.veil id).dropHandle s.calls.length := veil_modifyCall t (.inl hnew)
  unfold execute
  simp only [veil_length, veil_enroll hid, veil_look]
  rcases (s.enroll name operation options.token).look with ⟨t, fault | isOpen⟩
  · exact congrArg (·, some fault) (hdrop t).symm
  have hremaining : (t.veil id).remaining = t.remaining := rfl
  have hdeadline : (t.veil id).deadlineAfter options.deadline =
      t.deadlineAfter options.deadline := by
    cases options.deadline <;> rfl
  cases isOpen with
  | true =>
    simp only [veilFst, hremaining]
    cases t.remaining with
    | error fault => exact congrArg (·, some fault) (hdrop t).symm
    | ok remaining => exact congrArg (·, none) (veil_deliver t hnew _).symm
  | false =>
    simp only [veilFst, hdeadline]
    cases t.deadlineAfter options.deadline with
    | error fault => exact congrArg (·, some fault) (hdrop t).symm
    | ok deadline =>
      simp only [veil_run e hnew]
      rcases e.run s.calls.length (e.policy.maxAttempts.toNat - 1) (.first e.policy deadline) t with
        ⟨u, _ | fault⟩
      · rfl
      · exact congrArg (·, some fault) (hdrop u).symm

/-! ### Actions -/

theorem veil_runWaiting (e : Engine Room) (hw : (s.call id).waiting = none) (j : Nat) :
    e.runWaiting j (s.veil id) = veilFst id (e.runWaiting j s) := by
  have hwaiting := veil_part Call.waiting (fun _ => rfl) s id j
  unfold runWaiting
  rw [hwaiting]
  cases hj : (s.call j).waiting with
  | none => rfl
  | some c =>
    have hne : j ≠ id := by
      intro heq
      rw [heq, hw] at hj
      cases hj
    have hrelease : (s.release j).veil id = (s.veil id).release j := veil_modifyCall s (.inl hne)
    dsimp only
    rw [← hrelease]
    exact veil_run e hne _ c (s.release j)

theorem veil_dropWaiting (hw : (s.call id).waiting = none) (j : Nat) :
    dropWaiting j (s.veil id) = veilFst id (dropWaiting j s) := by
  have hwaiting := veil_part Call.waiting (fun _ => rfl) s id j
  unfold dropWaiting
  rw [hwaiting]
  cases hj : (s.call j).waiting with
  | none => rfl
  | some c =>
    have hne : j ≠ id := by
      intro heq
      rw [heq, hw] at hj
      cases hj
    have hrelease : (s.release j).veil id = (s.veil id).release j := veil_modifyCall s (.inl hne)
    dsimp only
    rw [← hrelease]
    exact veil_abandon (s.release j) hne c

theorem veiled_queried (c : Call) : c.queried.veiled = c.veiled.queried := by
  -- Asking for an outcome looks whether there is one, and not what it is.
  have hready : c.veiled.handle = .live ∧ (c.veiled.delivered ≠ [] ∨ c.veiled.waiting = none) ↔
      c.handle = .live ∧ (c.delivered ≠ [] ∨ c.waiting = none) :=
    and_congr_right fun _ => or_congr_left (not_congr List.map_eq_nil_iff)
  by_cases h : c.handle = .live ∧ (c.delivered ≠ [] ∨ c.waiting = none)
  · rw [Call.queried, if_pos h, Call.queried, if_pos (hready.mpr h)]
    rfl
  · rw [Call.queried, if_neg h, Call.queried, if_neg fun hn => h (hready.mp hn)]

theorem veiled_collected (c : Call) : c.collected.veiled = c.veiled.collected := by
  unfold Call.collected
  change _ = if c.handle = .gone then _ else _
  split <;> rfl

/-- As long as the call is settled, what happens leaves the same behind the veil. -/
theorem act_veil (e : Engine Room) (h : s.Settled id) (a : Action Room) :
    e.act (s.veil id) a = (e.act s a).veil id := by
  have mark {f : Call → Call} (hf : ∀ c : Call, (f c).veiled = f c.veiled) (j : Nat) :
      (s.veil id).modifyCall j f = (s.modifyCall j f).veil id := (veil_modifyCall s (.inr hf)).symm
  cases a with
  | start name operation options =>
    exact congrArg Prod.fst (veil_execute e h.known name operation options)
  | run r room =>
    exact congrArg Prod.fst (veil_runWaiting (s := s.withRoom room) e h.2 r.call)
  | drop r room => exact congrArg Prod.fst (veil_dropWaiting (s := s.withRoom room) h.2 r.call)
  | turn room => rfl
  | poll j =>
    change ((s.veil id).poll j).1 = ((s.poll j).1).veil id
    rw [State.poll_eq, State.poll_eq]
    exact mark veiled_queried j
  | await j =>
    change ((s.veil id).await j).1 = ((s.await j).1).veil id
    rw [State.await_eq, State.await_eq]
    exact mark veiled_queried j
  | collect j =>
    change ((s.veil id).wait (fun s => s) j).1 = ((s.wait (fun s => s) j).1).veil id
    rw [State.collect_eq, State.collect_eq]
    exact mark veiled_collected j
  | cancel j => exact mark (f := fun c => { c with cancelled := true }) (fun _ => rfl) j
  | giveUp j =>
    exact mark (f := fun c => { c with cancelled := true, handle := .gone }) (fun _ => rfl) j
  | cancelToken token =>
    change ((s.veil id).addToken token).cancelToken token = _
    rw [← veil_addToken]
    rfl
  | advance d =>
    have hclock : (s.veil id).clock = s.clock := rfl
    change ((s.veil id).advance d).1 = ((s.advance d).1).veil id
    simp only [State.advance, hclock]
    split <;> rfl
  | setElapsed d => rfl
  | askOpen => exact congrArg Prod.fst (veil_look s id)
  | readMetrics => exact congrArg Prod.fst (veil_look s id)
  | resetBreaker =>
    have hbreaker : (s.veil id).breaker = s.breaker := rfl
    have hreset : Event.reset.call? ≠ some id := Option.some_ne_none id |>.symm
    change (s.veil id).resetBreaker = s.resetBreaker.veil id
    simp only [State.resetBreaker, hbreaker]
    cases s.breaker with
    | none => rfl
    | some b =>
      dsimp only
      rw [veil_log _ hreset]
      rfl

theorem allowed_veil {custody : Custody e.scheduler} (s : State Room) (id : Nat)
    (a : Action Room) : a.Allowed custody (s.veil id) ↔ a.Allowed custody s := by
  have hhandle (j : Nat) : (s.veil id).hasHandle j = s.hasHandle j := by
    simp only [State.hasHandle, veil_part Call.handle (fun _ => rfl)]
  have houtcome (j : Nat) : ((s.veil id).outcome? j).isSome = true ↔
      (s.outcome? j).isSome = true := by
    have hdelivered : ((s.veil id).call j).delivered ≠ [] ↔ (s.call j).delivered ≠ [] := by
      have hpart := veil_part (fun c => c.delivered.isEmpty) (fun _ => List.isEmpty_map) s id j
      rw [← List.isEmpty_eq_false_iff, ← List.isEmpty_eq_false_iff, hpart]
    rw [State.isSome_outcome?, State.isSome_outcome?, hdelivered,
      veil_part Call.waiting fun _ => rfl]
  cases a with
  | poll j | await j | cancel j | giveUp j => exact iff_of_eq (congrArg (· = true) (hhandle j))
  | collect j => exact and_congr (iff_of_eq (congrArg (· = true) (hhandle j))) (houtcome j)
  | _ => exact Iff.rfl

/-! ### States that look alike -/

/-- Whether a call is settled shows. -/
theorem settled_of_veil {t' : State Room} (h : t.Settled id) (heq : t.veil id = t'.veil id) :
    t'.Settled id := by
  have hwaiting : (t'.call id).waiting = (t.call id).waiting := by
    rw [← veil_part Call.waiting (fun _ => rfl) t' id, ← heq, veil_part Call.waiting fun _ => rfl]
  have hlength : (t'.call id).delivered.length = (t.call id).delivered.length := by
    have hpart : ∀ c : Call, c.veiled.delivered.length = c.delivered.length :=
      fun c => List.length_map _
    rw [← veil_part (·.delivered.length) hpart t' id, ← heq,
      veil_part (·.delivered.length) hpart]
  obtain ⟨⟨o, ho⟩, hw⟩ := h
  rw [ho] at hlength
  exact ⟨List.length_eq_one_iff.mp hlength, hwaiting.trans hw⟩

/-- Two states that look alike behind the veil stay alike, and the same can happen in both. -/
theorem Run.veil {t' : State Room} {as : List (Action Room)}
    (run : Run e custody (fun _ => True) t as u) (ht : t.Settled id)
    (heq : t.veil id = t'.veil id) :
    ∃ u', Run e custody (fun _ => True) t' as u' ∧ u.veil id = u'.veil id := by
  -- Along the run: the call stays settled, so that the next action leaves the same in both.
  induction run with
  | nil => exact ⟨t', .nil trivial, heq⟩
  | @snoc u as a run allowed _ ih =>
    obtain ⟨u', run', hu⟩ := ih
    have hsettled := (run.of_settled ht).1
    have hsettled' := settled_of_veil hsettled hu
    have allowed' : a.Allowed custody u' := by
      rwa [← allowed_veil u' id, ← hu, allowed_veil u id]
    refine ⟨_, run'.snoc allowed' trivial, ?_⟩
    rw [← act_veil e hsettled, ← act_veil e hsettled', hu]

end Reattempt.Engine
