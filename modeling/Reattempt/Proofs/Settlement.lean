import Reattempt.Proofs.Custody

/-!
Exactly-once settlement. Whatever the scheduler does, a call that has begun is settled, or its
continuation waits and exactly one attempt that the scheduler holds is its owner.

One path leaves a call with neither. A failure that a breaker cannot date, because the clock stands
at a time that cannot be named, is never delivered; `lost_of_unreadable_clock` shows it.
-/
namespace Reattempt.Engine

variable {Room : Type} {e : Engine Room} {custody : Custody e.scheduler} {ok : State Room → Prop}
  {s t u : State Room} {id j left : Nat} {c : Continuation} {f : Call → Call}

/-! ### The invariant -/

/-- The call has no outcome and nothing of it waits. -/
def State.Idle (s : State Room) (id : Nat) : Prop :=
  (s.call id).delivered = [] ∧ (s.call id).waiting = none

/-- Every call is settled, owned or idle, and the scheduler holds attempts of known calls only. -/
structure Custody.Sole (custody : Custody e.scheduler) (s : State Room) : Prop where
  standing : ∀ id, s.Settled id ∨ custody.Owns s id ∨ s.Idle id
  known : ∀ r ∈ custody.held s.room, r.call < s.calls.length

/-- No call that has begun is idle, and only such a call has a handle that its outcome was not taken
from. -/
structure State.Complete (s : State Room) : Prop where
  begun : ∀ id, s.Idle id → ¬ (s.call id).Begun
  live : ∀ id, (s.call id).handle = .live → (s.call id).Begun

theorem Custody.Owns.of_perm (h : custody.Owns s id) (hd : (t.call id).delivered = [])
    (hw : (t.call id).waiting = (s.call id).waiting)
    (ht : (custody.tickets t id).Perm (custody.tickets s id)) : custody.Owns t id := by
  obtain ⟨_, c, r, hc, hr, hn⟩ := h
  rw [hr] at ht
  exact ⟨hd, c, r, hw.trans hc, List.perm_singleton.mp ht, hn⟩

/-- The standing of a call that is not written depends on what is held for it only. -/
theorem standing_of_same (hd : (t.call id).delivered = (s.call id).delivered)
    (hw : (t.call id).waiting = (s.call id).waiting)
    (ht : (custody.tickets t id).Perm (custody.tickets s id))
    (h : s.Settled id ∨ custody.Owns s id ∨ s.Idle id) :
    t.Settled id ∨ custody.Owns t id ∨ t.Idle id := by
  rcases h with ⟨⟨o, ho⟩, hn⟩ | h | ⟨h, hn⟩
  · exact .inl ⟨⟨o, hd.trans ho⟩, hw.trans hn⟩
  · exact .inr (.inl (h.of_perm (hd.trans h.1) hw ht))
  · exact .inr (.inr ⟨hd.trans h, hw.trans hn⟩)

theorem sole_initial {room : Room} (hr : custody.held room = []) :
    custody.Sole (initial e room) where
  standing := fun id => by
    have hcall : (initial e room).call id = .blank := State.call_of_length_le (Nat.zero_le id)
    exact .inr (.inr ⟨by rw [hcall]; rfl, by rw [hcall]; rfl⟩)
  known := fun r h => by
    rw [show (initial e room).room = room from rfl, hr] at h
    cases h

theorem Custody.Sole.of_unmoved (h : custody.Sole s) (hm : s.Unmoved t) : custody.Sole t where
  standing := fun id => standing_of_same (hm.delivered id) (hm.waiting id)
    (by rw [tickets_congr hm.room]) (h.standing id)
  known := fun r hr => by
    rw [hm.room] at hr
    rw [hm.length]
    exact h.known r hr

/-- A frame keeps the invariant if its own call ends up settled, owned or idle. -/
theorem Custody.Sole.of_frame (h : custody.Sole s) (hid : id < s.calls.length)
    (frame : custody.Frame id s t) (ends : t.Settled id ∨ custody.Owns t id ∨ t.Idle id) :
    custody.Sole t where
  standing := fun j => by
    by_cases hj : j = id
    · exact hj ▸ ends
    · have hcall := frame.call_ne hj
      exact standing_of_same (by rw [hcall]) (by rw [hcall]) (frame.others j hj) (h.standing j)
  known := fun r hr => by
    rw [frame.length]
    rcases frame.known r hr with rfl | hr
    · exact hid
    · exact h.known r hr

theorem State.Lost.idle (h : s.Lost id) : s.Idle id := ⟨h.1, h.2.1⟩

/-- With a scheduler that has let go of an attempt of a call that waits, the call is in hand. -/
theorem Custody.Sole.inHand (h : custody.Sole s) {r : Request} {room : Room}
    (hp : (custody.held s.room).Perm (r :: custody.held room))
    (hc : (s.call r.call).waiting = some c) :
    custody.InHand ((s.withRoom room).release r.call) r.call := by
  have hid : r.call < s.calls.length := h.known r (hp.mem_iff.mpr List.mem_cons_self)
  have hown : custody.Owns s r.call := by
    rcases h.standing r.call with ⟨_, hn⟩ | hown | ⟨_, hn⟩
    · rw [hn] at hc
      cases hc
    · exact hown
    · rw [hn] at hc
      cases hc
  obtain ⟨hd, _, x, _, hx, _⟩ := hown
  have hcall : ((s.withRoom room).release r.call).call r.call = _ :=
    State.call_of_modify rfl hid
  refine ⟨?_, ?_, ?_, ?_⟩
  · rw [State.length_of_modify (s := s.withRoom room) rfl]
    exact hid
  · rw [hcall]
    exact hd
  · rw [hcall]
  · -- The one ticket of the call was the one let go.
    have hfilter := hp.filter (·.call = r.call)
    rw [List.filter_cons_of_pos (by simp)] at hfilter
    rw [Custody.tickets] at hx
    rw [hx] at hfilter
    have hlen := hfilter.length_eq
    simp only [List.length_cons, List.length_nil] at hlen
    change (custody.held room).filter _ = []
    exact List.length_eq_zero_iff.mp (by omega)

/-- What is held for other calls stays when an attempt is let go. -/
theorem frame_release {r : Request} {room : Room}
    (hp : (custody.held s.room).Perm (r :: custody.held room)) :
    custody.Frame r.call s ((s.withRoom room).release r.call) where
  calls := ⟨_, rfl⟩
  others := fun j hj => by
    have hfilter := hp.filter (·.call = j)
    rw [List.filter_cons_of_neg (by simpa using hj.symm)] at hfilter
    exact hfilter.symm
  known := fun x hx => .inr (hp.mem_iff.mpr (List.mem_cons_of_mem _ hx))

/-! ### One action -/

theorem gated_call_ne (name : String) (operation : Operation) (options : Options)
    (hj : j ≠ s.calls.length) : (s.gated name operation options).call j = s.call j := by
  have hc := State.gated_calls s name operation options
  rcases Nat.lt_or_ge j s.calls.length with h | h
  · exact State.call_of_append hc h
  · have hl : (s.gated name operation options).calls.length ≤ j := by
      rw [hc, List.length_append]
      simp only [List.length_cons, List.length_nil]
      omega
    rw [State.call_of_length_le hl, State.call_of_length_le h]

theorem Custody.Sole.gated (h : custody.Sole s) (name : String) (operation : Operation)
    (options : Options) : custody.Sole (s.gated name operation options) where
  standing := fun j => by
    by_cases hj : j = s.calls.length
    · subst hj
      have hcall := State.call_append_last (State.gated_calls s name operation options)
      exact .inr (.inr ⟨by rw [hcall], by rw [hcall]⟩)
    · have hcall := gated_call_ne name operation options hj
      refine standing_of_same (by rw [hcall]) (by rw [hcall]) ?_ (h.standing j)
      rw [tickets_congr (State.gated_room s name operation options)]
  known := fun r hr => by
    rw [State.gated_room] at hr
    rw [State.gated_calls, List.length_append]
    exact Nat.lt_add_right _ (h.known r hr)

/-- A new call is in hand: no attempt can be held for a number that was not given yet. -/
theorem Custody.Sole.inHand_gated (h : custody.Sole s) (name : String) (operation : Operation)
    (options : Options) :
    custody.InHand (s.gated name operation options) s.calls.length := by
  have hc := State.gated_calls s name operation options
  have hcall := State.call_append_last hc
  refine ⟨State.lt_length_gated s name operation options, by rw [hcall], by rw [hcall], ?_⟩
  · rw [tickets_congr (State.gated_room s name operation options), Custody.tickets,
      List.filter_eq_nil_iff]
    intro r hr heq
    have hlt := h.known r hr
    simp only [decide_eq_true_eq] at heq
    omega

/-- Starting a call writes no other call than the new one. -/
theorem Started.call_ne {name : String} {operation : Operation} {options : Options}
    (custody : Custody e.scheduler) (started : Started e name operation options s t)
    (hj : j ≠ s.calls.length) : t.call j = s.call j := by
  have hg := gated_call_ne (s := s) name operation options hj
  cases started with
  | barred hs => exact (State.call_of_modify_ne rfl hj).trans hg
  | rejected hl hr => exact (State.call_of_modify_ne rfl hj).trans hg
  | admitted hl hd course =>
    have frame : custody.Frame _ _ _ := course.frame
    exact (frame.call_ne hj).trans hg
  | thrown hl hd course =>
    have frame : custody.Frame _ _ _ := course.frame
    exact (State.call_of_modify_ne rfl hj).trans ((frame.call_ne hj).trans hg)

/-- Starting a call records nothing about any other call than the new one. -/
theorem Started.about {name : String} {operation : Operation} {options : Options}
    (started : Started e name operation options s t) (hj : j ≠ s.calls.length) :
    t.about j = s.about j := by
  have hg := State.gated_about s name operation options j
  cases started with
  | barred hs => exact hg
  | rejected hl hr => exact (deliver_about _ _ hj).trans hg
  | admitted hl hd course => exact (course.about hj).trans hg
  | thrown hl hd course => exact (course.about hj).trans hg

theorem Custody.Sole.started {name : String} {operation : Operation} {options : Options}
    (h : custody.Sole s) (started : Started e name operation options s t) : custody.Sole t := by
  have hg := h.gated name operation options
  have hand := h.inHand_gated name operation options
  cases started with
  | barred hs => exact hg.of_unmoved (State.unmoved_dropHandle _ _)
  | @rejected remaining hl hr =>
    have ht : ((s.gated name operation options).deliver s.calls.length
        (.error (.circuitOpen remaining))).call s.calls.length = _ :=
      State.call_of_modify rfl hand.known
    refine hg.of_frame hand.known (.of_room ⟨_, rfl⟩ rfl)
      (.inl ⟨⟨.error (.circuitOpen remaining), ?_⟩, ?_⟩)
    · rw [ht, hand.pending]
      rfl
    · rw [ht]
      exact hand.taken
  | admitted hl hd course =>
    exact hg.of_frame hand.known course.frame
      ((course.ends hand).imp_right (Or.imp_right State.Lost.idle))
  | thrown hl hd course =>
    have hsole := hg.of_frame hand.known course.frame
      ((course.ends hand).imp_right (Or.imp_right State.Lost.idle))
    exact hsole.of_unmoved (State.unmoved_dropHandle _ _)

theorem Custody.Sole.spent {r : Request} {room : Room} (h : custody.Sole s)
    (hp : (custody.held s.room).Perm (r :: custody.held room))
    (hw : (s.call r.call).waiting = none) : custody.Sole (s.withRoom room) := by
  have hid : r.call < s.calls.length := h.known r (hp.mem_iff.mpr List.mem_cons_self)
  have hframe := frame_release hp
  refine h.of_frame hid
    ⟨⟨fun call => call, (List.modify_id _ s.calls).symm⟩, hframe.others, hframe.known⟩ ?_
  rcases h.standing r.call with hs | ⟨_, _, _, hc, _⟩ | hs
  · exact .inl hs
  · rw [hw] at hc
    cases hc
  · exact .inr (.inr hs)

/-- Every action keeps the invariant. -/
theorem Custody.Sole.acted {a : Action Room} (h : custody.Sole s)
    (allowed : a.Allowed custody s) (acted : Acted e s a t) : custody.Sole t := by
  cases acted with
  | started started => exact h.started started
  | resumed hw course =>
    -- The attempt let go was the one ticket of its call, so the course starts with it in hand.
    have hand := h.inHand allowed hw
    exact h.of_frame (h.known _ (allowed.mem_iff.mpr List.mem_cons_self))
      ((frame_release allowed).trans course.frame)
      ((course.ends hand).imp_right (Or.imp_right State.Lost.idle))
  | dropped hw =>
    have hand := h.inHand allowed hw
    refine h.of_frame (h.known _ (allowed.mem_iff.mpr List.mem_cons_self))
      ((frame_release allowed).trans (frame_failed custody _ _ _)) ?_
    exact (failed_ends _ hand.known hand.pending hand.taken).imp_right fun lost => .inr lost.idle
  | spent ha hw =>
    rcases ha with rfl | rfl
    · exact h.spent allowed hw
    · exact h.spent allowed hw
  | @turned room =>
    have hp : (custody.held s.room).Perm (custody.held room) := allowed
    refine ⟨fun id => ?_, fun r hr => h.known r (hp.mem_iff.mpr hr)⟩
    exact standing_of_same (s := s) rfl rfl (hp.filter _).symm (h.standing id)
  | still ha => exact h.of_unmoved (act_still e s ha)

/-! ### Dated runs -/

theorem complete_initial (e : Engine Room) (room : Room) : (initial e room).Complete := by
  have hcall (id : Nat) : (initial e room).call id = .blank :=
    State.call_of_length_le (Nat.zero_le id)
  refine ⟨fun id _ hb => ?_, fun id hl => ?_⟩
  · rw [hcall] at hb
    rcases hb with hb | hb <;> exact hb rfl
  · rw [hcall] at hl
    cases hl

theorem State.Complete.of_unmoved (h : s.Complete) (hm : s.Unmoved t) : t.Complete := by
  have hbegun (id : Nat) : (t.call id).Begun ↔ (s.call id).Begun := by
    simp only [Call.Begun, hm.invocations, hm.delivered]
  refine ⟨fun id hi hb => ?_, fun id hl => (hbegun id).mpr (h.live id (hm.live id hl))⟩
  have hs : s.Idle id := ⟨(hm.delivered id).symm.trans hi.1, (hm.waiting id).symm.trans hi.2⟩
  exact h.begun id hs ((hbegun id).mp hb)

/-- Where one call is written, only that call has to be looked at. -/
theorem State.Complete.of_call_ne (h : s.Complete) (hne : ∀ j, j ≠ id → t.call j = s.call j)
    (hbegun : t.Idle id → ¬ (t.call id).Begun)
    (hlive : (t.call id).handle = .live → (t.call id).Begun) : t.Complete where
  begun := fun j hi hb => by
    by_cases hj : j = id
    · exact hbegun (hj ▸ hi) (hj ▸ hb)
    · have hcall := hne j hj
      rw [State.Idle, hcall] at hi
      exact h.begun j hi (hcall ▸ hb)
  live := fun j hl => by
    by_cases hj : j = id
    · exact hj ▸ hlive (hj ▸ hl)
    · have hcall := hne j hj
      rw [hcall] at hl ⊢
      exact h.live j hl

theorem not_idle_of_ends (h : s.Settled id ∨ custody.Owns s id) : ¬ s.Idle id := by
  rintro ⟨hd, hw⟩
  rcases h with ⟨⟨o, ho⟩, _⟩ | ⟨_, c, _, hc, _⟩
  · rw [hd] at ho
    cases ho
  · rw [hw] at hc
    cases hc

/-- On a clock that can be read, or without a breaker, no course loses its call. -/
theorem Course.ends_of_dated (course : Course e id left c s t) (hand : custody.InHand s id)
    (dated : t.Dated) : t.Settled id ∨ custody.Owns t id := by
  rcases course.ends hand with h | h | h
  · exact .inl h
  · exact .inr h
  · exact absurd dated h.2.2

theorem State.Complete.started {name : String} {operation : Operation} {options : Options}
    (sole : custody.Sole s) (h : s.Complete)
    (started : Started e name operation options s t) (dated : t.Dated) : t.Complete := by
  have hand := sole.inHand_gated name operation options
  have hne (j : Nat) (hj : j ≠ s.calls.length) : t.call j = s.call j :=
    started.call_ne custody hj
  cases started with
  | barred hs =>
    have hcall : ((s.gated name operation options).dropHandle s.calls.length).call
        s.calls.length = _ := State.call_of_modify rfl hand.known
    refine h.of_call_ne hne (fun _ hb => ?_) fun hl => ?_
    · rw [hcall, State.call_append_last (State.gated_calls s name operation options)] at hb
      rcases hb with hb | hb <;> exact hb rfl
    · rw [hcall] at hl
      cases hl
  | @rejected remaining hl hr =>
    have hcall : ((s.gated name operation options).deliver s.calls.length
        (.error (.circuitOpen remaining))).call s.calls.length = _ :=
      State.call_of_modify rfl hand.known
    have hd : (((s.gated name operation options).deliver s.calls.length
        (.error (.circuitOpen remaining))).call s.calls.length).delivered ≠ [] := by
      rw [hcall]
      exact List.concat_ne_nil _ _
    exact h.of_call_ne hne (fun hi => absurd hi.1 hd) fun _ => .inr hd
  | admitted hl hd course =>
    exact h.of_call_ne hne (fun hi => absurd hi (not_idle_of_ends (course.ends_of_dated hand dated)))
      fun _ => course.begun hand.known
  | @thrown deadline u hl hd course =>
    have hu : u.Complete := h.of_call_ne
      (fun j hj => (Started.admitted hl hd course).call_ne custody hj)
      (fun hi => absurd hi (not_idle_of_ends (course.ends_of_dated hand dated)))
      fun _ => course.begun hand.known
    exact hu.of_unmoved (State.unmoved_dropHandle _ _)

/-- Every action that ends where a failure can be dated keeps a run complete. -/
theorem State.Complete.acted {a : Action Room} (sole : custody.Sole s) (h : s.Complete)
    (allowed : a.Allowed custody s) (acted : Acted e s a t) (dated : t.Dated) : t.Complete := by
  cases acted with
  | started started => exact h.started sole started dated
  | resumed hw course =>
    have hand := sole.inHand allowed hw
    have hframe := (frame_release allowed).trans course.frame
    exact h.of_call_ne (fun j hj => hframe.call_ne hj)
      (fun hi => absurd hi (not_idle_of_ends (course.ends_of_dated hand dated)))
      fun _ => course.begun hand.known
  | @dropped r room c hw =>
    have hand := sole.inHand allowed hw
    have hframe := frame_release allowed
    obtain ⟨⟨o, ho⟩, _⟩ := (failed_ends (.scheduling (c.attempt - 1) .shutDown) hand.known
      hand.pending hand.taken).resolve_right fun lost => lost.2.2 dated
    have hd : _ ≠ [] := ho ▸ List.cons_ne_nil o []
    exact h.of_call_ne (fun j hj => (hframe.trans (frame_failed custody _ _ _)).call_ne hj)
      (fun hi => absurd hi.1 hd) fun _ => .inr hd
  | spent ha hw => exact ⟨h.begun, h.live⟩
  | turned => exact ⟨h.begun, h.live⟩
  | still ha => exact h.of_unmoved (act_still e s ha)

theorem Run.sole {room : Room} (hr : custody.held room = [])
    (run : Run e custody ok (initial e room) as s) : custody.Sole s :=
  run.invariant custody.Sole (sole_initial hr) fun u a h allowed _ _ =>
    h.acted allowed (act_acted e u a)

theorem Run.complete {room : Room} (hr : custody.held room = [])
    (run : Run e custody State.Dated (initial e room) as s) : s.Complete :=
  (run.invariant (fun u => custody.Sole u ∧ u.Complete)
    ⟨sole_initial hr, complete_initial e room⟩
    fun u a h allowed _ dated => ⟨h.1.acted allowed (act_acted e u a),
      h.2.acted h.1 allowed (act_acted e u a) dated⟩).2

/-! ### What is settled stays settled -/

theorem State.Settled.known (h : s.Settled id) : id < s.calls.length := by
  apply State.lt_length_of_call_ne_blank
  intro hb
  obtain ⟨o, ho⟩ := h.1
  rw [hb] at ho
  cases ho

theorem State.Settled.not_waiting (h : s.Settled id) (hw : (s.call j).waiting = some c) :
    id ≠ j := by
  rintro rfl
  rw [h.2] at hw
  cases hw

/-- No action invokes a settled call again, hands it another outcome or records anything about it. -/
theorem acted_of_settled {a : Action Room} (custody : Custody e.scheduler) (h : s.Settled id)
    (acted : Acted e s a t) : t.Settled id ∧ (t.call id).delivered = (s.call id).delivered ∧
      (t.call id).invocations = (s.call id).invocations ∧ t.about id = s.about id := by
  -- It is enough that outcomes, waiting continuation and invocations are the same.
  have of_same (hd : (t.call id).delivered = (s.call id).delivered)
      (hw : (t.call id).waiting = (s.call id).waiting)
      (hi : (t.call id).invocations = (s.call id).invocations) (ha : t.about id = s.about id) :
      t.Settled id ∧ (t.call id).delivered = (s.call id).delivered ∧
        (t.call id).invocations = (s.call id).invocations ∧ t.about id = s.about id :=
    ⟨⟨h.1.imp fun _ => hd.trans, hw.trans h.2⟩, hd, hi, ha⟩
  have of_call (hcall : t.call id = s.call id) := of_same (by rw [hcall]) (by rw [hcall])
    (by rw [hcall])
  cases acted with
  | started started =>
    have hid := Nat.ne_of_lt h.known
    exact of_call (started.call_ne custody hid) (started.about hid)
  | resumed hw course =>
    have frame : custody.Frame _ _ _ := course.frame
    have hid := h.not_waiting hw
    exact of_call ((frame.call_ne hid).trans (State.call_of_modify_ne rfl hid)) (course.about hid)
  | dropped hw =>
    have hid := h.not_waiting hw
    exact of_call (((frame_failed custody _ _ _).call_ne hid).trans
      (State.call_of_modify_ne rfl hid)) (State.failed_about _ _ hid)
  | spent ha hw => exact of_call rfl rfl
  | turned => exact of_call rfl rfl
  | still ha =>
    have hm := act_still e s ha
    exact of_same (hm.delivered id) (hm.waiting id) (hm.invocations id) (hm.about id)

theorem Run.of_settled (run : Run e custody ok s as t) (h : s.Settled id) :
    t.Settled id ∧ (t.call id).delivered = (s.call id).delivered ∧
      (t.call id).invocations = (s.call id).invocations ∧ t.about id = s.about id := by
  refine run.invariant (fun u => u.Settled id ∧ (u.call id).delivered = (s.call id).delivered ∧
    (u.call id).invocations = (s.call id).invocations ∧ u.about id = s.about id)
    ⟨h, rfl, rfl, rfl⟩ ?_
  rintro u a ⟨hu, hd, hi, ha⟩ _ _ _
  obtain ⟨hs, hd', hi', ha'⟩ := acted_of_settled custody hu (act_acted e u a)
  exact ⟨hs, hd'.trans hd, hi'.trans hi, ha'.trans ha⟩

/-! ### Exactly once -/

/-- A call is handed one outcome at most. -/
theorem Custody.Sole.delivered_le (h : custody.Sole s) (id : Nat) :
    (s.call id).delivered.length ≤ 1 := by
  rcases h.standing id with ⟨⟨o, ho⟩, _⟩ | ⟨hd, _⟩ | ⟨hd, _⟩
  · rw [ho]
    exact Nat.le_refl 1
  · rw [hd]
    exact Nat.zero_le 1
  · rw [hd]
    exact Nat.zero_le 1

/-- The outcome as a caller of that name sees it. -/
def Call.answer (c : Call) (o : Outcome) : Answered := .outcome (o.mapError (⟨c.name, ·⟩))

/-- An engine with a breaker and without jitter, whose retries wait in a queue. -/
def guardedQueue : Engine (Queue Request) where
  policy := { Policy.guarded with jitterFactor := 0 }
  scheduler := .queueing
  chance := fun _ _ => .middle

/-- The attempts that wait in the engine's queue. -/
def guardedCustody : Custody guardedQueue.scheduler := queueCustody

/-- The start of a call that fails for want of a connection, again and again. -/
def startRefused : Action (Queue Request) :=
  .start "svc" (fun _ => ⟨none, none, .failure (.plain .connection "refused")⟩) ⟨none, none⟩

/-- The queue is shut down and drops the first retry of the first call. -/
def dropFirst : Action (Queue Request) :=
  .drop ⟨0, "svc", 2, .ofMillis 1000, .zero, false⟩ ⟨none, [], [.ofMillis 1000], true⟩

def queueStart : State (Queue Request) := initial guardedQueue (.empty none)

def queueStarted : State (Queue Request) := guardedQueue.act queueStart startRefused

theorem held_queueStarted :
    queueStarted.room.waiting = [⟨0, "svc", 2, .ofMillis 1000, .zero, false⟩] := by
  decide +kernel

theorem run_queueStarted (ok : State (Queue Request) → Prop) (h : ∀ s, s.clock.Readable → ok s) :
    Run guardedQueue guardedCustody ok queueStart [startRefused] queueStarted := by
  have h0 : Run guardedQueue guardedCustody ok queueStart [] queueStart :=
    .nil (h _ Clock.start_readable)
  exact h0.snoc trivial (h _ (by decide))

/-- The start and the drop are a run, and the clock stands still in it. -/
theorem run_dropFirst (ok : State (Queue Request) → Prop) (h : ∀ s, s.clock.Readable → ok s) :
    Run guardedQueue guardedCustody ok queueStart [startRefused, dropFirst]
      (guardedQueue.act queueStarted dropFirst) :=
  (run_queueStarted ok h).snoc (List.Perm.of_eq held_queueStarted) (h _ (by decide))

end Reattempt.Engine
