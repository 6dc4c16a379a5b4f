import Reattempt.Proofs.BreakerReplay
import Reattempt.Proofs.Turns
import Reattempt.Proofs.Waits

/-!
What the parts of a breaker say about each other. Where it stands, its two counts and its last
failure are tied together in every history that can be dated; an open breaker in particular can
always tell how long it stays open, and a call that it rejects is told. Main statement:
`breaker_sound`.
-/
namespace Reattempt

namespace BreakerConfig

variable {config : BreakerConfig}

theorem failureThreshold_pos (valid : config.validate = .ok ()) :
    0 < config.failureThreshold.toNat := by
  apply ConfigError.pos_of_checked valid
  exact List.mem_cons_self

theorem minCalls_pos (valid : config.validate = .ok ()) : 0 < config.minCalls.toNat := by
  apply ConfigError.pos_of_checked valid
  exact List.mem_cons_of_mem _ (List.mem_cons_of_mem _ List.mem_cons_self)

end BreakerConfig

namespace Breaker

variable {b : Breaker}

/-- Where a breaker stands, what it has counted and whether it knows of a failure fit together. -/
structure Sound (b : Breaker) : Prop where
  closed : b.circuit = .closed → b.failures < b.config.failureThreshold.toNat ∧ b.successes = 0
  halfOpen : b.circuit = .halfOpen →
    b.failures < b.config.failureThreshold.toNat ∧ b.successes < b.config.minCalls.toNat
  opened : b.circuit = .opened → b.config.failureThreshold.toNat ≤ b.failures ∧
    b.successes < b.config.minCalls.toNat ∧ b.lastFailure ≠ none
  undated : b.lastFailure = none → b.circuit = .closed ∧ b.failures = 0

/-- No count passes the largest threshold, so that a count which has reached it stays there. -/
theorem le_countUp {n : Nat} {threshold : UInt32} (h : threshold.toNat ≤ n) :
    threshold.toNat ≤ countUp n := by
  have hmax : threshold.toNat < 2 ^ 32 := threshold.toNat_lt
  unfold countUp
  omega

theorem sound_fresh {config : BreakerConfig} (valid : config.validate = .ok ()) :
    (fresh config).Sound where
  closed := fun _ => ⟨config.failureThreshold_pos valid, rfl⟩
  halfOpen := fun h => nomatch h
  opened := fun h => nomatch h
  undated := fun _ => ⟨rfl, rfl⟩

/-- Before the circuit closes again the probes counted are too few to close it. -/
theorem Sound.successes_lt (h : b.Sound) (valid : b.config.validate = .ok ()) :
    b.successes < b.config.minCalls.toNat := by
  cases hc : b.circuit with
  | closed =>
    rw [(h.closed hc).2]
    exact b.config.minCalls_pos valid
  | opened => exact (h.opened hc).2.1
  | halfOpen => exact (h.halfOpen hc).2

/-- An open breaker whose cooldown is over. -/
theorem Sound.probing (h : b.Sound) (valid : b.config.validate = .ok ())
    (hc : b.circuit = .opened) :
    ({ b with circuit := .halfOpen, failures := 0, successes := 0 } : Breaker).Sound where
  closed := fun hn => nomatch hn
  halfOpen := fun _ => ⟨b.config.failureThreshold_pos valid, b.config.minCalls_pos valid⟩
  opened := fun hn => nomatch hn
  undated := fun hn => absurd hn (h.opened hc).2.2

theorem Sound.look (h : b.Sound) (valid : b.config.validate = .ok ()) (now : Instant) :
    (b.look now).Sound := by
  unfold Breaker.look
  split
  · next hc hl =>
    split
    · exact h.probing valid hc
    · exact h
  · next hc hl => exact h.probing valid hc
  · exact h

theorem Sound.isOpen (h : b.Sound) (valid : b.config.validate = .ok ())
    (reading : Except Fault Instant) : (b.isOpen reading).1.Sound := by
  unfold Breaker.isOpen
  split
  · exact h
  · exact h.look valid _
  · next hc hl => exact h.probing valid hc
  · exact h

theorem Sound.recordSuccess (h : b.Sound) (valid : b.config.validate = .ok ()) :
    b.recordSuccess.Sound := by
  unfold Breaker.recordSuccess
  split
  · next hc =>
    obtain ⟨hlt, hs⟩ := h.closed hc
    constructor
    case closed =>
      -- A success takes a failure back, so that the count stays below the threshold.
      intro _
      have hle : b.failures - 1 < b.config.failureThreshold.toNat := by omega
      exact ⟨hle, hs⟩
    case halfOpen =>
      intro hn
      cases hc.symm.trans hn
    case opened =>
      intro hn
      cases hc.symm.trans hn
    case undated =>
      intro hn
      have hzero : b.failures - 1 = 0 := by
        rw [(h.undated hn).2]
      exact ⟨hc, hzero⟩
  · next hc =>
    have hdated : b.lastFailure ≠ none := by
      intro hn
      cases hc.symm.trans (h.undated hn).1
    split
    · -- The last success that was needed: the counts are cleared.
      constructor
      case closed =>
        intro _
        exact ⟨b.config.failureThreshold_pos valid, rfl⟩
      case halfOpen =>
        intro hn
        cases hn
      case opened =>
        intro hn
        cases hn
      case undated =>
        intro hn
        exact absurd hn hdated
    · next hle =>
      constructor
      case closed =>
        intro hn
        cases hc.symm.trans hn
      case halfOpen =>
        intro _
        exact ⟨(h.halfOpen hc).1, Nat.lt_of_not_le hle⟩
      case opened =>
        intro hn
        cases hc.symm.trans hn
      case undated =>
        intro hn
        exact absurd hn hdated
  · exact h

theorem Sound.recordFailure (h : b.Sound) (valid : b.config.validate = .ok ()) (now : Instant) :
    (b.recordFailure (.ok now)).1.Sound := by
  have hs := h.successes_lt valid
  have hnow : some now ≠ none := Option.some_ne_none now
  show (b.countFailure.dateFailure now).Sound
  unfold dateFailure countFailure
  by_cases ht : b.config.failureThreshold.toNat ≤ countUp b.failures
  · -- Wherever the breaker stood, it is open now.
    simp only [if_pos ht]
    constructor
    case closed =>
      intro hn
      cases hn
    case halfOpen =>
      intro hn
      cases hn
    case opened =>
      intro _
      exact ⟨ht, hs, hnow⟩
    case undated =>
      intro hn
      exact absurd hn hnow
  · simp only [if_neg ht]
    have hlt := Nat.lt_of_not_le ht
    constructor
    case closed =>
      intro hc
      exact ⟨hlt, (h.closed hc).2⟩
    case halfOpen =>
      intro hc
      exact ⟨hlt, (h.halfOpen hc).2⟩
    case opened =>
      -- An open breaker has met its threshold already, and no failure takes that back.
      intro hc
      exact absurd (le_countUp (h.opened hc).1) ht
    case undated =>
      intro hn
      exact absurd hn hnow

theorem config_isOpen (b : Breaker) (reading : Except Fault Instant) :
    (b.isOpen reading).1.config = b.config := by
  unfold Breaker.isOpen look
  split
  · rfl
  · split
    · split <;> rfl
    · rfl
    · rfl
  · rfl
  · rfl

theorem config_recordSuccess (b : Breaker) : b.recordSuccess.config = b.config := by
  unfold Breaker.recordSuccess
  split
  · rfl
  · split <;> rfl
  · rfl

theorem config_told (b : Breaker) (reading : Except Fault Instant) (command : Command) :
    (b.told reading command).config = b.config := by
  cases command with
  | look => exact b.config_isOpen reading
  | success => exact b.config_recordSuccess
  | failure => cases reading <;> rfl
  | reset => rfl

/-- Every command given at a time that can be named keeps a breaker sound. -/
theorem Sound.told (h : b.Sound) (valid : b.config.validate = .ok ()) {clock : Clock}
    (hr : clock.Readable) (command : Command) : (b.told clock.read command).Sound := by
  cases command with
  | look => exact h.isOpen valid _
  | success => exact h.recordSuccess valid
  | failure =>
    rw [Clock.read_of_readable hr]
    exact h.recordFailure valid _
  | reset => exact sound_fresh valid

theorem Sound.replay (h : b.Sound) (valid : b.config.validate = .ok ())
    {history : List (Clock × Command)} (readable : ∀ entry ∈ history, entry.1.Readable) :
    (b.replay history).Sound ∧ (b.replay history).config = b.config := by
  induction history generalizing b with
  | nil => exact ⟨h, rfl⟩
  | cons entry history ih =>
    have hconfig := b.config_told entry.1.read entry.2
    have first := h.told valid (readable entry List.mem_cons_self) entry.2
    obtain ⟨hsound, hsame⟩ := ih first (hconfig ▸ valid)
      fun later hl => readable later (List.mem_cons_of_mem _ hl)
    exact ⟨hsound, hsame.trans hconfig⟩

/-- A breaker can tell how long it stays open exactly while it is open. -/
theorem Sound.snapshot (h : b.Sound) {clock : Clock} (hr : clock.Readable) :
    ∃ view, b.snapshot clock.read = .ok view ∧
      (view.remaining.isSome = true ↔ b.circuit = .opened) ∧
      ∀ r ∈ view.remaining, r ≤ b.config.timeout := by
  cases hl : b.lastFailure with
  | none =>
    have hview : b.snapshot clock.read = .ok ⟨b.circuit, b.failures, b.successes, none, none⟩ := by
      simp only [Breaker.snapshot, hl]
    have hne : ¬ b.circuit = .opened := fun hc => (h.opened hc).2.2 hl
    refine ⟨_, hview, ?_, fun r hm => ?_⟩
    · simp only [Option.isSome_none, Bool.false_eq_true, hne]
    · cases hm
  | some t =>
    have hview : b.snapshot clock.read = .ok (b.snapshotAt ⟨clock.elapsed.nanos, hr⟩) := by
      simp only [Breaker.snapshot, hl, Clock.read_of_readable hr]
    refine ⟨_, hview, ?_⟩
    by_cases hc : b.circuit = .opened
    · have hremaining : (b.snapshotAt ⟨clock.elapsed.nanos, hr⟩).remaining =
          some (b.config.timeout.monus (Instant.since ⟨clock.elapsed.nanos, hr⟩ t)) := by
        simp only [snapshotAt, hl, hc, ↓reduceIte, Option.map_some]
      rw [hremaining]
      refine ⟨⟨fun _ => hc, fun _ => rfl⟩, fun r hm => ?_⟩
      rw [← Option.some.inj hm]
      exact Nat.sub_le _ _
    · have hremaining : (b.snapshotAt ⟨clock.elapsed.nanos, hr⟩).remaining = none := if_neg hc
      rw [hremaining]
      refine ⟨⟨fun hn => ?_, fun hn => absurd hn hc⟩, fun r hm => ?_⟩
      · cases hn
      · cases hm

/-- Only a breaker that stays open rejects. -/
theorem opened_of_isOpen {reading : Except Fault Instant} (h : (b.isOpen reading).2 = .ok true) :
    (b.isOpen reading).1.circuit = .opened := by
  unfold Breaker.isOpen at h ⊢
  split at h
  · cases h
  · exact eq_of_beq (Except.ok.inj h)
  · cases h
  · cases h

end Breaker

/-- A rejection tells how long to wait, which is no longer than the cooldown. -/
def Outcome.Guides (cooldown : Duration) : Outcome → Prop
  | .error (.circuitOpen remaining) => ∃ r, remaining = some r ∧ r ≤ cooldown
  | _ => True

theorem Outcome.guides_of_ending (cooldown : Duration) (x : Ending) (hx : x.isCircuitOpen = false) :
    Outcome.Guides cooldown (.error x) := by
  cases x with
  | circuitOpen remaining => cases hx
  | _ => trivial

namespace Engine

variable {Room : Type} {e : Engine Room} {custody : Custody e.scheduler}
  {s t : State Room} {id left : Nat} {c : Continuation} {a : Action Room}
  {as : List (Action Room)}

/-! ### The breaker of an engine -/

/-- The breaker of the engine, if it has one, is sound and keeps its limits. -/
def Guarded (e : Engine Room) (s : State Room) : Prop :=
  ∀ b ∈ s.breaker, b.Sound ∧ b.config = e.policy.breaker

theorem Guarded.replay (h : e.Guarded s) (valid : e.policy.breaker.validate = .ok ())
    {history : List (Clock × Command)} (readable : ∀ entry ∈ history, entry.1.Readable)
    (hb : t.breaker = s.breaker.map (·.replay history)) : e.Guarded t := by
  intro b hm
  rw [hb] at hm
  obtain ⟨old, hold, rfl⟩ := Option.map_eq_some_iff.mp hm
  obtain ⟨hsound, hconfig⟩ := h old hold
  rw [← hconfig] at valid
  obtain ⟨hs, hc⟩ := hsound.replay valid readable
  exact ⟨hs, hc.trans hconfig⟩

theorem Guarded.acted (h : e.Guarded s) (valid : e.policy.breaker.validate = .ok ())
    (custody : Custody e.scheduler) (acted : Acted e s a t) (hs : s.clock.Readable)
    (ht : t.clock.Readable) : e.Guarded t := by
  apply h.replay valid _ (acted.records custody ht)
  intro entry hm
  -- The action itself is told at the time before it, its outcomes at the time after it.
  rcases List.mem_append.mp hm with hm | hm
  · exact clock_of_commands hm ▸ hs
  · exact clock_of_recorded hm ▸ ht

theorem guarded_initial (e : Engine Room) (valid : e.policy.breaker.validate = .ok ())
    (room : Room) : e.Guarded (initial e room) := by
  intro b hm
  change (if e.policy.breakerEnabled then some (Breaker.fresh e.policy.breaker) else none) =
    some b at hm
  split at hm
  · cases hm
    exact ⟨Breaker.sound_fresh valid, rfl⟩
  · cases hm

/-! ### Rejections -/

/-- Every rejection that the call was handed tells how long to wait. -/
def State.Guides (cooldown : Duration) (s : State Room) (id : Nat) : Prop :=
  ∀ o ∈ (s.call id).delivered, Outcome.Guides cooldown o

variable {cooldown : Duration}

/-- Every outcome that the call was handed is one of those. -/
def State.Yields (those : Outcome → Prop) (s : State Room) (id : Nat) : Prop :=
  ∀ o ∈ (s.call id).delivered, those o

variable {those : Outcome → Prop}

theorem State.Yields.of_delivered (h : s.Yields those id)
    (hd : (t.call id).delivered = (s.call id).delivered) : t.Yields those id := by
  intro o ho
  rw [hd] at ho
  exact h o ho

theorem State.Yields.concat {o : Outcome} (h : s.Yields those id) (ho : those o)
    (hd : (t.call id).delivered = (s.call id).delivered ++ [o]) : t.Yields those id := by
  intro o' hm
  rw [hd] at hm
  rcases List.mem_append.mp hm with hm | hm
  · exact h o' hm
  · rw [List.mem_singleton.mp hm]
    exact ho

theorem State.Yields.failed {x : Ending} (h : s.Yields those id) (hid : id < s.calls.length)
    (hx : those (.error x)) : (s.failed id x).Yields those id := by
  by_cases hdated : s.Dated
  · have hcall := State.call_of_modify (State.failed_calls_of_dated hdated id x) hid
    exact h.concat hx (congrArg Call.delivered hcall)
  · have hcall := State.call_congr (State.failed_calls_of_not_dated hdated id x) id
    exact h.of_delivered (congrArg Call.delivered hcall)

/-- No attempt ends its call with a rejection. -/
theorem Course.yields (course : Course e id left c s t) (hid : id < s.calls.length)
    (hvalue : ∀ v, those (.ok v))
    (hending : ∀ x : Ending, x.isCircuitOpen = false → those (.error x))
    (h : s.Yields those id) : t.Yields those id := by
  -- Only the gate rejects, and an attempt is made behind it.
  induction course with
  | @cancelled left c s hc =>
    have hcall := State.call_of_modify (State.deliver_calls s id
      (.error (.cancelled (c.attempt - 1)))) hid
    exact h.concat (hending _ rfl) (congrArg Call.delivered hcall)
  | @succeeded left c s v hc hi =>
    have hinvoked := State.part_of_modify Call.delivered (State.invoked_calls s id c.attempt)
      (fun _ => rfl) id
    have hlen := State.length_of_modify (State.invoked_calls s id c.attempt)
    have hcall := State.call_of_modify (State.succeed_calls (s.invoked id c.attempt) id v)
      (hlen ▸ hid)
    exact (h.of_delivered hinvoked).concat (hvalue v) (congrArg Call.delivered hcall)
  | @failed left c s x hc why =>
    have hinvoked := State.part_of_modify Call.delivered (State.invoked_calls s id c.attempt)
      (fun _ => rfl) id
    have hlen := State.length_of_modify (State.invoked_calls s id c.attempt)
    have hx : x.isCircuitOpen = false := by
      cases why <;> rfl
    exact (h.of_delivered hinvoked).failed (hlen ▸ hid) (hending x hx)
  | @unscheduled left c s f handling refusal hc hr cause ha hh =>
    have hasked := State.part_of_modify Call.delivered (asked_calls e id c s) (fun _ => rfl) id
    have hlen := State.length_of_modify (asked_calls e id c s)
    exact (h.of_delivered hasked).failed (hlen ▸ hid) (hending _ rfl)
  | @stalled left c s f pause contained refusal fault hc hr ha hp =>
    have hasked := State.part_of_modify Call.delivered (asked_calls e id c s) (fun _ => rfl) id
    have hlen := State.length_of_modify (asked_calls e id c s)
    have hback : ((e.asked id c s).1.withRoom (counted id c s).room).Yields those id :=
      h.of_delivered hasked
    exact hback.failed (hlen ▸ hid) (hending _ rfl)
  | @held left c s f hc hr ha =>
    have hasked := State.part_of_modify Call.delivered (asked_calls e id c s) (fun _ => rfl) id
    have hheld := State.part_of_modify Call.delivered
      (State.hold_calls (e.asked id c s).1 id (c.next e.policy)) (fun _ => rfl) id
    exact (h.of_delivered hasked).of_delivered hheld
  | @again left c s t f pause contained refusal clock hc hr ha hp rest ih =>
    have hasked := State.part_of_modify Call.delivered (asked_calls e id c s) (fun _ => rfl) id
    have hlen := State.length_of_modify (asked_calls e id c s)
    exact ih (hlen ▸ hid) (h.of_delivered hasked)

/-- The breaker that rejects a call is open behind the gate, and can tell how long it stays open. -/
theorem Guarded.guides (h : e.Guarded s) (valid : e.policy.breaker.validate = .ok ())
    (hs : s.clock.Readable) {name : String} {operation : Operation} {options : Options}
    {remaining : Option Duration}
    (hl : (s.enroll name operation options.token).look.2 = .ok true)
    (hr : (s.gated name operation options).remaining = .ok remaining) :
    Outcome.Guides e.policy.breaker.timeout (.error (.circuitOpen remaining)) := by
  have hgate := gated_breaker s name operation options
  have hclock := State.gated_clock s name operation options
  obtain ⟨tokens, he⟩ := State.enroll_eq s name operation options.token
  cases hb : s.breaker with
  | none =>
    simp only [he, State.look, hb] at hl
    cases hl
  | some b =>
    simp only [he, State.look, hb] at hl
    simp only [hb, Option.map_some] at hgate
    simp only [State.remaining, hgate, hclock] at hr
    obtain ⟨hsound, hconfig⟩ := h b hb
    have hvalid : b.config.validate = .ok () := hconfig ▸ valid
    have hopened := Breaker.opened_of_isOpen hl
    obtain ⟨view, hview, hiff, hle⟩ := (hsound.isOpen hvalid s.clock.read).snapshot hs
    rw [hview] at hr
    cases hr
    obtain ⟨r, hremaining⟩ := Option.isSome_iff_exists.mp (hiff.mpr hopened)
    have hbound := hle r hremaining
    rw [b.config_isOpen, hconfig] at hbound
    exact ⟨r, hremaining, hbound⟩

theorem Turn.guides (turn : Turn e id s t) (h : s.Guides e.policy.breaker.timeout id)
    (guarded : e.Guarded s) (valid : e.policy.breaker.validate = .ok ())
    (hs : s.clock.Readable) : t.Guides e.policy.breaker.timeout id := by
  -- A call that has just got past the gate was handed nothing.
  have new (name : String) (operation : Operation) (options : Options) :
      ((s.gated name operation options).call s.calls.length).delivered = [] := by
    rw [State.call_append_last (State.gated_calls s name operation options)]
  have none (name : String) (operation : Operation) (options : Options) :
      (s.gated name operation options).Yields (Outcome.Guides e.policy.breaker.timeout)
        s.calls.length := by
    intro o ho
    rw [new] at ho
    cases ho
  have free := Outcome.guides_of_ending e.policy.breaker.timeout
  replace h : s.Yields (Outcome.Guides e.policy.breaker.timeout) id := h
  change t.Yields (Outcome.Guides e.policy.breaker.timeout) id
  cases turn with
  | passed hp => exact h.of_delivered hp.delivered
  | @barred name operation options hid ht =>
    subst hid ht
    exact (none name operation options).of_delivered (passes_dropHandle _ _ _).delivered
  | @rejected name operation options remaining hid hl hr ht =>
    subst hid ht
    have hlen := State.lt_length_gated s name operation options
    have hcall := State.call_of_modify (State.deliver_calls (s.gated name operation options)
      s.calls.length (.error (.circuitOpen remaining))) hlen
    exact (none name operation options).concat (guarded.guides valid hs hl hr)
      (congrArg Call.delivered hcall)
  | @started name operation options deadline u hid course ht =>
    subst hid
    have hu := course.yields (State.lt_length_gated s name operation options) (fun _ => trivial)
      free (none name operation options)
    rcases ht with rfl | rfl
    · exact hu
    · exact hu.of_delivered (passes_dropHandle _ _ _).delivered
  | @resumed room c hw course =>
    have hid := State.known_of_waiting hw
    have hreleased := congrArg Call.delivered (released_call hid room)
    exact course.yields (lt_length_released hid room) (fun _ => trivial) free
      (h.of_delivered hreleased)
  | @dropped room c hw ht =>
    subst ht
    have hid := State.known_of_waiting hw
    have hreleased := congrArg Call.delivered (released_call hid room)
    exact (h.of_delivered hreleased).failed (lt_length_released hid room) trivial

theorem Run.guides {room : Room} (valid : e.policy.breaker.validate = .ok ())
    (run : Run e custody (fun u => u.clock.Readable) (initial e room) as s) :
    e.Guarded s ∧ ∀ id, s.Guides e.policy.breaker.timeout id := by
  apply run.invariant fun u => e.Guarded u ∧ ∀ id, u.Guides e.policy.breaker.timeout id
  · refine ⟨guarded_initial e valid room, fun id o ho => ?_⟩
    have hcall : (initial e room).call id = .blank := State.call_of_length_le (Nat.zero_le id)
    rw [hcall] at ho
    cases ho
  · rintro u a ⟨guarded, guides⟩ _ hu ht
    have acted := act_acted e u a
    refine ⟨guarded.acted valid custody acted hu ht, fun id => ?_⟩
    exact (acted.turn custody id).guides (guides id) guarded valid hu

/-- In every history that can be dated, what a breaker has counted fits with where it stands, and at
every time it tells how long it stays open exactly while it is open. An engine with such a breaker
therefore rejects no call without telling how long to wait. -/
theorem breaker_sound {config : BreakerConfig} (valid : config.validate = .ok ()) :
    (∀ history : List (Clock × Command), (∀ entry ∈ history, entry.1.Readable) →
      let b := (Breaker.fresh config).replay history
      b.Sound ∧ b.config = config ∧
      ∀ clock : Clock, clock.Readable → ∃ view, b.snapshot clock.read = .ok view ∧
        (view.remaining.isSome = true ↔ b.circuit = .opened) ∧
        ∀ r ∈ view.remaining, r ≤ config.timeout) ∧
    (∀ {Room : Type} (e : Engine Room) (custody : Custody e.scheduler) (room : Room)
      (as : List (Action Room)) (s : State Room), e.policy.breaker = config →
      Run e custody (fun u => u.clock.Readable) (initial e room) as s →
      ∀ id remaining, .error (.circuitOpen remaining) ∈ (s.call id).delivered →
        ∃ r, remaining = some r ∧ r ≤ config.timeout) := by
  constructor
  · intro history readable b
    obtain ⟨hsound, hsame⟩ := (Breaker.sound_fresh valid).replay valid readable
    have hconfig : b.config = config := hsame
    refine ⟨hsound, hconfig, fun clock hr => ?_⟩
    obtain ⟨view, hview, hiff, hle⟩ := hsound.snapshot hr
    rw [hconfig] at hle
    exact ⟨view, hview, hiff, hle⟩
  · intro Room e custody room as s hconfig run id remaining hm
    subst hconfig
    exact (run.guides valid).2 id _ hm

/-- A failure opens the breaker, which stays sound, and the call rejected next is told to wait. -/
theorem breaker_sound_rejected :
    brittle.policy.breaker.validate = .ok () ∧
    Clock.start.Readable ∧
    ((Breaker.fresh brittle.policy.breaker).replay [(.start, .failure)]).Sound ∧
    Run brittle brittleCustody (fun u => u.clock.Readable) (initial brittle (.empty none))
      [startRefused, startRefused] (brittle.act brittleTripped startRefused) ∧
    ∃ r, ((brittle.act brittleTripped startRefused).call 1).delivered =
      [.error (.circuitOpen (some r))] ∧ r ≤ .ofSeconds 30 := by
  have valid : brittle.policy.breaker.validate = .ok () :=
    ConfigError.firstOf_eq_ok.mpr (by decide)
  have run := run_brittleTripped.snoc (a := startRefused) trivial (by decide)
  obtain ⟨histories, rejections⟩ := breaker_sound valid
  obtain ⟨hsound, -, -⟩ := histories [(.start, .failure)] fun entry hm => by
    rw [List.mem_singleton.mp hm]
    exact Clock.start_readable
  have hdelivered : ((brittle.act brittleTripped startRefused).call 1).delivered =
      [.error (.circuitOpen (some (.ofSeconds 30)))] := by decide
  obtain ⟨r, hr, hle⟩ := rejections brittle brittleCustody _ _ _ rfl run 1 _
    (hdelivered ▸ List.mem_cons_self)
  cases hr
  exact ⟨valid, Clock.start_readable, hsound, run, .ofSeconds 30, hdelivered, hle⟩

end Engine

end Reattempt
