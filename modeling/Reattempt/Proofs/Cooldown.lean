import Reattempt.Proofs.BreakerStates

/-!
The cooldown of a breaker, over everything that is done with it. A failure that leaves the breaker
open starts a cooldown: every look within it rejects and changes nothing, and every further failure
starts it anew. The first look after it admits a probe. Main statement: `cooldown_gates`.
-/
namespace Reattempt

namespace Breaker

/-- What can be done with a breaker. -/
inductive Use where
  | isOpen
  | recordSuccess
  | recordFailure
  | reset
  | state
  | snapshot
  deriving DecidableEq

/-- What a use of a breaker answers. -/
inductive Reply where
  | looked (rejects : Except Fault Bool)
  | recorded (fault : Option Fault)
  | state (circuit : Circuit)
  | view (view : Except Fault BreakerSnapshot)

/-- The breaker after a use of it, and the answer. -/
def use (b : Breaker) (reading : Except Fault Instant) : Use → Breaker × Reply
  | .isOpen => ((b.isOpen reading).1, .looked (b.isOpen reading).2)
  | .recordSuccess => (b.recordSuccess, .recorded none)
  | .recordFailure => ((b.recordFailure reading).1, .recorded (b.recordFailure reading).2)
  | .reset => (b.reset, .recorded none)
  | .state => (b, .state b.circuit)
  | .snapshot => (b, .view (b.snapshot reading))

/-- A use of a breaker, with the reading of the clock at the time and what it answered. -/
structure Used where
  reading : Except Fault Instant
  use : Use
  reply : Reply

/-- From a breaker to the one after a list of uses, each with the answer that it had. -/
inductive Uses : Breaker → List Used → Breaker → Prop
  | nil {b} : Uses b [] b
  | snoc {b u history} (uses : Uses b history u) (reading : Except Fault Instant) (use : Use) :
      Uses b (history ++ [⟨reading, use, (u.use reading use).2⟩]) (u.use reading use).1

/-- The instant of a failure that was recorded and could be dated. -/
def Used.failedAt? (used : Used) : Option Instant :=
  if used.use = .recordFailure then used.reading.toOption else none

/-- The instant of the most recent failure after one at `t`. -/
def latest (t : Instant) (since : List Used) : Instant :=
  since.foldl (fun t used => used.failedAt?.getD t) t

variable {b u : Breaker} {t now : Instant} {history since : List Used}

theorem latest_concat (t : Instant) (since : List Used) (used : Used) :
    latest t (since ++ [used]) = used.failedAt?.getD (latest t since) := by
  simp only [latest, List.foldl_append, List.foldl_cons, List.foldl_nil]

theorem Uses.of_concat {used : Used} (uses : Uses b (history ++ [used]) u) :
    ∃ v, Uses b history v ∧ used.reply = (v.use used.reading used.use).2 ∧
      u = (v.use used.reading used.use).1 := by
  generalize hall : history ++ [used] = all at uses
  cases uses with
  | nil => cases List.append_ne_nil_of_right_ne_nil history (List.cons_ne_nil used []) hall
  | @snoc v before uses reading use =>
    obtain ⟨rfl, hlast⟩ := List.append_inj' hall rfl
    cases hlast
    exact ⟨v, uses, rfl, rfl⟩

theorem config_use (b : Breaker) (reading : Except Fault Instant) (use : Use) :
    (b.use reading use).1.config = b.config := by
  cases use with
  | isOpen => exact b.config_isOpen reading
  | recordSuccess => exact b.config_recordSuccess
  | recordFailure => cases reading <;> rfl
  | _ => rfl

theorem Uses.config (uses : Uses b history u) : u.config = b.config := by
  induction uses with
  | nil => rfl
  | snoc uses reading use ih => exact (config_use _ reading use).trans ih

/-- Only an open breaker reads the clock. -/
theorem isOpen_of_not_opened (h : b.circuit ≠ .opened) (reading : Except Fault Instant) :
    b.isOpen reading = (b, .ok false) := by
  cases hc : b.circuit with
  | opened => exact absurd hc h
  | closed => simp only [isOpen, hc]
  | halfOpen => simp only [isOpen, hc]

/-! ### An open breaker -/

/-- The breaker is open, and `t` is when it last failed. -/
structure OpenSince (b : Breaker) (t : Instant) : Prop where
  circuit : b.circuit = .opened
  lastFailure : b.lastFailure = some t

/-- The breaker once its cooldown is over. -/
def probing (b : Breaker) : Breaker :=
  { b with circuit := .halfOpen, failures := 0, successes := 0 }

namespace OpenSince

/-- The cooldown ends strictly after its whole length. -/
theorem isOpen_of_le (h : b.OpenSince t) (hle : now.nanos ≤ t.nanos + b.config.timeout.nanos) :
    b.isOpen (.ok now) = (b, .ok true) := by
  have hwithin : ¬ b.config.timeout < now.since t := by
    change ¬ b.config.timeout.nanos < now.nanos - t.nanos
    omega
  have hlook : b.look now = b := by
    simp only [look, h.circuit, h.lastFailure, if_neg hwithin]
  simp only [isOpen, h.circuit, h.lastFailure, hlook]
  rfl

theorem isOpen_of_lt (h : b.OpenSince t) (hlt : t.nanos + b.config.timeout.nanos < now.nanos) :
    b.isOpen (.ok now) = (b.probing, .ok false) := by
  have hafter : b.config.timeout < now.since t := by
    change b.config.timeout.nanos < now.nanos - t.nanos
    omega
  have hlook : b.look now = b.probing := by
    simp only [look, probing, h.circuit, h.lastFailure, if_pos hafter]
  simp only [isOpen, h.circuit, h.lastFailure, hlook]
  rfl

/-- A look at a clock that cannot be read is no look. -/
theorem isOpen_of_fault (h : b.OpenSince t) (fault : Fault) :
    b.isOpen (.error fault) = (b, .error fault) := by
  simp only [isOpen, h.circuit, h.lastFailure]

/-- A success of a call that was admitted before the breaker opened. -/
theorem recordSuccess_eq (h : b.OpenSince t) : b.recordSuccess = b := by
  simp only [recordSuccess, h.circuit]

/-- A failure while the breaker is open starts the cooldown anew. -/
theorem recordFailure (h : b.OpenSince t) (now : Instant) :
    (b.recordFailure (.ok now)).1.OpenSince now where
  circuit := by
    change (if _ then Circuit.opened else b.circuit) = .opened
    rw [h.circuit, ite_self]
  lastFailure := rfl

/-- A failure that cannot be dated is counted, and leaves the cooldown as it is. -/
theorem recordFailure_of_fault (h : b.OpenSince t) (fault : Fault) :
    (b.recordFailure (.error fault)).1.OpenSince t := ⟨h.circuit, h.lastFailure⟩

/-- Until the breaker is reset or admits a probe it stays open since its most recent failure. -/
theorem use (h : b.OpenSince t) {used : Used}
    (hreply : used.reply = (b.use used.reading used.use).2) (hreset : used.use ≠ .reset)
    (hrejects : used.reply ≠ .looked (.ok false)) :
    (b.use used.reading used.use).1.OpenSince (used.failedAt?.getD t) := by
  obtain ⟨reading, use, reply⟩ := used
  cases use with
  | isOpen =>
    cases reading with
    | error fault =>
      change (b.isOpen (.error fault)).1.OpenSince t
      rw [h.isOpen_of_fault]
      exact h
    | ok now =>
      change (b.isOpen (.ok now)).1.OpenSince t
      by_cases hle : now.nanos ≤ t.nanos + b.config.timeout.nanos
      · rw [h.isOpen_of_le hle]
        exact h
      · -- A look after the cooldown would have admitted a probe.
        have hlook := h.isOpen_of_lt (Nat.lt_of_not_le hle)
        exact absurd (hreply.trans (congrArg (Reply.looked ∘ Prod.snd) hlook)) hrejects
  | recordSuccess =>
    change b.recordSuccess.OpenSince t
    rw [h.recordSuccess_eq]
    exact h
  | recordFailure =>
    cases reading with
    | error fault => exact h.recordFailure_of_fault fault
    | ok now => exact h.recordFailure now
  | reset => exact absurd rfl hreset
  | state => exact h
  | snapshot => exact h

theorem uses (h : b.OpenSince t) (uses : Uses b since u)
    (kept : ∀ used ∈ since, used.use ≠ .reset ∧ used.reply ≠ .looked (.ok false)) :
    u.OpenSince (latest t since) := by
  -- On the uses: before each one, the breaker is open since the latest failure among those so far.
  induction uses with
  | nil => exact h
  | @snoc v since uses reading use ih =>
    have before := ih fun used hm => kept used (List.mem_append_left _ hm)
    obtain ⟨hreset, hrejects⟩ := kept _ (List.mem_append_right _ List.mem_cons_self)
    rw [latest_concat]
    exact before.use rfl hreset hrejects

end OpenSince

/-! ### Where an open breaker comes from -/

/-- A failure that leaves the breaker open leaves it open since then. -/
theorem openSince_of_recordFailure (hopen : (b.recordFailure (.ok t)).1.circuit = .opened) :
    (b.recordFailure (.ok t)).1.OpenSince t := ⟨hopen, rfl⟩

/-- Only an open breaker within its cooldown rejects. -/
theorem openSince_of_isOpen (hopen : (b.isOpen (.ok now)).2 = .ok true) :
    ∃ t, b.OpenSince t ∧ now.nanos ≤ t.nanos + b.config.timeout.nanos := by
  by_cases hc : b.circuit = .opened
  · cases hl : b.lastFailure with
    | none =>
      simp only [isOpen, hc, hl] at hopen
      cases hopen
    | some t =>
      have since : b.OpenSince t := ⟨hc, hl⟩
      refine ⟨t, since, ?_⟩
      by_contra hlt
      rw [since.isOpen_of_lt (Nat.lt_of_not_le hlt)] at hopen
      cases hopen
  · rw [isOpen_of_not_opened hc] at hopen
    cases hopen

/-- A breaker learns of the instant of a failure from that failure. -/
theorem lastFailure_use (reading : Except Fault Instant) (use : Use)
    (hl : (b.use reading use).1.lastFailure = some t) :
    Used.failedAt? ⟨reading, use, (b.use reading use).2⟩ = some t ∨ b.lastFailure = some t := by
  -- Only a failure and a reset write the instant, and a reset forgets it.
  cases use with
  | isOpen =>
    refine .inr (Eq.trans ?_ hl)
    change b.lastFailure = (b.isOpen reading).1.lastFailure
    unfold isOpen look
    split
    · rfl
    · split
      · split <;> rfl
      · rfl
      · rfl
    · rfl
    · rfl
  | recordSuccess =>
    refine .inr (Eq.trans ?_ hl)
    change b.lastFailure = b.recordSuccess.lastFailure
    unfold recordSuccess
    split
    · rfl
    · split <;> rfl
    · rfl
  | recordFailure =>
    cases reading with
    | ok now => exact .inl hl
    | error fault => exact .inr hl
  | reset => cases hl
  | state => exact .inr hl
  | snapshot => exact .inr hl

theorem Uses.failed {config : BreakerConfig} (uses : Uses (fresh config) history u)
    (hl : u.lastFailure = some t) : ∃ used ∈ history, used.failedAt? = some t := by
  induction uses with
  | nil => cases hl
  | snoc uses reading use ih =>
    rcases lastFailure_use reading use hl with hnow | hbefore
    · exact ⟨_, List.mem_append_right _ List.mem_cons_self, hnow⟩
    · obtain ⟨used, hm, hfailed⟩ := ih hbefore
      exact ⟨used, List.mem_append_left _ hm, hfailed⟩

/-- After a failure that leaves a breaker open, and until it is reset or admits a probe, the breaker
is open: a look rejects and changes nothing until more than the cooldown has passed since the most
recent failure, the first look after that admits a probe and forgets both counts, a failure starts
the cooldown anew, and nothing else changes anything. Whenever a breaker rejects, a failure was
recorded no longer ago than the cooldown. The clock may even be set back: nothing has passed then.
-/
theorem cooldown_gates (config : BreakerConfig) :
    (∀ before since first reply b u,
      Uses (fresh config) (before ++ [⟨.ok first, .recordFailure, reply⟩]) b →
      b.circuit = .opened → Uses b since u →
      (∀ used ∈ since, used.use ≠ .reset ∧ used.reply ≠ .looked (.ok false)) →
      let last := latest first since
      u.circuit = .opened ∧
      (∀ now : Instant, now.nanos ≤ last.nanos + config.timeout.nanos →
        u.use (.ok now) .isOpen = (u, .looked (.ok true))) ∧
      (∀ now : Instant, last.nanos + config.timeout.nanos < now.nanos →
        u.use (.ok now) .isOpen = ({ u with circuit := .halfOpen, failures := 0, successes := 0 },
          .looked (.ok false))) ∧
      (∀ now : Instant, ∃ v, u.use (.ok now) .recordFailure = (v, .recorded none) ∧
        v.circuit = .opened ∧ v.lastFailure = some now) ∧
      ∀ reading, (u.use reading .recordSuccess).1 = u ∧ (u.use reading .state).1 = u ∧
        (u.use reading .snapshot).1 = u) ∧
    ∀ history u (now : Instant), Uses (fresh config) history u →
      (u.use (.ok now) .isOpen).2 = .looked (.ok true) →
      ∃ used ∈ history, ∃ t, used.failedAt? = some t ∧
        now.nanos ≤ t.nanos + config.timeout.nanos := by
  constructor
  · intro before since first reply b u uses hopen later kept last
    have hconfig : u.config = config := later.config.trans uses.config
    obtain ⟨v, -, -, hb⟩ := uses.of_concat
    have failed : b.OpenSince first := by
      subst hb
      exact openSince_of_recordFailure hopen
    have stays : u.OpenSince last := failed.uses later kept
    refine ⟨stays.circuit, fun now hle => ?_, fun now hlt => ?_, fun now => ?_, fun reading => ?_⟩
    · rw [← hconfig] at hle
      simp only [Breaker.use, stays.isOpen_of_le hle]
    · rw [← hconfig] at hlt
      simp only [Breaker.use, stays.isOpen_of_lt hlt]
      rfl
    · have anew := stays.recordFailure now
      exact ⟨_, rfl, anew.circuit, anew.lastFailure⟩
    · exact ⟨stays.recordSuccess_eq, rfl, rfl⟩
  · intro history u now uses hrejects
    obtain ⟨t, since, hle⟩ := openSince_of_isOpen (Reply.looked.inj hrejects)
    rw [uses.config] at hle
    obtain ⟨used, hm, hfailed⟩ := uses.failed since.lastFailure
    exact ⟨used, hm, t, hfailed, hle⟩

/-- One failure opens it, for thirty seconds. -/
def touchy : BreakerConfig := ⟨1, .ofSeconds 30, 1⟩

/-- A failure at the start, a look after ten seconds and another failure after twenty. -/
def renewed : List Used :=
  [⟨.ok ⟨0, by decide⟩, .recordFailure, .recorded none⟩,
    ⟨.ok ⟨10 * 10 ^ 9, by decide⟩, .isOpen, .looked (.ok true)⟩,
    ⟨.ok ⟨20 * 10 ^ 9, by decide⟩, .recordFailure, .recorded none⟩]

/-- The second failure starts the cooldown anew: a look at fifty seconds is still too early. -/
theorem cooldown_gates_renewed : ∃ b u : Breaker,
    Uses (fresh touchy) (renewed.take 1) b ∧ b.circuit = .opened ∧
    Uses b (renewed.drop 1) u ∧ Uses (fresh touchy) renewed u ∧
    (∀ used ∈ renewed.drop 1, used.use ≠ .reset ∧ used.reply ≠ .looked (.ok false)) ∧
    u.use (.ok ⟨50 * 10 ^ 9, by decide⟩) .isOpen = (u, .looked (.ok true)) ∧
    (u.use (.ok ⟨50 * 10 ^ 9 + 1, by decide⟩) .isOpen).2 = .looked (.ok false) ∧
    ∃ used ∈ renewed, ∃ t, used.failedAt? = some t ∧ 50 * 10 ^ 9 ≤ t.nanos + 30 * 10 ^ 9 := by
  have opened : Uses (fresh touchy) (renewed.take 1) _ :=
    Uses.nil.snoc (.ok ⟨0, by decide⟩) .recordFailure
  have later : Uses ((fresh touchy).use (.ok ⟨0, by decide⟩) .recordFailure).1
      (renewed.drop 1) _ :=
    (Uses.nil.snoc (.ok ⟨10 * 10 ^ 9, by decide⟩) .isOpen).snoc
      (.ok ⟨20 * 10 ^ 9, by decide⟩) .recordFailure
  have whole : Uses (fresh touchy) renewed _ :=
    (opened.snoc (.ok ⟨10 * 10 ^ 9, by decide⟩) .isOpen).snoc
      (.ok ⟨20 * 10 ^ 9, by decide⟩) .recordFailure
  have kept : ∀ used ∈ renewed.drop 1,
      used.use ≠ .reset ∧ used.reply ≠ .looked (.ok false) := by
    intro used hm
    simp only [renewed, List.drop_succ_cons, List.drop_zero, List.mem_cons, List.not_mem_nil,
      or_false] at hm
    rcases hm with rfl | rfl <;> simp
  obtain ⟨gate, rejected⟩ := cooldown_gates touchy
  obtain ⟨-, within, after, -, -⟩ := gate [] _ _ _ _ _ opened rfl later kept
  have hrejects := within ⟨50 * 10 ^ 9, by decide⟩ (by decide)
  have hadmits := after ⟨50 * 10 ^ 9 + 1, by decide⟩ (by decide)
  refine ⟨_, _, opened, rfl, later, whole, kept, hrejects, congrArg Prod.snd hadmits, ?_⟩
  exact rejected _ _ _ whole (congrArg Prod.snd hrejects)

end Breaker

end Reattempt
