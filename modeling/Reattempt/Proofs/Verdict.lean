import Mathlib.Data.List.Induction
import Reattempt.Proofs.Surplus

/-!
The verdict on a half-open breaker. While it lets probes through it counts their successes and their
failures apart, and neither takes anything back from the other. The count that reaches its limit
first decides: enough successes close the breaker, enough failures open it, and a new cooldown
begins with the last of them. Main statement: `half_open_verdict`.
-/
namespace Reattempt.Breaker

/-- There are too few successes to close a half-open breaker and too few failures to open it. -/
def Undecided (config : BreakerConfig) (history : List Used) : Prop :=
  times .recordSuccess history < config.minCalls.toNat ∧
    times .recordFailure history < config.failureThreshold.toNat

/-- The last success that was needed has come, before the last failure. -/
def Recovered (config : BreakerConfig) (history : List Used) : Prop :=
  times .recordSuccess history = config.minCalls.toNat ∧
    times .recordFailure history < config.failureThreshold.toNat

/-- The last failure that was needed has come, before the last success. -/
def Relapsed (config : BreakerConfig) (history : List Used) : Prop :=
  times .recordFailure history = config.failureThreshold.toNat ∧
    times .recordSuccess history < config.minCalls.toNat

instance (config : BreakerConfig) (history : List Used) : Decidable (Undecided config history) :=
  inferInstanceAs (Decidable (_ ∧ _))

instance (config : BreakerConfig) (history : List Used) : Decidable (Recovered config history) :=
  inferInstanceAs (Decidable (_ ∧ _))

instance (config : BreakerConfig) (history : List Used) : Decidable (Relapsed config history) :=
  inferInstanceAs (Decidable (_ ∧ _))

/-- A half-open breaker that has counted just what a history holds. -/
structure OnTrial (u : Breaker) (history : List Used) : Prop where
  circuit : u.circuit = .halfOpen
  failures : u.failures = times .recordFailure history
  successes : u.successes = times .recordSuccess history

variable {b u : Breaker} {config : BreakerConfig} {history : List Used} {used : Used}

theorem times_concat (use : Use) (history : List Used) (used : Used) :
    times use (history ++ [used]) = times use history + if used.use = use then 1 else 0 := by
  rw [times_append]
  by_cases h : used.use = use <;> simp [times, h]

theorem Undecided.of_concat (h : Undecided config (history ++ [used])) :
    Undecided config history := by
  have hsuccesses := times_append .recordSuccess history [used]
  have hfailures := times_append .recordFailure history [used]
  obtain ⟨hs, hf⟩ := h
  constructor <;> omega

/-- One use decides at most one way. -/
theorem Undecided.concat (h : Undecided config history) (used : Used) :
    Undecided config (history ++ [used]) ∨
      used.use = .recordSuccess ∧ Recovered config (history ++ [used]) ∨
      used.use = .recordFailure ∧ Relapsed config (history ++ [used]) := by
  obtain ⟨hs, hf⟩ := h
  unfold Undecided Recovered Relapsed
  rw [times_concat, times_concat]
  cases used.use with
  | recordSuccess =>
    simp only [↓reduceIte, reduceCtorEq, true_and, false_and, or_false, Nat.add_zero]
    omega
  | recordFailure =>
    simp only [↓reduceIte, reduceCtorEq, true_and, false_and, false_or, Nat.add_zero]
    omega
  | _ => exact .inl ⟨hs, hf⟩

/-- A history that decides has a first use that does. -/
theorem exists_verdict (start : Undecided config []) (h : ¬ Undecided config history) :
    ∃ before used, before ++ [used] <+: history ∧ Undecided config before ∧
      (used.use = .recordSuccess ∧ Recovered config (before ++ [used]) ∨
        used.use = .recordFailure ∧ Relapsed config (before ++ [used])) := by
  induction history using List.reverseRecOn with
  | nil => exact absurd start h
  | append_singleton history used ih =>
    by_cases hbefore : Undecided config history
    · exact ⟨history, used, List.prefix_rfl, hbefore, (hbefore.concat used).resolve_left h⟩
    · obtain ⟨before, first, hbegins, decided⟩ := ih hbefore
      exact ⟨before, first, hbegins.trans (List.prefix_append history [used]), decided⟩

/-! ### On trial -/

theorem undecided_nil (valid : config.validate = .ok ()) : Undecided config [] :=
  ⟨config.minCalls_pos valid, config.failureThreshold_pos valid⟩

theorem recordSuccess_of_halfOpen (h : u.circuit = .halfOpen)
    (hlt : u.successes < u.config.minCalls.toNat) : u.recordSuccess =
      if u.config.minCalls.toNat ≤ u.successes + 1 then
        { u with circuit := .closed, failures := 0, successes := 0 }
      else { u with successes := u.successes + 1 } := by
  have hcount : countUp u.successes = u.successes + 1 := by
    have hmax : u.config.minCalls.toNat < 2 ^ 32 := u.config.minCalls.toNat_lt
    unfold countUp
    omega
  simp only [recordSuccess, h, hcount]

/-- A use that does not decide adds to the count of its own kind. -/
theorem OnTrial.use (h : u.OnTrial history) (reading : Except Fault Instant) (use : Use)
    (plain : Used.Plain ⟨reading, use, (u.use reading use).2⟩)
    (undecided : Undecided u.config (history ++ [⟨reading, use, (u.use reading use).2⟩])) :
    (u.use reading use).1.OnTrial (history ++ [⟨reading, use, (u.use reading use).2⟩]) := by
  have unmoved (hsame : (u.use reading use).1 = u) (hs : use ≠ .recordSuccess)
      (hf : use ≠ .recordFailure) :
      (u.use reading use).1.OnTrial (history ++ [⟨reading, use, (u.use reading use).2⟩]) := by
    rw [hsame]
    refine ⟨h.circuit, ?_, ?_⟩
    · rw [times_concat, if_neg hf]
      exact h.failures
    · rw [times_concat, if_neg hs]
      exact h.successes
  obtain ⟨hs, hf⟩ := undecided
  rw [times_concat, ← h.successes] at hs
  rw [times_concat, ← h.failures] at hf
  cases use with
  | reset => exact absurd rfl plain.1
  | state => exact unmoved rfl (by decide) (by decide)
  | snapshot => exact unmoved rfl (by decide) (by decide)
  | isOpen =>
    have hopen : u.circuit ≠ .opened := by
      rw [h.circuit]
      exact Circuit.noConfusion
    have hsame := congrArg Prod.fst (isOpen_of_not_opened hopen reading)
    exact unmoved hsame (by decide) (by decide)
  | recordSuccess =>
    rw [if_pos rfl] at hs
    have hafter : u.recordSuccess = { u with successes := u.successes + 1 } := by
      rw [recordSuccess_of_halfOpen h.circuit (by omega), if_neg (by omega)]
    change u.recordSuccess.OnTrial _
    rw [hafter]
    refine ⟨h.circuit, ?_, ?_⟩
    · rw [times_concat]
      exact h.failures
    · rw [times_concat]
      exact congrArg (· + 1) h.successes
  | recordFailure =>
    obtain ⟨now, hnow⟩ := plain.2 rfl
    cases hnow
    rw [if_pos rfl] at hf
    have hafter : (u.recordFailure (.ok now)).1 =
        { u with failures := u.failures + 1, lastFailure := some now } := by
      rw [recordFailure_of_lt (by omega), if_neg (by omega)]
    change (u.recordFailure (.ok now)).1.OnTrial _
    rw [hafter]
    refine ⟨h.circuit, ?_, ?_⟩
    · rw [times_concat]
      exact congrArg (· + 1) h.failures
    · rw [times_concat]
      exact h.successes

theorem Uses.onTrial (uses : Uses b history u) (start : b.OnTrial [])
    (plain : ∀ used ∈ history, used.Plain) (undecided : Undecided b.config history) :
    u.OnTrial history := by
  induction uses with
  | nil => exact start
  | @snoc v history uses reading use ih =>
    have before := ih (fun used hm => plain used (List.mem_append_left _ hm)) undecided.of_concat
    rw [← uses.config] at undecided
    exact before.use reading use (plain _ (List.mem_append_right _ List.mem_cons_self)) undecided

/-! ### The verdict -/

/-- The success with which there are enough closes the breaker, and all counting begins anew. -/
theorem OnTrial.recordSuccess (h : u.OnTrial history)
    (enough : times .recordSuccess history + 1 = u.config.minCalls.toNat) :
    u.recordSuccess = { u with circuit := .closed, failures := 0, successes := 0 } := by
  rw [← h.successes] at enough
  rw [recordSuccess_of_halfOpen h.circuit (by omega), if_pos (by omega)]

/-- The failure with which there are enough opens the breaker, since that very instant. -/
theorem OnTrial.recordFailure (h : u.OnTrial history)
    (enough : times .recordFailure history + 1 = u.config.failureThreshold.toNat) (now : Instant) :
    (u.recordFailure (.ok now)).1.OpenSince now := by
  rw [← h.failures] at enough
  apply openSince_of_recordFailure
  rw [recordFailure_of_lt (by omega), if_pos (by omega)]

/-- An open breaker rejects until its cooldown is over, and then admits a probe. -/
theorem OpenSince.isOpen {t : Instant} (h : u.OpenSince t) (now : Instant) :
    u.isOpen (.ok now) = if now.nanos ≤ t.nanos + u.config.timeout.nanos then (u, .ok true)
      else (u.probing, .ok false) := by
  split
  · next hle => exact h.isOpen_of_le hle
  · next hlt => exact h.isOpen_of_lt (Nat.lt_of_not_le hlt)

/-- A breaker that has just become half-open is so until the successes or the failures are enough;
it counts both, none of them takes anything back from the others, and no look at it rejects. The
success that comes to be enough first closes it, with both counts at zero; the failure that does so
opens it, for a cooldown from then on; and no history goes on without one of them that has enough of
either. -/
theorem half_open_verdict (valid : b.config.validate = .ok ()) (halfOpen : b.circuit = .halfOpen)
    (hfailures : b.failures = 0) (hsuccesses : b.successes = 0) (uses : Uses b history u)
    (plain : ∀ used ∈ history, used.Plain) :
    (Undecided b.config history →
      u.circuit = .halfOpen ∧ u.failures = times .recordFailure history ∧
      u.successes = times .recordSuccess history ∧ ∀ reading, u.isOpen reading = (u, .ok false)) ∧
    (∀ before reading reply, history = before ++ [⟨reading, .recordSuccess, reply⟩] →
      Recovered b.config history →
        u.circuit = .closed ∧ u.failures = 0 ∧ u.successes = 0) ∧
    (∀ before now reply, history = before ++ [⟨.ok now, .recordFailure, reply⟩] →
      Relapsed b.config history →
        u.circuit = .opened ∧ u.lastFailure = some now ∧ ∀ later : Instant,
          u.isOpen (.ok later) =
            if later.nanos ≤ now.nanos + b.config.timeout.nanos then (u, .ok true)
            else (u.probing, .ok false)) ∧
    (¬ Undecided b.config history → ∃ before used, before ++ [used] <+: history ∧
      Undecided b.config before ∧
      (used.use = .recordSuccess ∧ Recovered b.config (before ++ [used]) ∨
        used.use = .recordFailure ∧ Relapsed b.config (before ++ [used]))) := by
  have start : b.OnTrial [] := ⟨halfOpen, hfailures, hsuccesses⟩
  refine ⟨fun undecided => ?_, ?_, ?_, exists_verdict (undecided_nil valid)⟩
  · have trial := uses.onTrial start plain undecided
    have hopen : u.circuit ≠ .opened := by
      rw [trial.circuit]
      exact Circuit.noConfusion
    exact ⟨trial.circuit, trial.failures, trial.successes, isOpen_of_not_opened hopen⟩
  · rintro before reading reply rfl ⟨hs, hf⟩
    rw [times_concat, if_pos rfl] at hs
    rw [times_concat, if_neg fun h => nomatch h] at hf
    obtain ⟨v, earlier, -, rfl⟩ := uses.of_concat
    have trial := earlier.onTrial start (fun used hm => plain used (List.mem_append_left _ hm))
      ⟨by omega, hf⟩
    rw [← earlier.config] at hs
    change v.recordSuccess.circuit = .closed ∧ v.recordSuccess.failures = 0 ∧
      v.recordSuccess.successes = 0
    rw [trial.recordSuccess hs]
    exact ⟨rfl, rfl, rfl⟩
  · rintro before now reply rfl ⟨hf, hs⟩
    rw [times_concat, if_pos rfl] at hf
    rw [times_concat, if_neg fun h => nomatch h] at hs
    obtain ⟨v, earlier, -, rfl⟩ := uses.of_concat
    have trial := earlier.onTrial start (fun used hm => plain used (List.mem_append_left _ hm))
      ⟨hs, by omega⟩
    rw [← earlier.config] at hf
    have since : (v.use (.ok now) .recordFailure).1.OpenSince now := trial.recordFailure hf now
    refine ⟨since.circuit, since.lastFailure, fun later => ?_⟩
    rw [since.isOpen, uses.config]

/-- Two failures open it for thirty seconds, and two probes close it. -/
def cautious : BreakerConfig := ⟨2, .ofSeconds 30, 2⟩

/-- The breaker is half-open once it was looked at thirty-one seconds after two failures. -/
def released : Breaker :=
  ((((fresh cautious).recordFailure (.ok (second 0))).1.recordFailure (.ok (second 0))).1.isOpen
    (.ok (second 31))).1

/-- A failure and a success, with a look between them. -/
def mixed : List Used :=
  [⟨.ok (second 40), .recordFailure, .recorded none⟩,
    ⟨.ok (second 50), .isOpen, .looked (.ok false)⟩,
    ⟨.ok (second 60), .recordSuccess, .recorded none⟩]

/-- After one of each the next success closes the breaker, and the next failure opens it. -/
theorem half_open_verdict_mixed : ∃ u v w : Breaker,
    cautious.validate = .ok () ∧ released.circuit = .halfOpen ∧ released.failures = 0 ∧
    released.successes = 0 ∧ (∀ used ∈ mixed, used.Plain) ∧
    Uses released mixed u ∧ u.circuit = .halfOpen ∧ u.failures = 1 ∧ u.successes = 1 ∧
    Uses released (mixed ++ [⟨.ok (second 70), .recordSuccess, .recorded none⟩]) v ∧
    v.circuit = .closed ∧ v.failures = 0 ∧
    Uses released (mixed ++ [⟨.ok (second 70), .recordFailure, .recorded none⟩]) w ∧
    w.circuit = .opened ∧ w.isOpen (.ok (second 100)) = (w, .ok true) := by
  have valid : cautious.validate = .ok () := ConfigError.firstOf_eq_ok.mpr (by decide)
  have plain : ∀ used ∈ mixed, used.Plain := by
    intro used hm
    simp only [mixed, List.mem_cons, List.not_mem_nil, or_false] at hm
    rcases hm with rfl | rfl | rfl
    all_goals exact ⟨by decide, fun _ => ⟨_, rfl⟩⟩
  have plain_concat (use : Use) (h : use ≠ .reset) : ∀ used ∈ mixed ++
      [⟨.ok (second 70), use, .recorded none⟩], used.Plain := by
    intro used hm
    rcases List.mem_append.mp hm with hm | hm
    · exact plain used hm
    · rw [List.mem_singleton.mp hm]
      exact ⟨h, fun _ => ⟨_, rfl⟩⟩
  have both : Uses released mixed _ :=
    ((Uses.nil.snoc (.ok (second 40)) .recordFailure).snoc (.ok (second 50)) .isOpen).snoc
      (.ok (second 60)) .recordSuccess
  have success := both.snoc (.ok (second 70)) .recordSuccess
  have failure := both.snoc (.ok (second 70)) .recordFailure
  obtain ⟨trial, -⟩ := half_open_verdict valid rfl rfl rfl both plain
  obtain ⟨-, closes, -⟩ := half_open_verdict valid rfl rfl rfl success
    (plain_concat .recordSuccess (by decide))
  obtain ⟨-, -, opens, -⟩ := half_open_verdict valid rfl rfl rfl failure
    (plain_concat .recordFailure (by decide))
  obtain ⟨circuit, failures, successes, -⟩ := trial (by decide)
  obtain ⟨closed, cleared, -⟩ := closes mixed _ _ rfl (by decide)
  obtain ⟨opened, -, gates⟩ := opens mixed _ _ rfl (by decide)
  refine ⟨_, _, _, valid, rfl, rfl, rfl, plain, both, circuit, failures, successes, success, closed,
    cleared, failure, opened, ?_⟩
  exact (gates _).trans (if_pos (by decide))

end Reattempt.Breaker
