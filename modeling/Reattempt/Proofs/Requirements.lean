import Reattempt.Engine.Queued
import Reattempt.Proofs.Powers
import Reattempt.Proofs.Waits
import Reattempt.Settings.Basic

/-!
When a policy is valid. A requirement is a field, the values that are out of its range, and what is
reported of them. Whichever way a policy comes, it meets the requirements or is refused with the
first one it breaks; those of the breaker count only while the breaker is enabled. An engine makes
the same checks again, and refuses nothing that was let through. Main statement: `validation_exact`.
-/
namespace Reattempt

/-- A field, when it is out of range, and what it should have satisfied. -/
structure Requirement (α : Type) where
  field : String
  broken : α → Prop
  constraint : α → Constraint

namespace Requirement

variable {α β γ : Type}

/-- What is reported where the requirement is broken. -/
def error (r : Requirement α) (a : α) : ConfigError := ⟨r.field, r.constraint a⟩

/-- The requirement, made of a part. -/
def on (part : β → α) (r : Requirement α) : Requirement β where
  field := r.field
  broken b := r.broken (part b)
  constraint b := r.constraint (part b)

/-- The requirement, made only under a condition. -/
def provided (condition : α → Bool) (r : Requirement α) : Requirement α :=
  { r with broken a := condition a = true ∧ r.broken a }

/-- None of the requirements is broken. -/
def Met (rs : List (Requirement α)) (a : α) : Prop := ∀ r ∈ rs, ¬r.broken a

/-- The error reports the first requirement that is broken. -/
inductive FirstBroken (a : α) : List (Requirement α) → ConfigError → Prop
  | here {r : Requirement α} {rs : List (Requirement α)} (h : r.broken a) :
    FirstBroken a (r :: rs) (r.error a)
  | later {r : Requirement α} {rs : List (Requirement α)} {e : ConfigError} (h : ¬r.broken a)
    (rest : FirstBroken a rs e) : FirstBroken a (r :: rs) e

/-- The outcome is a value if the requirements are met, else the report of the first one broken. -/
structure Exact (rs : List (Requirement α)) (a : α) (outcome : Except ConfigError β) (value : β) :
    Prop where
  ok_iff (v : β) : outcome = .ok v ↔ Met rs a ∧ v = value
  error_iff (e : ConfigError) : outcome = .error e ↔ FirstBroken a rs e

variable {a : α} {b : β} {r : Requirement α} {rs ss : List (Requirement α)} {e : ConfigError}

/-! ### Requirements in a row -/

theorem met_cons : Met (r :: rs) a ↔ ¬r.broken a ∧ Met rs a := List.forall_mem_cons

theorem met_append : Met (rs ++ ss) a ↔ Met rs a ∧ Met ss a := List.forall_mem_append

theorem met_map_on {part : β → α} : Met (rs.map (on part)) b ↔ Met rs (part b) :=
  List.forall_mem_map

theorem firstBroken_cons : FirstBroken a (r :: rs) e ↔
    r.broken a ∧ e = r.error a ∨ ¬r.broken a ∧ FirstBroken a rs e := by
  constructor
  · intro h
    cases h with
    | here h => exact .inl ⟨h, rfl⟩
    | later h rest => exact .inr ⟨h, rest⟩
  · rintro (⟨h, rfl⟩ | ⟨h, rest⟩)
    · exact .here h
    · exact .later h rest

theorem firstBroken_append :
    FirstBroken a (rs ++ ss) e ↔ FirstBroken a rs e ∨ Met rs a ∧ FirstBroken a ss e := by
  induction rs with
  | nil => exact ⟨fun h => .inr ⟨nofun, h⟩, fun h => h.elim nofun And.right⟩
  | cons r rs ih =>
    rw [List.cons_append, firstBroken_cons, ih, firstBroken_cons, met_cons]
    tauto

theorem firstBroken_map_on {part : β → α} :
    FirstBroken b (rs.map (on part)) e ↔ FirstBroken (part b) rs e := by
  induction rs with
  | nil => exact ⟨nofun, nofun⟩
  | cons r rs ih =>
    rw [List.map_cons, firstBroken_cons, ih, firstBroken_cons]
    exact Iff.rfl

theorem Exact.nil (value : β) : Exact [] a (.ok value) value where
  ok_iff v := ⟨fun h => ⟨nofun, by cases h; rfl⟩, fun h => by rw [h.2]⟩
  error_iff e := ⟨nofun, nofun⟩

theorem Exact.cons_of_broken (h : r.broken a) (value : β) :
    Exact (r :: rs) a (.error (r.error a)) value where
  ok_iff v := ⟨nofun, fun hmet => absurd h (met_cons.mp hmet.1).1⟩
  error_iff e := by
    rw [firstBroken_cons, and_iff_right h, or_iff_left fun hrest => hrest.1 h]
    exact ⟨fun heq => by cases heq; rfl, fun heq => by rw [heq]⟩

theorem Exact.cons_of_kept {outcome : Except ConfigError β} {value : β}
    (h : Exact rs a outcome value) (hr : ¬r.broken a) : Exact (r :: rs) a outcome value where
  ok_iff v := by rw [h.ok_iff, met_cons, and_iff_right hr]
  error_iff e := by
    rw [h.error_iff, firstBroken_cons, or_iff_right fun hfirst => hr hfirst.1, and_iff_right hr]

theorem Exact.on (part : β → α) {outcome : Except ConfigError γ} {value : γ}
    (h : Exact rs (part b) outcome value) : Exact (rs.map (on part)) b outcome value where
  ok_iff v := by rw [h.ok_iff, met_map_on]
  error_iff e := by rw [h.error_iff, firstBroken_map_on]

/-- One outcome after another: the first decides unless it is good. -/
theorem Exact.bind {first : Except ConfigError β} {second : β → Except ConfigError γ} {v : β}
    {w : γ} (h : Exact rs a first v) (h' : Exact ss a (second v) w) :
    Exact (rs ++ ss) a (first >>= second) w := by
  cases first with
  | error e =>
    have hunmet : ¬Met rs a := fun hmet => nomatch (h.ok_iff v).mpr ⟨hmet, rfl⟩
    refine ⟨fun u => ⟨nofun, fun hmet => absurd (met_append.mp hmet.1).1 hunmet⟩, fun e' => ?_⟩
    rw [firstBroken_append, or_iff_left fun hrest => hunmet hrest.1, ← h.error_iff]
    exact ⟨fun heq => by cases heq; rfl, fun heq => by cases heq; rfl⟩
  | ok b =>
    obtain ⟨hmet, rfl⟩ := (h.ok_iff b).mp rfl
    have hnone (e : ConfigError) : ¬FirstBroken a rs e := fun hfirst =>
      nomatch (h.error_iff e).mpr hfirst
    refine ⟨fun u => ?_, fun e => ?_⟩
    · rw [met_append, and_iff_right hmet]
      exact h'.ok_iff u
    · rw [firstBroken_append, or_iff_right (hnone e), and_iff_right hmet]
      exact h'.error_iff e

theorem Exact.map {outcome : Except ConfigError β} {value : β} (h : Exact rs a outcome value)
    (f : β → γ) : Exact rs a (outcome.map f) (f value) := by
  have hbind : Exact (rs ++ []) a (outcome >>= fun b => .ok (f b)) (f value) := h.bind (.nil _)
  rw [List.append_nil] at hbind
  cases outcome with
  | error e => exact hbind
  | ok b => exact hbind

/-! ### Checks that test requirements -/

/-- The requirements are tested by the checks in turn, but for some that are known to be met. -/
inductive Tested (a : α) : List (Requirement α) → List (Bool × ConfigError) → Prop
  | nil : Tested a [] []
  | check {c : Bool} {r : Requirement α} {cs : List (Bool × ConfigError)}
    {rs : List (Requirement α)} (h : c = true ↔ r.broken a) (rest : Tested a rs cs) :
    Tested a (r :: rs) ((c, r.error a) :: cs)
  | moot {r : Requirement α} {cs : List (Bool × ConfigError)} {rs : List (Requirement α)}
    (h : ¬r.broken a) (rest : Tested a rs cs) : Tested a (r :: rs) cs

variable {cs ds : List (Bool × ConfigError)}

theorem Tested.of_met (h : Met rs a) : Tested a rs [] := by
  induction rs with
  | nil => exact .nil
  | cons r rs ih => exact .moot (met_cons.mp h).1 (ih (met_cons.mp h).2)

theorem Tested.append (h : Tested a rs cs) (h' : Tested a ss ds) :
    Tested a (rs ++ ss) (cs ++ ds) := by
  induction h with
  | nil => exact h'
  | check hc _ ih => exact .check hc ih
  | moot hr _ ih => exact .moot hr ih

theorem Tested.on {part : β → α} (h : Tested (part b) rs cs) : Tested b (rs.map (on part)) cs := by
  induction h with
  | nil => exact .nil
  | @check _ r _ _ hc _ ih => exact .check (r := r.on part) hc ih
  | @moot r _ _ hr _ ih => exact .moot (r := r.on part) hr ih

/-- Requirements under a condition need their checks only where it holds. -/
theorem Tested.provided {condition : α → Bool} (h : Tested a rs cs) :
    Tested a (rs.map (provided condition)) (if condition a then cs else []) := by
  cases hcond : condition a with
  | false =>
    apply of_met
    intro r hr hbroken
    obtain ⟨r, -, rfl⟩ := List.mem_map.mp hr
    cases hcond.symm.trans hbroken.1
  | true =>
    induction h with
    | nil => exact .nil
    | @check _ r _ _ hc _ ih =>
      exact .check (r := r.provided condition) (hc.trans (and_iff_right hcond).symm) ih
    | @moot r _ _ hr _ ih => exact .moot (r := r.provided condition) (fun h => hr h.2) ih

/-- The first check that fails reports the first requirement broken. -/
theorem Tested.exact (h : Tested a rs cs) : Exact rs a (ConfigError.firstOf cs) () := by
  induction h with
  | nil => exact .nil ()
  | @check c _ _ _ hc _ ih =>
    cases c with
    | true => exact .cons_of_broken (hc.mp rfl) ()
    | false => exact ih.cons_of_kept fun hr => nomatch hc.mpr hr
  | moot hr _ ih => exact ih.cons_of_kept hr

end Requirement

open Requirement

/-! ### Numbers in range -/

namespace Binary64

variable {x : Binary64}

/-- Finite and greater than one. -/
def AboveOne (x : Binary64) : Prop :=
  ∃ units onGrid, x = finite false units onGrid ∧ unitsOfOne < units

/-- Finite, not greater than one, and not less than zero, of whatever sign a zero is. -/
def InUnitInterval (x : Binary64) : Prop :=
  ∃ negative units onGrid, x = finite negative units onGrid ∧ units ≤ unitsOfOne ∧
    (negative = true → units = 0)

theorem rank_one : (1 : Binary64).rank = some (unitsOfOne : Int) := by
  obtain ⟨onGrid, hone⟩ := exists_one
  rw [hone]
  rfl

theorem rank_zero : (0 : Binary64).rank = some 0 := by
  rw [zero_eq]
  simp only [Nat.zero_mul]
  rfl

theorem aboveOne_iff : (x.isFinite && lt 1 x) = true ↔ x.AboveOne := by
  rw [Bool.and_eq_true, lt, rank_one]
  constructor
  · rintro ⟨hfinite, hlt⟩
    cases x with
    | nan => cases hfinite
    | infinity s => cases hfinite
    | finite s u onGrid =>
      cases s with
      | true =>
        have hlt : (unitsOfOne : Int) < -(u : Int) := of_decide_eq_true hlt
        omega
      | false => exact ⟨u, onGrid, rfl, Int.ofNat_lt.mp (of_decide_eq_true hlt)⟩
  · rintro ⟨u, onGrid, rfl, hlt⟩
    exact ⟨rfl, decide_eq_true (Int.ofNat_lt.mpr hlt)⟩

theorem inUnitInterval_iff : (le 0 x && x.le 1) = true ↔ x.InUnitInterval := by
  obtain ⟨onGrid, -⟩ := exists_one
  have hlimit : (unitsOfOne : Int) < 2 ^ 2098 := onGrid.lt_limit
  rw [Bool.and_eq_true, le, le, rank_zero, rank_one]
  constructor
  · rintro ⟨hzero, hone⟩
    cases x with
    | nan => cases hzero
    | infinity s =>
      cases s with
      | true =>
        have hle : (0 : Int) ≤ -(2 ^ 2098) := of_decide_eq_true hzero
        omega
      | false =>
        have hle : (2 ^ 2098 : Int) ≤ unitsOfOne := of_decide_eq_true hone
        omega
    | finite s u onGrid =>
      refine ⟨s, u, onGrid, rfl, ?_⟩
      cases s with
      | true =>
        have hle : (0 : Int) ≤ -(u : Int) := of_decide_eq_true hzero
        obtain rfl : u = 0 := by omega
        exact ⟨Nat.zero_le _, fun _ => rfl⟩
      | false => exact ⟨Int.ofNat_le.mp (of_decide_eq_true hone), nofun⟩
  · rintro ⟨s, u, onGrid, rfl, hone, hzero⟩
    cases s with
    | true =>
      obtain rfl := hzero rfl
      exact ⟨rfl, decide_eq_true (by omega)⟩
    | false =>
      exact ⟨decide_eq_true (Int.natCast_nonneg u), decide_eq_true (Int.ofNat_le.mpr hone)⟩

end Binary64

/-! ### What is required -/

/-- What is required of the thresholds of a breaker. -/
def BreakerConfig.requirements : List (Requirement BreakerConfig) :=
  [⟨"failure_threshold", fun c => c.failureThreshold = 0, fun _ => .positive⟩,
    ⟨"breaker_timeout", fun c => c.timeout.nanos = 0, fun _ => .positive⟩,
    ⟨"breaker_min_calls", fun c => c.minCalls = 0, fun _ => .positive⟩]

/-- What is required of a policy; of its breaker, while that is enabled. -/
def Policy.requirements : List (Requirement Policy) :=
  [⟨"max_attempts", fun p => p.maxAttempts = 0, fun _ => .positive⟩,
    ⟨"initial_delay", fun p => p.initialDelay.nanos = 0, fun _ => .positive⟩,
    ⟨"max_delay", fun p => p.maxDelay.nanos < p.initialDelay.nanos,
      fun p => .atLeastInitialDelay p.initialDelay⟩,
    ⟨"backoff_multiplier", fun p => ¬p.backoffMultiplier.AboveOne,
      fun p => .growing p.backoffMultiplier⟩,
    ⟨"jitter_factor", fun p => ¬p.jitterFactor.InUnitInterval, fun p => .fraction p.jitterFactor⟩]
    ++ (BreakerConfig.requirements.map (·.on breaker)).map (·.provided breakerEnabled)

/-- What is required of a pool. -/
def PoolSettings.requirements : List (Requirement PoolSettings) :=
  [⟨"worker_threads", fun s => s.workerThreads = 0, fun _ => .atLeastOne⟩,
    ⟨"max_pending", fun s => s.maxPending = 0, fun _ => .atLeastOne⟩,
    ⟨"thread_name", fun s => ∀ c ∈ s.threadName.toList, Text.isBlank c = true, fun _ => .notBlank⟩]

/-- The policy that settings describe. -/
def RetrySettings.policy (s : RetrySettings) : Policy where
  maxAttempts := s.maxAttempts
  initialDelay := s.initialDelay
  maxDelay := s.maxDelay
  backoffMultiplier := s.backoffMultiplier
  jitterFactor := s.jitterFactor
  exponential := s.exponential
  breakerEnabled := s.breaker.enabled
  breaker := ⟨s.breaker.failureThreshold, s.breaker.timeout, s.breaker.minCalls⟩
  classifyFailures := s.classifyFailures
  retryableKinds := s.retryableKinds
  nonRetryableKinds := s.nonRetryableKinds
  retryableStatuses := s.retryableStatuses
  nonRetryableStatuses := s.nonRetryableStatuses

/-- What is required of settings: of the policy first, then of the pool. -/
def Settings.requirements : List (Requirement Settings) :=
  Policy.requirements.map (·.on (·.retry.policy)) ++ PoolSettings.requirements.map (·.on pool)

/-- A policy that there is a way to: a preset, the result of a chain of changes to one that there
is a way to, or what settings describe. -/
inductive Policy.Obtainable : Policy → Prop
  | standard : Obtainable .standard
  | guarded : Obtainable .guarded
  | aggressive : Obtainable .aggressive
  | built {seed p : Policy} {changes : List PolicyChange} (start : Obtainable seed)
    (h : seed.build changes = .ok p) : Obtainable p
  | described {s : RetrySettings} {p : Policy} (h : s.toPolicy = .ok p) : Obtainable p

/-! ### The checks are exact -/

theorem BreakerConfig.tested (c : BreakerConfig) : Tested c requirements c.checks :=
  .check beq_iff_eq <| .check beq_iff_eq <| .check beq_iff_eq .nil

theorem Policy.tested (p : Policy) : Tested p requirements p.checks := by
  have hgrowing : (!(p.backoffMultiplier.isFinite && Binary64.lt 1 p.backoffMultiplier)) = true ↔
      ¬p.backoffMultiplier.AboveOne := by
    rw [← Binary64.aboveOne_iff, Bool.not_eq_true', Bool.not_eq_true]
  have hfraction : (!(Binary64.le 0 p.jitterFactor && p.jitterFactor.le 1)) = true ↔
      ¬p.jitterFactor.InUnitInterval := by
    rw [← Binary64.inUnitInterval_iff, Bool.not_eq_true', Bool.not_eq_true]
  apply Tested.append
  · exact .check beq_iff_eq <| .check beq_iff_eq <| .check decide_eq_true_iff <|
      .check hgrowing <| .check hfraction .nil
  · exact p.breaker.tested.on.provided

theorem PoolSettings.tested (s : PoolSettings) : Tested s requirements s.checks :=
  .check beq_iff_eq <| .check beq_iff_eq <|
    .check (List.isEmpty_iff.trans Text.trimChars_eq_nil_iff) .nil

theorem Policy.build_exact (seed : Policy) (changes : List PolicyChange) :
    Exact requirements (changes.foldl apply seed) (seed.build changes)
      (changes.foldl apply seed) :=
  (tested _).exact.map fun _ => changes.foldl apply seed

theorem RetrySettings.toPolicy_exact (s : RetrySettings) :
    Exact Policy.requirements s.policy s.toPolicy s.policy :=
  Policy.build_exact .standard s.changes

theorem Settings.validate_exact (s : Settings) : Exact requirements s s.validate () :=
  (s.retry.toPolicy_exact.on fun s : Settings => s.retry.policy).bind (s.pool.tested.exact.on pool)

/-! ### What an engine makes of a policy -/

namespace Policy

variable {p : Policy}

theorem Obtainable.met (h : p.Obtainable) : Met requirements p := by
  have of_valid {p : Policy} (valid : p.validate = .ok ()) : Met requirements p :=
    ((p.tested.exact.ok_iff ()).mp valid).1
  cases h with
  | standard => exact of_valid (ConfigError.firstOf_eq_ok.mpr (by decide +kernel))
  | guarded => exact of_valid (ConfigError.firstOf_eq_ok.mpr (by decide +kernel))
  | aggressive => exact of_valid (ConfigError.firstOf_eq_ok.mpr (by decide +kernel))
  | built _ h =>
    obtain ⟨hmet, rfl⟩ := ((build_exact _ _).ok_iff p).mp h
    exact hmet
  | @described s _ h =>
    obtain ⟨hmet, rfl⟩ := (s.toPolicy_exact.ok_iff p).mp h
    exact hmet

theorem breaker_met (h : Met requirements p) (enabled : p.breakerEnabled = true) :
    Met BreakerConfig.requirements p.breaker := by
  intro r hr hbroken
  apply h ((r.on breaker).provided breakerEnabled)
  · apply List.mem_append_right
    exact List.mem_map_of_mem (List.mem_map_of_mem hr)
  · exact ⟨enabled, hbroken⟩

/-- A threshold that was let through while the breaker was not enabled is found once it is. -/
theorem firstBroken_enabled (h : Met requirements p) (hzero : p.breaker.failureThreshold = 0) :
    FirstBroken { p with breakerEnabled := true } requirements
      ⟨"failure_threshold", .positive⟩ := by
  have hfront := (met_append.mp h).1
  simp only [met_cons] at hfront
  obtain ⟨attempts, initial, longest, multiplier, factor, -⟩ := hfront
  exact .later attempts <| .later initial <| .later longest <| .later multiplier <| .later factor <|
    .here ⟨rfl, hzero⟩

end Policy

theorem Breaker.new_of_met {c : BreakerConfig} (h : Met BreakerConfig.requirements c) :
    new c = .ok (fresh c) := by
  have hvalid : c.validate = .ok () := (c.tested.exact.ok_iff ()).mpr ⟨h, rfl⟩
  rw [new, hvalid]
  rfl

/-- Where the policy passes its checks, the breaker passes those that are made when it is made. -/
theorem Engine.new_of_met {Room : Type} {p : Policy} (h : Met Policy.requirements p)
    (scheduler : Scheduler Room) (chance : Nat → Nat → Draw) :
    new p scheduler chance = .ok ⟨p, scheduler, chance⟩ := by
  have hvalid : p.validate = .ok () := (p.tested.exact.ok_iff ()).mpr ⟨h, rfl⟩
  rw [new, hvalid]
  cases enabled : p.breakerEnabled with
  | false => rfl
  | true =>
    simp only [Breaker.new_of_met (Policy.breaker_met h enabled)]
    rfl

/-- Policies are refused exactly for the first requirement they break, whether they are built by
changes or described by settings, and settings next for the first one that their pool breaks. What
was not refused is the policy asked for, and an engine takes it; it reads no clock for that. -/
theorem validation_exact :
    (∀ (seed : Policy) (changes : List PolicyChange),
      Exact Policy.requirements (changes.foldl Policy.apply seed) (seed.build changes)
        (changes.foldl Policy.apply seed)) ∧
    (∀ s : RetrySettings, Exact Policy.requirements s.policy s.toPolicy s.policy) ∧
    (∀ s : Settings, Exact Settings.requirements s s.validate ()) ∧
    ∀ p : Policy, p.Obtainable → ∀ (Room : Type) (scheduler : Scheduler Room) chance,
      Engine.new p scheduler chance = .ok ⟨p, scheduler, chance⟩ :=
  ⟨Policy.build_exact, RetrySettings.toPolicy_exact, Settings.validate_exact,
    fun _ h _ scheduler chance => Engine.new_of_met h.met scheduler chance⟩

/-- Thresholds of zero, and the breaker not enabled. -/
def silencing : List PolicyChange := [.circuitBreaker ⟨0, .zero, 0⟩, .breakerEnabled false]

def silenced : Policy := silencing.foldl .apply .standard

/-- Zeros are let through while the breaker is not enabled, and the first is found once it is. -/
theorem validation_exact_silenced :
    Policy.standard.build silencing = .ok silenced ∧
    Engine.new silenced Scheduler.queueing (fun _ _ => .middle) =
      .ok ⟨silenced, .queueing, fun _ _ => .middle⟩ ∧
    silenced.build [.breakerEnabled true] = .error ⟨"failure_threshold", .positive⟩ := by
  obtain ⟨build_exact, -, -, taken⟩ := validation_exact
  have hmet : Met Policy.requirements silenced :=
    ((silenced.tested.exact.ok_iff ()).mp (ConfigError.firstOf_eq_ok.mpr (by decide +kernel))).1
  have built : Policy.standard.build silencing = .ok silenced :=
    ((build_exact .standard silencing).ok_iff silenced).mpr ⟨hmet, rfl⟩
  refine ⟨built, taken silenced (.built .standard built) _ .queueing _, ?_⟩
  exact ((build_exact silenced _).error_iff _).mpr (Policy.firstBroken_enabled hmet rfl)

end Reattempt
