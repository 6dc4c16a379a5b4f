import Mathlib.Data.List.Nodup
import Reattempt.Proofs.Spellings

/-!
The settings one by one. Settings are no more than the values of the twenty of them; a variable that
is set decides the value of its own setting and of no other.
-/
namespace Reattempt

/-- What kind of value a setting has. -/
inductive Form where
  | u32
  | u64
  | millis
  | number
  | flag
  | verbatim
  | kinds
  | statuses

namespace Form

def Value : Form → Type
  | u32 => UInt32
  | u64 => UInt64
  | millis => Duration
  | number => Binary64
  | flag => Bool
  | verbatim => String
  | kinds => List FailureKind
  | statuses => List UInt16

open Text in
/-- What the text of a variable says. -/
def Says : (f : Form) → String → f.Value → Prop
  | u32, raw, (v : UInt32) => SaysUnsigned (2 ^ 32 - 1) (trimChars raw.toList) v.toNat
  | u64, raw, (v : UInt64) => SaysUnsigned (2 ^ 64 - 1) (trimChars raw.toList) v.toNat
  | millis, raw, (v : Duration) =>
    ∃ n, SaysUnsigned (2 ^ 64 - 1) (trimChars raw.toList) n ∧ .ofMillis n = v
  | number, raw, (v : Binary64) => Binary64.SaysNumber (trimChars raw.toList) v
  | flag, raw, (v : Bool) => v = true ↔
    String.ofList (lowerAscii (trimChars raw.toList)) ∈ ["1", "true", "yes", "on"]
  | verbatim, raw, (v : String) => raw = v
  | kinds, raw, (v : List FailureKind) =>
    Variable.SaysList (fun item k => FailureKind.normalize (String.ofList item) = k.name) raw v
  | statuses, raw, (v : List UInt16) =>
    Variable.SaysList (fun item n => SaysUnsigned (2 ^ 16 - 1) item n.toNat) raw v

open Variable in
/-- Reads the text of a variable of that name. -/
def read (name : String) : (f : Form) → String → Except SettingsError f.Value
  | u32, raw => readValue name readU32 raw
  | u64, raw => readValue name readU64 raw
  | millis, raw => readValue name readMillis raw
  | number, raw => readValue name readNumber raw
  | flag, raw => .ok (readFlag raw)
  | verbatim, raw => .ok raw
  | kinds, raw => readList name readKind raw
  | statuses, raw => readList name readU16 raw

open Text Variable in
/-- A reader accepts what says a value, and nothing else. -/
theorem read_eq_ok_iff {f : Form} {name raw : String} {v : f.Value} :
    f.read name raw = .ok v ↔ f.Says raw v := by
  cases f with
  | u32 =>
    have hvalue (n : UInt32) : readValue name readU32 raw = .ok n ↔
        SaysUnsigned (2 ^ 32 - 1) (trimChars raw.toList) n.toNat :=
      readValue_eq_ok_iff (fun cs (n : UInt32) => SaysUnsigned (2 ^ 32 - 1) cs n.toNat)
        fun _ _ => readU32_eq_ok_iff
    exact hvalue v
  | u64 =>
    have hvalue (n : UInt64) : readValue name readU64 raw = .ok n ↔
        SaysUnsigned (2 ^ 64 - 1) (trimChars raw.toList) n.toNat :=
      readValue_eq_ok_iff (fun cs (n : UInt64) => SaysUnsigned (2 ^ 64 - 1) cs n.toNat)
        fun _ _ => readU64_eq_ok_iff
    exact hvalue v
  | millis =>
    have hvalue (d : Duration) : readValue name readMillis raw = .ok d ↔
        ∃ n, SaysUnsigned (2 ^ 64 - 1) (trimChars raw.toList) n ∧ .ofMillis n = d :=
      readValue_eq_ok_iff
        (fun cs d => ∃ n, SaysUnsigned (2 ^ 64 - 1) cs n ∧ Duration.ofMillis n = d)
        fun _ _ => readMillis_eq_ok_iff
    exact hvalue v
  | number =>
    have hvalue (x : Binary64) : readValue name readNumber raw = .ok x ↔
        Binary64.SaysNumber (trimChars raw.toList) x :=
      readValue_eq_ok_iff Binary64.SaysNumber fun _ _ => readNumber_eq_ok_iff
    exact hvalue v
  | flag =>
    have hflag (b : Bool) : Except.ok (readFlag raw) = (.ok b : Except SettingsError Bool) ↔
        (b = true ↔ readFlag raw = true) := by
      rw [Except.ok.injEq, Bool.eq_iff_iff]
      exact Iff.comm
    exact (hflag v).trans (iff_congr Iff.rfl readFlag_eq_true_iff)
  | verbatim =>
    have htext (t : String) : Except.ok raw = (.ok t : Except SettingsError String) ↔ raw = t := by
      rw [Except.ok.injEq]
    exact htext v
  | kinds =>
    have hlist (ks : List FailureKind) : readList name readKind raw = .ok ks ↔
        SaysList (fun item k => FailureKind.normalize (String.ofList item) = k.name) raw ks :=
      readList_eq_ok_iff _ fun _ _ => readKind_eq_ok_iff
    exact hlist v
  | statuses =>
    have hlist (ns : List UInt16) : readList name readU16 raw = .ok ns ↔
        SaysList (fun item n => SaysUnsigned (2 ^ 16 - 1) item n.toNat) raw ns := by
      apply readList_eq_ok_iff
      intro item n
      rw [readU16_eq_ok_iff, String.toList_ofList]
    exact hlist v

end Form

/-- The settings, in the order in which their variables are read. -/
inductive Setting where
  | maxAttempts
  | initialDelay
  | maxDelay
  | backoffMultiplier
  | jitterFactor
  | exponential
  | classifyFailures
  | retryableKinds
  | retryableStatuses
  | nonRetryableKinds
  | nonRetryableStatuses
  | breakerEnabled
  | failureThreshold
  | breakerTimeout
  | minCalls
  | workerThreads
  | maxPending
  | threadName
  | logFilter
  | logJson
  deriving DecidableEq

namespace Setting

def all : List Setting :=
  [maxAttempts, initialDelay, maxDelay, backoffMultiplier, jitterFactor, exponential,
    classifyFailures, retryableKinds, retryableStatuses, nonRetryableKinds, nonRetryableStatuses,
    breakerEnabled, failureThreshold, breakerTimeout, minCalls, workerThreads, maxPending,
    threadName, logFilter, logJson]

theorem mem_all (k : Setting) : k ∈ all := by cases k <;> decide

theorem nodup_all : all.Nodup := by decide

def form : Setting → Form
  | maxAttempts | failureThreshold | minCalls => .u32
  | workerThreads | maxPending => .u64
  | initialDelay | maxDelay | breakerTimeout => .millis
  | backoffMultiplier | jitterFactor => .number
  | exponential | classifyFailures | breakerEnabled | logJson => .flag
  | threadName | logFilter => .verbatim
  | retryableKinds | nonRetryableKinds => .kinds
  | retryableStatuses | nonRetryableStatuses => .statuses

/-- The name of the variable of a setting. -/
def name : Setting → String
  | maxAttempts => "RATEKEEPER_RETRY_MAX_ATTEMPTS"
  | initialDelay => "RATEKEEPER_RETRY_INITIAL_DELAY_MS"
  | maxDelay => "RATEKEEPER_RETRY_MAX_DELAY_MS"
  | backoffMultiplier => "RATEKEEPER_RETRY_BACKOFF_MULTIPLIER"
  | jitterFactor => "RATEKEEPER_RETRY_JITTER_FACTOR"
  | exponential => "RATEKEEPER_RETRY_EXPONENTIAL"
  | classifyFailures => "RATEKEEPER_RETRY_CLASSIFY_FAILURES"
  | retryableKinds => "RATEKEEPER_RETRY_RETRYABLE_KINDS"
  | retryableStatuses => "RATEKEEPER_RETRY_RETRYABLE_STATUSES"
  | nonRetryableKinds => "RATEKEEPER_RETRY_NON_RETRYABLE_KINDS"
  | nonRetryableStatuses => "RATEKEEPER_RETRY_NON_RETRYABLE_STATUSES"
  | breakerEnabled => "RATEKEEPER_BREAKER_ENABLED"
  | failureThreshold => "RATEKEEPER_BREAKER_FAILURE_THRESHOLD"
  | breakerTimeout => "RATEKEEPER_BREAKER_TIMEOUT_MS"
  | minCalls => "RATEKEEPER_BREAKER_MIN_CALLS"
  | workerThreads => "RATEKEEPER_SCHEDULER_THREADS"
  | maxPending => "RATEKEEPER_SCHEDULER_MAX_PENDING"
  | threadName => "RATEKEEPER_SCHEDULER_THREAD_NAME"
  | logFilter => "RATEKEEPER_LOG_FILTER"
  | logJson => "RATEKEEPER_LOG_JSON"

theorem name_injective {k l : Setting} (h : k.name = l.name) : k = l := by
  have nodup : (all.map name).Nodup := by decide
  exact List.inj_on_of_nodup_map nodup k.mem_all l.mem_all h

/-- The setting whose variable has that name. -/
def ofName? (s : String) : Option Setting := all.find? (·.name = s)

theorem ofName?_name (k : Setting) : ofName? k.name = some k := by
  have hsome : (ofName? k.name).isSome = true :=
    List.find?_isSome.mpr ⟨k, mem_all k, decide_eq_true rfl⟩
  obtain ⟨l, hl⟩ := Option.isSome_iff_exists.mp hsome
  have hname : l.name = k.name := by simpa using List.find?_some hl
  rw [hl, name_injective hname]

/-- The value of a setting. -/
def get : (k : Setting) → Settings → k.form.Value
  | maxAttempts, s => s.retry.maxAttempts
  | initialDelay, s => s.retry.initialDelay
  | maxDelay, s => s.retry.maxDelay
  | backoffMultiplier, s => s.retry.backoffMultiplier
  | jitterFactor, s => s.retry.jitterFactor
  | exponential, s => s.retry.exponential
  | classifyFailures, s => s.retry.classifyFailures
  | retryableKinds, s => s.retry.retryableKinds
  | retryableStatuses, s => s.retry.retryableStatuses
  | nonRetryableKinds, s => s.retry.nonRetryableKinds
  | nonRetryableStatuses, s => s.retry.nonRetryableStatuses
  | breakerEnabled, s => s.retry.breaker.enabled
  | failureThreshold, s => s.retry.breaker.failureThreshold
  | breakerTimeout, s => s.retry.breaker.timeout
  | minCalls, s => s.retry.breaker.minCalls
  | workerThreads, s => s.pool.workerThreads
  | maxPending, s => s.pool.maxPending
  | threadName, s => s.pool.threadName
  | logFilter, s => s.log.filter
  | logJson, s => s.log.json

/-- The settings of given values. -/
def build (value : (k : Setting) → k.form.Value) : Settings where
  retry :=
    { maxAttempts := value maxAttempts
      initialDelay := value initialDelay
      maxDelay := value maxDelay
      backoffMultiplier := value backoffMultiplier
      jitterFactor := value jitterFactor
      exponential := value exponential
      classifyFailures := value classifyFailures
      retryableKinds := value retryableKinds
      nonRetryableKinds := value nonRetryableKinds
      retryableStatuses := value retryableStatuses
      nonRetryableStatuses := value nonRetryableStatuses
      breaker :=
        { enabled := value breakerEnabled
          failureThreshold := value failureThreshold
          timeout := value breakerTimeout
          minCalls := value minCalls } }
  pool :=
    { workerThreads := value workerThreads
      maxPending := value maxPending
      threadName := value threadName }
  log :=
    { filter := value logFilter
      json := value logJson }

@[simp]
theorem get_build (value : (k : Setting) → k.form.Value) (k : Setting) :
    k.get (build value) = value k := by
  cases k <;> rfl

theorem build_get (s : Settings) : build (fun k => k.get s) = s := rfl

/-- Settings are the same if each of them has the same value. -/
theorem ext_get {s t : Settings} (h : ∀ k : Setting, k.get s = k.get t) : s = t := by
  calc s = build (fun k => k.get s) := (build_get s).symm
    _ = build (fun k => k.get t) := congrArg build (funext h)
    _ = t := build_get t

/-- The settings with another value for one of them. -/
def put (k : Setting) (s : Settings) (v : k.form.Value) : Settings :=
  build (Function.update (fun l => l.get s) k v)

@[simp]
theorem get_put (k l : Setting) (s : Settings) (v : k.form.Value) :
    l.get (k.put s v) = Function.update (fun l => l.get s) k v l :=
  get_build _ l

/-- Reads the variable of a setting. -/
def read (k : Setting) (raw : String) : Except SettingsError k.form.Value := k.form.read k.name raw

/-- The variable of a setting. -/
def toVariable (k : Setting) : Variable := ⟨k.name, fun s raw => (k.read raw).map (k.put s)⟩

theorem map_toVariable_all : all.map toVariable = Variable.all := by
  rfl

theorem read_eq_ok_iff {k : Setting} {raw : String} {v : k.form.Value} :
    k.read raw = .ok v ↔ k.form.Says raw v :=
  Form.read_eq_ok_iff

variable {lookup : String → Option String} {s t : Settings} {k : Setting} {ks : List Setting}

/-- A setting is the same as before, or what its variable says if that is set. -/
def Reflects (lookup : String → Option String) (s t : Settings) (k : Setting) : Prop :=
  match lookup k.name with
  | none => k.get t = k.get s
  | some raw => k.form.Says raw (k.get t)

theorem reflects_of_none (h : lookup k.name = none) :
    k.Reflects lookup s t ↔ k.get t = k.get s := by
  rw [Reflects, h]

theorem reflects_of_some {raw : String} (h : lookup k.name = some raw) :
    k.Reflects lookup s t ↔ k.form.Says raw (k.get t) := by
  rw [Reflects, h]

/-- A variable changes no setting but its own, and is refused if what it holds says nothing. -/
theorem overlay_cases (lookup : String → Option String) (s : Settings) (k : Setting) :
    (∃ s', Variable.overlay lookup s k.toVariable = .ok s' ∧
      (∀ l, l ≠ k → l.get s' = l.get s) ∧
      ∀ t, k.Reflects lookup s t ↔ k.get t = k.get s') ∨
    ∃ e, Variable.overlay lookup s k.toVariable = .error e ∧ ∀ t, ¬ k.Reflects lookup s t := by
  unfold Variable.overlay toVariable
  cases hset : lookup k.name with
  | none => exact .inl ⟨s, rfl, fun _ _ => rfl, fun t => reflects_of_none hset⟩
  | some raw =>
    cases hread : k.read raw with
    | error e =>
      refine .inr ⟨e, congrArg (Except.map (k.put s)) hread, ?_⟩
      intro t hreflects
      rw [reflects_of_some hset, ← read_eq_ok_iff, hread] at hreflects
      contradiction
    | ok v =>
      refine .inl ⟨k.put s v, congrArg (Except.map (k.put s)) hread, ?_, ?_⟩
      · intro l hne
        rw [get_put, Function.update_of_ne hne]
      · intro t
        rw [reflects_of_some hset, ← read_eq_ok_iff, hread, get_put, Function.update_self,
          Except.ok.injEq, eq_comm]

/-- Variables are read in turn if each that is set says a value; then their settings have these
values and all others are as before. -/
theorem foldlM_overlay_eq_ok_iff (nodup : ks.Nodup) :
    (ks.map toVariable).foldlM (Variable.overlay lookup) s = .ok t ↔
      (∀ k ∈ ks, k.Reflects lookup s t) ∧ ∀ k ∉ ks, k.get t = k.get s := by
  induction ks generalizing s with
  | nil =>
    constructor
    · intro h
      cases h
      exact ⟨fun _ hk => (List.not_mem_nil hk).elim, fun _ _ => rfl⟩
    · rintro ⟨-, h⟩
      exact congrArg Except.ok (ext_get fun k => (h k List.not_mem_nil).symm)
  | cons k ks ih =>
    obtain ⟨hk, nodup⟩ := List.nodup_cons.mp nodup
    rw [List.map_cons, List.foldlM_cons, List.forall_mem_cons]
    rcases overlay_cases lookup s k with ⟨s', hoverlay, hother, hown⟩ | ⟨e, hoverlay, hown⟩
    · rw [hoverlay]
      -- For the settings that are still to be read, what was there before is there now.
      have hreflects (l : Setting) (hl : l ∈ ks) :
          l.Reflects lookup s' t ↔ l.Reflects lookup s t := by
        have hne : l ≠ k := fun h => hk (h ▸ hl)
        rw [Reflects, hother l hne, Reflects]
      have hrest : (∀ l ∉ ks, l.get t = l.get s') ↔
          k.get t = k.get s' ∧ ∀ l ∉ k :: ks, l.get t = l.get s := by
        constructor
        · intro h
          refine ⟨h k hk, ?_⟩
          intro l hl
          obtain ⟨hne, hl⟩ := not_or.mp (fun hmem => hl (List.mem_cons.mpr hmem))
          rw [← hother l hne]
          exact h l hl
        · rintro ⟨hget, h⟩ l hl
          by_cases hlk : l = k
          · rw [hlk, hget]
          · rw [hother l hlk]
            exact h l (fun hmem => (List.mem_cons.mp hmem).elim hlk hl)
      calc (ks.map toVariable).foldlM (Variable.overlay lookup) s' = .ok t
        _ ↔ (∀ l ∈ ks, l.Reflects lookup s' t) ∧ ∀ l ∉ ks, l.get t = l.get s' := ih nodup
        _ ↔ (∀ l ∈ ks, l.Reflects lookup s t) ∧
              (k.Reflects lookup s t ∧ ∀ l ∉ k :: ks, l.get t = l.get s) := by
            rw [hrest, hown t]
            exact and_congr_left' (forall₂_congr hreflects)
        _ ↔ _ := by
            rw [and_left_comm, and_assoc]
    · rw [hoverlay]
      constructor
      · intro h
        contradiction
      · rintro ⟨⟨h, -⟩, -⟩
        exact absurd h (hown t)

end Setting

/-! ### All variables -/

namespace Settings

theorem validate_eq_ok {s : Settings} (h : s.validate.isOk = true) : s.validate = .ok () := by
  cases hvalid : s.validate with
  | ok => rfl
  | error e =>
    rw [hvalid] at h
    contradiction

theorem validate_standard : standard.validate = .ok () := validate_eq_ok (by decide +kernel)

variable {lookup : String → Option String} {t : Settings}

theorem foldlM_all_eq_ok_iff :
    Variable.all.foldlM (Variable.overlay lookup) standard = .ok t ↔
      ∀ k : Setting, k.Reflects lookup standard t := by
  rw [← Setting.map_toVariable_all, Setting.foldlM_overlay_eq_ok_iff Setting.nodup_all]
  constructor
  · rintro ⟨h, -⟩ k
    exact h k k.mem_all
  · intro h
    exact ⟨fun k _ => h k, fun k hk => absurd k.mem_all hk⟩

/-- When all variables say values, the settings of these values are validated. -/
theorem ofVariables_of_reflects (h : ∀ k : Setting, k.Reflects lookup standard t) :
    ofVariables lookup = (t.validate.mapError SetupError.invalidConfig).map fun _ => t := by
  rw [ofVariables, foldlM_all_eq_ok_iff.mpr h]
  simp only [Except.mapError, bind, Except.bind, pure, Except.pure]
  cases t.validate <;> rfl

theorem reflects_of_ofVariables (h : ofVariables lookup = .ok t) (k : Setting) :
    k.Reflects lookup standard t := by
  cases hfold : Variable.all.foldlM (Variable.overlay lookup) standard with
  | error e =>
    rw [ofVariables, hfold] at h
    contradiction
  | ok s =>
    have hreflects := foldlM_all_eq_ok_iff.mp hfold
    rw [ofVariables_of_reflects hreflects] at h
    obtain ⟨_, _, rfl⟩ := Variable.map_eq_ok_iff.mp h
    exact hreflects k

/-- A variable that says nothing is an error of its own kind, whatever the other variables hold. -/
theorem ofVariables_of_malformed {k : Setting} {raw : String} (hset : lookup k.name = some raw)
    (h : ∀ v, ¬ k.form.Says raw v) : ∃ e, ofVariables lookup = .error (.settings e) := by
  cases hfold : Variable.all.foldlM (Variable.overlay lookup) standard with
  | error e =>
    refine ⟨e, ?_⟩
    rw [ofVariables, hfold]
    rfl
  | ok s =>
    have hreflects := foldlM_all_eq_ok_iff.mp hfold k
    rw [Setting.reflects_of_some hset] at hreflects
    exact absurd hreflects (h _)

end Settings

end Reattempt
