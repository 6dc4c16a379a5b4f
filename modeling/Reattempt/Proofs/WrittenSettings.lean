import Reattempt.Proofs.Catalogue
import Reattempt.Settings.Document

/-!
Settings written as a document: some of them under the names of their fields, in any order, and a
section may be left out if nothing stands in it. The document is read as the settings that have the
written values, and their standard values elsewhere. Main statement: `ofDocument?_of_writtenAs`.
-/
namespace Reattempt

namespace Form

/-- The datum of a value. -/
def Denotes : (f : Form) → f.Value → Document → Prop
  | u32, (v : UInt32), d => d = .whole v.toNat
  | u64, (v : UInt64), d => d = .whole v.toNat
  | millis, (v : Duration), d => ∃ n : UInt64, .ofMillis n.toNat = v ∧ d = .whole n.toNat
  | number, (v : Binary64), d => d.number? = some v
  | flag, (v : Bool), d => d = .flag v
  | verbatim, (v : String), d => d = .text (some v)
  | kinds, (v : List FailureKind), d => d = .list (v.map fun k => .text (some k.name))
  | statuses, (v : List UInt16), d => d = .list (v.map fun n => .whole n.toNat)

open Document in
/-- Reads the datum of a value. -/
def ofDocument? (n : Notation) : (f : Form) → Document → Option f.Value
  | u32, d => u32? d
  | u64, d => u64? d
  | millis, d => millis? d
  | number, d => number? d
  | flag, d => flag? d
  | verbatim, d => text? d
  | kinds, d => listOf? (kind? n) d
  | statuses, d => listOf? u16? d

theorem unsigned?_whole {limit n : Nat} (h : n ≤ limit) :
    (Document.whole n).unsigned? limit = some n := by
  have hbounds : (0 : Int) ≤ n ∧ (n : Int) ≤ limit := by omega
  rw [Document.unsigned?, if_pos hbounds, Int.toNat_natCast]

theorem listOf?_map {α : Type} {item? : Document → Option α} {write : α → Document}
    (h : ∀ a, item? (write a) = some a) (as : List α) :
    Document.listOf? item? (.list (as.map write)) = some as := by
  change (as.map write).mapM item? = some as
  induction as with
  | nil => rfl
  | cons a as ih =>
    rw [List.map_cons, List.mapM_cons, h, ih]
    rfl

/-- The datum of a value is read as the value. -/
theorem ofDocument?_of_denotes {f : Form} {v : f.Value} {d : Document} (h : f.Denotes v d) :
    f.ofDocument? .json d = some v := by
  cases f with
  | u32 =>
    have hvalue (n : UInt32) : Document.u32? (.whole n.toNat) = some n := by
      rw [Document.u32?, unsigned?_whole (Nat.le_of_lt_succ n.toNat_lt), Option.map_some,
        UInt32.ofNat_toNat]
    cases h
    exact hvalue v
  | u64 =>
    have hvalue (n : UInt64) : Document.u64? (.whole n.toNat) = some n := by
      rw [Document.u64?, unsigned?_whole (Nat.le_of_lt_succ n.toNat_lt), Option.map_some,
        UInt64.ofNat_toNat]
    cases h
    exact hvalue v
  | millis =>
    have hvalue (n : UInt64) : Document.millis? (.whole n.toNat) = some (.ofMillis n.toNat) := by
      rw [Document.millis?, unsigned?_whole (Nat.le_of_lt_succ n.toNat_lt), Option.map_some]
    obtain ⟨n, rfl, rfl⟩ := h
    exact hvalue n
  | number => exact h
  | flag | verbatim =>
    cases h
    rfl
  | kinds =>
    have hitem (k : FailureKind) : Document.kind? .json (.text (some k.name)) = some k :=
      FailureKind.ofName?_eq_some_iff.mpr rfl
    cases h
    exact listOf?_map hitem v
  | statuses =>
    have hitem (n : UInt16) : Document.u16? (.whole n.toNat) = some n := by
      rw [Document.u16?, unsigned?_whole (Nat.le_of_lt_succ n.toNat_lt), Option.map_some,
        UInt16.ofNat_toNat]
    cases h
    exact listOf?_map hitem v

end Form

/-! ### Tables -/

namespace Document

/-- The entries of those fields that are there. -/
def present (fields : List (String × Option Document)) : List (Option String × Document) :=
  fields.filterMap fun (name, d) => d.map (some name, ·)

/-- A table with the fields that are there, in any order; or nothing at all if none of them is. -/
inductive IsSection (fields : List (String × Option Document)) : Option Document → Prop
  | leftOut (h : present fields = []) : IsSection fields none
  | table {es} (h : es.Perm (present fields)) : IsSection fields (some (.table es))

variable {fields : List (String × Option Document)} {es : List (Option String × Document)}
  {name : String} {d : Option Document}

theorem named_present_cons (name name' : String) (d : Option Document)
    (fields : List (String × Option Document)) : named (present ((name, d) :: fields)) name' =
      (if name = name' then d.toList else []) ++ named (present fields) name' := by
  cases d with
  | none => simp [present, named]
  | some d => by_cases h : name = name' <;> simp [present, named, h]

theorem named_present_of_not_mem (h : name ∉ fields.map Prod.fst) :
    named (present fields) name = [] := by
  induction fields with
  | nil => rfl
  | cons f fields ih =>
    rw [List.map_cons, List.mem_cons, not_or] at h
    rw [named_present_cons, if_neg (Ne.symm h.1), ih h.2, List.append_nil]

/-- Under the name of a field stands the field's datum, if it is there. -/
theorem named_present (nodup : (fields.map Prod.fst).Nodup) (h : (name, d) ∈ fields) :
    named (present fields) name = d.toList := by
  induction fields with
  | nil => contradiction
  | cons f fields ih =>
    rw [List.map_cons, List.nodup_cons] at nodup
    rw [named_present_cons]
    rcases List.mem_cons.mp h with rfl | h
    · rw [if_pos rfl, named_present_of_not_mem nodup.1, List.append_nil]
    · have hne : f.1 ≠ name := by
        rintro rfl
        exact nodup.1 (List.mem_map.mpr ⟨_, h, rfl⟩)
      rw [if_neg hne, ih nodup.2 h, List.nil_append]

theorem named_of_perm (nodup : (fields.map Prod.fst).Nodup) (hes : es.Perm (present fields))
    (h : (name, d) ∈ fields) : named es name = d.toList := by
  have hperm : (named es name).Perm d.toList := by
    rw [← named_present nodup h]
    exact hes.filterMap _
  cases d with
  | none => exact List.perm_nil.mp hperm
  | some d => exact List.perm_singleton.mp hperm

/-- The fields of a table are read in their own order, whatever the order of the table. -/
theorem fields?_of_perm (nodup : (fields.map Prod.fst).Nodup) (h : es.Perm (present fields)) :
    fields? .json (fields.map Prod.fst) (.table es) = some (fields.map Prod.snd) := by
  -- No entry is refused: each has the name of a field, and no name stands there twice.
  rw [fields?, if_pos]
  · rw [List.map_map]
    congr 1
    apply List.map_congr_left
    intro f hf
    rw [Function.comp, named_of_perm nodup h hf]
    cases f.2 <;> rfl
  · rw [Bool.and_eq_true, List.all_eq_true, List.all_eq_true]
    constructor
    · intro e he
      obtain ⟨f, hf, hfe⟩ := List.mem_filterMap.mp (h.subset he)
      obtain ⟨d, -, rfl⟩ := Option.map_eq_some_iff.mp hfe
      simp [isPassable]
    · intro name hname
      obtain ⟨f, hf, rfl⟩ := List.mem_map.mp hname
      rw [named_of_perm nodup h hf, decide_eq_true_eq]
      exact Option.length_toList_le

/-- A section is read as a table of its fields, even if it is left out. -/
theorem IsSection.orElse? {α : Type} {s : Option Document} (read : Document → Option α)
    {standard : α} (hempty : read (.table []) = some standard)
    (nodup : (fields.map Prod.fst).Nodup) (h : IsSection fields s) :
    ∃ d, fields? .json (fields.map Prod.fst) d = some (fields.map Prod.snd) ∧
      Document.orElse? read standard s = read d := by
  cases h with
  | leftOut h => exact ⟨.table [], fields?_of_perm nodup (by rw [h]), hempty.symm⟩
  | @table es h => exact ⟨.table es, fields?_of_perm nodup h, rfl⟩

end Document

/-! ### Settings -/

/-- A choice of settings, with a value for each. -/
abbrev Assignment : Type := (k : Setting) → Option k.form.Value

namespace Setting

/-- The name of the field of a setting. -/
def field : Setting → String
  | maxAttempts => "max_attempts"
  | initialDelay => "initial_delay_ms"
  | maxDelay => "max_delay_ms"
  | backoffMultiplier => "backoff_multiplier"
  | jitterFactor => "jitter_factor"
  | exponential => "exponential_backoff"
  | classifyFailures => "classify_failures"
  | retryableKinds => "retryable_kinds"
  | nonRetryableKinds => "non_retryable_kinds"
  | retryableStatuses => "retryable_statuses"
  | nonRetryableStatuses => "non_retryable_statuses"
  | breakerEnabled => "enabled"
  | failureThreshold => "failure_threshold"
  | breakerTimeout => "timeout_ms"
  | minCalls => "min_calls"
  | workerThreads => "worker_threads"
  | maxPending => "max_pending"
  | threadName => "thread_name"
  | logFilter => "filter"
  | logJson => "json"

def ofBreaker : List Setting := [breakerEnabled, failureThreshold, breakerTimeout, minCalls]

/-- The settings of the retry policy, apart from its breaker. -/
def ofRetry : List Setting :=
  [maxAttempts, initialDelay, maxDelay, backoffMultiplier, jitterFactor, exponential,
    classifyFailures, retryableKinds, nonRetryableKinds, retryableStatuses, nonRetryableStatuses]

def ofPool : List Setting := [workerThreads, maxPending, threadName]

def ofLog : List Setting := [logFilter, logJson]

/-- The fields of some settings, each with its datum if it has one. -/
def fields (datum : Setting → Option Document) (ks : List Setting) :
    List (String × Option Document) :=
  ks.map fun k => (k.field, datum k)

end Setting

namespace Assignment

variable {a : Assignment} {datum : Setting → Option Document} {s : Option Document}

/-- The value of a setting: the chosen one, or the standard one. -/
def value (a : Assignment) (k : Setting) : k.form.Value := (a k).getD (k.get .standard)

def settings (a : Assignment) : Settings := Setting.build a.value

/-- The chosen settings, and no others, have data that denote their values. -/
def DenotedBy (a : Assignment) (datum : Setting → Option Document) : Prop :=
  ∀ k : Setting, Option.Rel k.form.Denotes (a k) (datum k)

open Document Setting in
/-- The chosen settings under the names of their fields, in their sections. -/
def WrittenAs (a : Assignment) (d : Document) : Prop :=
  ∃ datum breaker retry pool log, a.DenotedBy datum ∧
    IsSection (fields datum ofBreaker) breaker ∧
    IsSection (fields datum ofRetry ++ [("circuit_breaker", breaker)]) retry ∧
    IsSection (fields datum ofPool) pool ∧ IsSection (fields datum ofLog) log ∧
    IsSection [("retry", retry), ("scheduler", pool), ("logging", log)] (some d)

theorem orElse?_of_rel {k : Setting} {d : Option Document}
    (h : Option.Rel k.form.Denotes (a k) d) :
    Document.orElse? (k.form.ofDocument? .json) (k.get .standard) d = some (a.value k) := by
  unfold value
  generalize a k = v at h ⊢
  cases h with
  | none => rfl
  | some h => exact Form.ofDocument?_of_denotes h

-- The names of a section's fields are told apart once they are written out, hence the `change`s. From
-- there each field is read in its turn.
open Document Setting in
theorem read_breaker (denoted : a.DenotedBy datum) (h : IsSection (fields datum ofBreaker) s) :
    orElse? (BreakerSettings.ofDocument? .json) .standard s = some a.settings.retry.breaker := by
  have nodup : ((fields datum ofBreaker).map Prod.fst).Nodup := by
    change ["enabled", "failure_threshold", "timeout_ms", "min_calls"].Nodup
    decide
  obtain ⟨d, hfields, hread⟩ := h.orElse? (BreakerSettings.ofDocument? .json) rfl nodup
  have hvalue (k : Setting) := orElse?_of_rel (denoted k)
  rw [hread, BreakerSettings.ofDocument?]
  refine Option.bind_eq_some_iff.mpr ⟨_, hfields, ?_⟩
  refine Option.bind_eq_some_iff.mpr ⟨_, hvalue breakerEnabled, ?_⟩
  refine Option.bind_eq_some_iff.mpr ⟨_, hvalue failureThreshold, ?_⟩
  refine Option.bind_eq_some_iff.mpr ⟨_, hvalue breakerTimeout, ?_⟩
  refine Option.bind_eq_some_iff.mpr ⟨_, hvalue minCalls, ?_⟩
  rfl

open Document in
theorem retry_of_empty : RetrySettings.ofDocument? .json (.table []) = some .standard := by
  have hfields : fields? .json RetrySettings.fieldNames (.table []) =
      some (RetrySettings.fieldNames.map fun _ => none) := rfl
  rw [RetrySettings.ofDocument?, hfields]
  simp only [RetrySettings.fieldNames, List.map, Option.bind_eq_bind, Option.bind_some, orElse?]
  generalize RetrySettings.standard = standard
  rfl

open Document Setting in
theorem read_retry {breaker : Option Document} (denoted : a.DenotedBy datum)
    (hbreaker : IsSection (fields datum ofBreaker) breaker)
    (h : IsSection (fields datum ofRetry ++ [("circuit_breaker", breaker)]) s) :
    orElse? (RetrySettings.ofDocument? .json) .standard s = some a.settings.retry := by
  have nodup : ((fields datum ofRetry ++ [("circuit_breaker", breaker)]).map Prod.fst).Nodup := by
    change RetrySettings.fieldNames.Nodup
    decide
  obtain ⟨d, hfields, hread⟩ := h.orElse? _ retry_of_empty nodup
  have hvalue (k : Setting) := orElse?_of_rel (denoted k)
  rw [hread, RetrySettings.ofDocument?]
  refine Option.bind_eq_some_iff.mpr ⟨_, hfields, ?_⟩
  refine Option.bind_eq_some_iff.mpr ⟨_, hvalue maxAttempts, ?_⟩
  refine Option.bind_eq_some_iff.mpr ⟨_, hvalue initialDelay, ?_⟩
  refine Option.bind_eq_some_iff.mpr ⟨_, hvalue maxDelay, ?_⟩
  refine Option.bind_eq_some_iff.mpr ⟨_, hvalue backoffMultiplier, ?_⟩
  refine Option.bind_eq_some_iff.mpr ⟨_, hvalue jitterFactor, ?_⟩
  refine Option.bind_eq_some_iff.mpr ⟨_, hvalue exponential, ?_⟩
  refine Option.bind_eq_some_iff.mpr ⟨_, hvalue classifyFailures, ?_⟩
  refine Option.bind_eq_some_iff.mpr ⟨_, hvalue retryableKinds, ?_⟩
  refine Option.bind_eq_some_iff.mpr ⟨_, hvalue nonRetryableKinds, ?_⟩
  refine Option.bind_eq_some_iff.mpr ⟨_, hvalue retryableStatuses, ?_⟩
  refine Option.bind_eq_some_iff.mpr ⟨_, hvalue nonRetryableStatuses, ?_⟩
  refine Option.bind_eq_some_iff.mpr ⟨_, read_breaker denoted hbreaker, ?_⟩
  rfl

open Document Setting in
theorem read_pool (denoted : a.DenotedBy datum) (h : IsSection (fields datum ofPool) s) :
    orElse? (PoolSettings.ofDocument? .json) .standard s = some a.settings.pool := by
  have nodup : ((fields datum ofPool).map Prod.fst).Nodup := by
    change ["worker_threads", "max_pending", "thread_name"].Nodup
    decide
  obtain ⟨d, hfields, hread⟩ := h.orElse? (PoolSettings.ofDocument? .json) rfl nodup
  have hvalue (k : Setting) := orElse?_of_rel (denoted k)
  rw [hread, PoolSettings.ofDocument?]
  refine Option.bind_eq_some_iff.mpr ⟨_, hfields, ?_⟩
  refine Option.bind_eq_some_iff.mpr ⟨_, hvalue workerThreads, ?_⟩
  refine Option.bind_eq_some_iff.mpr ⟨_, hvalue maxPending, ?_⟩
  refine Option.bind_eq_some_iff.mpr ⟨_, hvalue threadName, ?_⟩
  rfl

open Document Setting in
theorem read_log (denoted : a.DenotedBy datum) (h : IsSection (fields datum ofLog) s) :
    orElse? (LogSettings.ofDocument? .json) .standard s = some a.settings.log := by
  have nodup : ((fields datum ofLog).map Prod.fst).Nodup := by
    change ["filter", "json"].Nodup
    decide
  obtain ⟨d, hfields, hread⟩ := h.orElse? (LogSettings.ofDocument? .json) rfl nodup
  have hvalue (k : Setting) := orElse?_of_rel (denoted k)
  rw [hread, LogSettings.ofDocument?]
  refine Option.bind_eq_some_iff.mpr ⟨_, hfields, ?_⟩
  refine Option.bind_eq_some_iff.mpr ⟨_, hvalue logFilter, ?_⟩
  refine Option.bind_eq_some_iff.mpr ⟨_, hvalue logJson, ?_⟩
  rfl

open Document in
/-- What is written is read: the settings that are there have their values, all others the standard
ones. -/
theorem ofDocument?_of_writtenAs {d : Document} (h : a.WrittenAs d) :
    Settings.ofDocument? .json d = some a.settings := by
  obtain ⟨datum, breaker, retry, pool, log, denoted, hbreaker, hretry, hpool, hlog, h⟩ := h
  cases h with
  | @table es hperm =>
    have nodup :
        ([("retry", retry), ("scheduler", pool), ("logging", log)].map Prod.fst).Nodup := by
      change ["retry", "scheduler", "logging"].Nodup
      decide
    rw [Settings.ofDocument?]
    refine Option.bind_eq_some_iff.mpr ⟨_, fields?_of_perm nodup hperm, ?_⟩
    refine Option.bind_eq_some_iff.mpr ⟨_, read_retry denoted hbreaker hretry, ?_⟩
    refine Option.bind_eq_some_iff.mpr ⟨_, read_pool denoted hpool, ?_⟩
    refine Option.bind_eq_some_iff.mpr ⟨_, read_log denoted hlog, ?_⟩
    rfl

end Assignment

end Reattempt
