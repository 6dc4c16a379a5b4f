import Reattempt.SetupError
import Reattempt.Settings.Basic

/-!
Settings from environment variables. Each variable has one setting of its own; the variables are read
in a fixed order, the first malformed one ends the reading, and the settings that result are
validated only then. Numbers and flags may stand among blanks; a list is separated by commas, and
its blank items are passed over.
-/
namespace Reattempt

/-- A variable: its name, and how its text changes the settings. -/
structure Variable where
  name : String
  set : Settings → String → Except SettingsError Settings

namespace Variable

/-- Reads one value, blanks around it left out. -/
def readValue {α : Type} (name : String) (read : String → Except ValueError α) (raw : String) :
    Except SettingsError α :=
  match read (Text.trim raw) with
  | .ok a => .ok a
  | .error e => .error (.invalidValue name raw e)

/-- The items between commas, blanks around them left out, and none that is empty. -/
def listItems (raw : String) : List (List Char) :=
  ((raw.toList.splitOn ',').map Text.trimChars).filter (!·.isEmpty)

/-- Reads a list, reporting its first malformed item. -/
def readList {α : Type} (name : String) (read : String → Except ValueError α) (raw : String) :
    Except SettingsError (List α) :=
  (listItems raw).mapM fun item =>
    match read (String.ofList item) with
    | .ok a => .ok a
    | .error e => .error (.invalidEntry name (String.ofList item) e)

/-- Whether a text switches something on: `1`, `true`, `yes` or `on`, in any case of letters. -/
def readFlag (raw : String) : Bool :=
  ["1", "true", "yes", "on"].contains (String.ofList (Text.lowerAscii (Text.trimChars raw.toList)))

def readUnsigned (limit : Nat) (s : String) : Except ValueError Nat :=
  (Text.readUnsigned limit s.toList).mapError .integer

def readU16 (s : String) : Except ValueError UInt16 :=
  (readUnsigned (2 ^ 16 - 1) s).map UInt16.ofNat

def readU32 (s : String) : Except ValueError UInt32 :=
  (readUnsigned (2 ^ 32 - 1) s).map UInt32.ofNat

def readU64 (s : String) : Except ValueError UInt64 :=
  (readUnsigned (2 ^ 64 - 1) s).map UInt64.ofNat

def readMillis (s : String) : Except ValueError Duration :=
  (readUnsigned (2 ^ 64 - 1) s).map Duration.ofMillis

def readNumber (s : String) : Except ValueError Binary64 := (Binary64.read s).mapError .number

def readKind (s : String) : Except ValueError FailureKind := (FailureKind.read s).mapError .kind

/-- A variable that holds one value. -/
def value {α : Type} (name : String) (read : String → Except ValueError α)
    (put : Settings → α → Settings) : Variable :=
  ⟨name, fun s raw => (readValue name read raw).map (put s)⟩

/-- A variable that holds a list. -/
def list {α : Type} (name : String) (read : String → Except ValueError α)
    (put : Settings → List α → Settings) : Variable :=
  ⟨name, fun s raw => (readList name read raw).map (put s)⟩

/-- A variable that holds a flag, which is never malformed. -/
def flag (name : String) (put : Settings → Bool → Settings) : Variable :=
  ⟨name, fun s raw => .ok (put s (readFlag raw))⟩

/-- A variable whose text is taken as it stands. -/
def verbatim (name : String) (put : Settings → String → Settings) : Variable :=
  ⟨name, fun s raw => .ok (put s raw)⟩

/-- Every variable, in the order of reading. -/
def all : List Variable :=
  [value "RATEKEEPER_RETRY_MAX_ATTEMPTS" readU32
      fun s v => { s with retry.maxAttempts := v },
    value "RATEKEEPER_RETRY_INITIAL_DELAY_MS" readMillis
      fun s v => { s with retry.initialDelay := v },
    value "RATEKEEPER_RETRY_MAX_DELAY_MS" readMillis
      fun s v => { s with retry.maxDelay := v },
    value "RATEKEEPER_RETRY_BACKOFF_MULTIPLIER" readNumber
      fun s v => { s with retry.backoffMultiplier := v },
    value "RATEKEEPER_RETRY_JITTER_FACTOR" readNumber
      fun s v => { s with retry.jitterFactor := v },
    flag "RATEKEEPER_RETRY_EXPONENTIAL"
      fun s v => { s with retry.exponential := v },
    flag "RATEKEEPER_RETRY_CLASSIFY_FAILURES"
      fun s v => { s with retry.classifyFailures := v },
    list "RATEKEEPER_RETRY_RETRYABLE_KINDS" readKind
      fun s v => { s with retry.retryableKinds := v },
    list "RATEKEEPER_RETRY_RETRYABLE_STATUSES" readU16
      fun s v => { s with retry.retryableStatuses := v },
    list "RATEKEEPER_RETRY_NON_RETRYABLE_KINDS" readKind
      fun s v => { s with retry.nonRetryableKinds := v },
    list "RATEKEEPER_RETRY_NON_RETRYABLE_STATUSES" readU16
      fun s v => { s with retry.nonRetryableStatuses := v },
    flag "RATEKEEPER_BREAKER_ENABLED"
      fun s v => { s with retry.breaker.enabled := v },
    value "RATEKEEPER_BREAKER_FAILURE_THRESHOLD" readU32
      fun s v => { s with retry.breaker.failureThreshold := v },
    value "RATEKEEPER_BREAKER_TIMEOUT_MS" readMillis
      fun s v => { s with retry.breaker.timeout := v },
    value "RATEKEEPER_BREAKER_MIN_CALLS" readU32
      fun s v => { s with retry.breaker.minCalls := v },
    value "RATEKEEPER_SCHEDULER_THREADS" readU64
      fun s v => { s with pool.workerThreads := v },
    value "RATEKEEPER_SCHEDULER_MAX_PENDING" readU64
      fun s v => { s with pool.maxPending := v },
    verbatim "RATEKEEPER_SCHEDULER_THREAD_NAME"
      fun s v => { s with pool.threadName := v },
    verbatim "RATEKEEPER_LOG_FILTER"
      fun s v => { s with log.filter := v },
    flag "RATEKEEPER_LOG_JSON"
      fun s v => { s with log.json := v }]

/-- The settings after one variable has been read. -/
def overlay (lookup : String → Option String) (s : Settings) (v : Variable) :
    Except SettingsError Settings :=
  match lookup v.name with
  | none => .ok s
  | some raw => v.set s raw

end Variable

namespace Settings

/-- The standard settings with every variable that is set laid over them, if they are valid. -/
def ofVariables (lookup : String → Option String) : Except SetupError Settings := do
  let s ← (Variable.all.foldlM (Variable.overlay lookup) standard).mapError .settings
  s.validate.mapError .invalidConfig
  return s

end Settings

end Reattempt
