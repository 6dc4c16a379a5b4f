import Reattempt.Binary64.Decimal
import Reattempt.Failure.Basic
import Reattempt.Text.Integer
import Reattempt.Text.Quoted

/-!
What can go wrong before an engine runs: settings that cannot be read or are out of range, log output
that cannot be set up, and a pool that cannot start or stop.
-/
namespace Reattempt

/-- Why a single value in a variable cannot be read. -/
inductive ValueError where
  | integer (e : Text.IntegerError)
  | number (e : Binary64.ReadError)
  | kind (e : ConfigError)

def ValueError.message : ValueError → String
  | .integer e => e.message
  | .number e => e.message
  | .kind e => e.message

/-- Why there are no settings. -/
inductive SettingsError where
  | invalidValue (name raw : String) (cause : ValueError)
  | invalidEntry (name item : String) (cause : ValueError)
  | nothingSet
  | fileMissing (path : String)
  | noFile
  | unsupportedFormat (extension : String)
  | malformedToml
  | malformedJson
  | stated (message : String)

def SettingsError.message : SettingsError → String
  | .invalidValue name raw cause =>
    "Invalid " ++ name ++ " value " ++ Text.quote raw ++ ": " ++ cause.message
  | .invalidEntry name item cause =>
    "Invalid entry " ++ Text.quote item ++ " in " ++ name ++ ": " ++ cause.message
  | .nothingSet => "No RATEKEEPER_* environment variables set"
  | .fileMissing path => "Config file not found: " ++ path
  | .noFile => "No config file found in any of the standard locations"
  | .unsupportedFormat extension => "Unsupported config format: " ++ extension
  | .malformedToml => "Invalid TOML format"
  | .malformedJson => "Invalid JSON format"
  | .stated message => message

/-- Why a filter for log output cannot be read. -/
inductive FilterError where
  | directive
  | level
  deriving DecidableEq, Repr

def FilterError.message : FilterError → String
  | .directive => "invalid filter directive"
  | .level =>
    "error parsing level filter: expected one of \"off\", \"error\", \"warn\", \"info\", "
      ++ "\"debug\", \"trace\", or a number 0-5"

/-- Why log output cannot be set up. -/
inductive LogError where
  | invalidFilter (filter : String) (why : FilterError)
  | alreadyInstalled
  | stated (message : String)

def LogError.message : LogError → String
  | .invalidFilter filter why => "invalid filter " ++ Text.quote filter ++ ": " ++ why.message
  | .alreadyInstalled => "a global default trace dispatcher has already been set"
  | .stated message => message

/-- Why a pool cannot start or stop. -/
inductive PoolError where
  | invalidSettings (e : ConfigError)
  | creationFailed (message : String)
  | noRuntime (message : String)
  /-- What was still running outlasted the span. -/
  | timeout (waited : Duration)

def PoolError.message : PoolError → String
  | .invalidSettings e => e.message
  | .creationFailed message => "Failed to create scheduler runtime: " ++ message
  | .noRuntime message => "No tokio runtime available: " ++ message
  | .timeout waited => "Scheduler did not drain within " ++ waited.text

/-- An error in setting up. -/
inductive SetupError where
  | settings (e : SettingsError)
  | invalidConfig (e : ConfigError)
  /-- A file could not be read. -/
  | unreadable (path : String) (cause : Failure)
  | log (e : LogError)
  | pool (e : PoolError)

namespace SetupError

def message : SetupError → String
  | settings e => "configuration error: " ++ e.message
  | invalidConfig e => e.message
  | unreadable path cause => "failed to read " ++ path ++ ": " ++ cause.text
  | log e => "logging initialisation failed: " ++ e.message
  | pool e => e.message

def classification : SetupError → Classification
  | settings _ => .permanent
  | invalidConfig _ => { Classification.permanent with critical := true }
  | unreadable .. => { Classification.permanent with retryable := true }
  | log _ => { Classification.permanent with severity := .warning }
  | pool (.timeout _) => { Classification.permanent with retryable := true, severity := .warning }
  | pool (.creationFailed _) => { Classification.permanent with critical := true }
  | pool _ => .permanent

/-- The failure underneath, if the error wraps one. -/
def source? : SetupError → Option Failure
  | unreadable _ cause => some cause
  | _ => none

end SetupError

end Reattempt
