import Reattempt.Binary64.Layout
import Reattempt.Severity
import Reattempt.Time.DurationText

/-!
A configuration field outside its permitted range. A list of checks is reported by its first failure.
-/
namespace Reattempt

/-- What a field should have satisfied. -/
inductive Constraint where
  | positive
  | atLeastInitialDelay (initial : Duration)
  | growing (actual : Binary64)
  | fraction (actual : Binary64)
  | atLeastOne
  | notBlank
  | knownKind (actual : String)
  | stated (message : String)

def Constraint.message : Constraint → String
  | .positive => "must be greater than 0"
  | .atLeastInitialDelay d => "must be at least initial_delay (" ++ d.text ++ ")"
  | .growing x => "must be a finite value greater than 1.0, got " ++ x.write .message
  | .fraction x => "must be within [0.0, 1.0], got " ++ x.write .message
  | .atLeastOne => "must be at least 1"
  | .notBlank => "must not be empty"
  | .knownKind s => "unknown kind '" ++ s ++ "'"
  | .stated message => message

/-- A field and the constraint it violates. -/
structure ConfigError where
  field : String
  constraint : Constraint

namespace ConfigError

def message (e : ConfigError) : String :=
  "invalid configuration: " ++ e.field ++ " " ++ e.constraint.message

def classification (_ : ConfigError) : Classification := .permanent

/-- Succeeds when no check fails, else reports the first that does. -/
def firstOf (checks : List (Bool × ConfigError)) : Except ConfigError Unit :=
  match checks.find? (·.1) with
  | some (_, e) => .error e
  | none => .ok ()

end ConfigError

end Reattempt
