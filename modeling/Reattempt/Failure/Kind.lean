import Reattempt.ConfigError
import Reattempt.Text.Blank

/-!
The closed set of categories that operation failures fall into, and the names configuration uses for
them.
-/
namespace Reattempt

/-- Coarse category of a failure. -/
inductive FailureKind where
  /-- The peer refused, reset or could not be reached. -/
  | connection
  | timeout
  /-- A shared resource could not be acquired. -/
  | resourceAccess
  /-- The remote side throttled the call. -/
  | rateLimited
  /-- The remote side failed on a well formed request. -/
  | server
  /-- The request itself was rejected. -/
  | client
  | invalidArgument
  | security
  | serialization
  | other
  deriving DecidableEq, Repr

namespace FailureKind

/-- Every kind, in the order of declaration. -/
def all : List FailureKind :=
  [connection, timeout, resourceAccess, rateLimited, server, client, invalidArgument, security,
    serialization, other]

theorem mem_all (k : FailureKind) : k ∈ all := by cases k <;> decide

/-- The name used in configuration. -/
def name : FailureKind → String
  | connection => "connection"
  | timeout => "timeout"
  | resourceAccess => "resource_access"
  | rateLimited => "rate_limited"
  | server => "server"
  | client => "client"
  | invalidArgument => "invalid_argument"
  | security => "security"
  | serialization => "serialization"
  | other => "other"

/-- The name used in descriptions of a structure. -/
def title : FailureKind → String
  | connection => "Connection"
  | timeout => "Timeout"
  | resourceAccess => "ResourceAccess"
  | rateLimited => "RateLimited"
  | server => "Server"
  | client => "Client"
  | invalidArgument => "InvalidArgument"
  | security => "Security"
  | serialization => "Serialization"
  | other => "Other"

/-- The kind of exactly that name. -/
def ofName? (s : String) : Option FailureKind := all.find? (·.name = s)

/-- The spelling under which a name is looked up: no blanks around it, lower case, and underscores
for hyphens. -/
def normalize (s : String) : String :=
  String.ofList ((Text.lowerAscii (Text.trimChars s.toList)).map fun c => if c = '-' then '_' else c)

/-- Reads a kind as people write it. -/
def read (s : String) : Except ConfigError FailureKind :=
  match ofName? (normalize s) with
  | some k => .ok k
  | none => .error ⟨"error_kind", .knownKind s⟩

end FailureKind

end Reattempt
