import Reattempt.SetupError
import Reattempt.Text.Alphanumeric
import Reattempt.Text.Blank

/-!
Filters for log output: a level for everything, or levels for targets. A filter is a list of
directives with commas between them. The filter of the environment wins over the one in the settings
if it is well formed.
-/
namespace Reattempt

/-- How much is logged. -/
inductive LogLevel where
  | off
  | error
  | warn
  | info
  | debug
  | trace
  deriving DecidableEq, Repr

namespace LogLevel

def all : List LogLevel := [off, error, warn, info, debug, trace]

def name : LogLevel → String
  | off => "off"
  | error => "error"
  | warn => "warn"
  | info => "info"
  | debug => "debug"
  | trace => "trace"

/-- A level by its name, in any case of letters, or by its place among the levels. -/
def read? (cs : List Char) : Option LogLevel :=
  match Text.readUnsigned (2 ^ 64 - 1) cs with
  | .ok n => all[n]?
  | .error _ => all.find? (·.name.toList = Text.lowerAscii cs)

end LogLevel

/-- What is logged: everything up to a level, or up to a level from one target only. -/
structure LogDirective where
  target : Option String
  level : LogLevel
  deriving DecidableEq, Repr

namespace LogDirective

/-- Begins a directive. -/
def isStart (c : Char) : Bool := c = '-' || c = ':' || c = '_' || Text.isAlphanumeric c

/-- Reads a target with its level; without a level, everything is logged from the target. -/
def readTarget (target level : List Char) : Except FilterError LogDirective :=
  if target.contains '[' then .error .directive
  else if level.isEmpty then .ok ⟨some (String.ofList target), .trace⟩
  else
    match LogLevel.read? level with
    | some level => .ok ⟨some (String.ofList target), level⟩
    | none => .error .level

/-- Reads a directive: a level, a target, or a target and a level with an equals sign between them.
Blanks around a directive are no error by themselves, but they belong to it: a level with blanks is
a target, and nothing that begins with blanks may give a level. -/
def read (cs : List Char) : Except FilterError LogDirective :=
  match Text.trimChars cs with
  | [] => .error .directive
  | first :: _ =>
    if !isStart first then .error .directive
    else
      match LogLevel.read? cs, cs.dropWhile (· ≠ '=') with
      | some level, _ => .ok ⟨none, level⟩
      | none, [] => readTarget cs []
      | none, _ :: level =>
        if cs.head? = some first then readTarget (cs.takeWhile (· ≠ '=')) level
        else .error .level

/-- Whether a directive is looked at before another: longer targets come first, those of one length
in the order from the end of the alphabet, and what applies to every target comes last. -/
def precedes (a b : LogDirective) : Bool :=
  match a.target, b.target with
  | some t, some u => u.utf8ByteSize < t.utf8ByteSize || (u.utf8ByteSize = t.utf8ByteSize && u < t)
  | some _, none => true
  | none, _ => false

def text (d : LogDirective) : String :=
  match d.target with
  | some target => target ++ "=" ++ d.level.name
  | none => d.level.name

end LogDirective

/-- A filter: its directives in the order in which they are looked at, one for a target. -/
structure LogFilter where
  directives : List LogDirective
  deriving DecidableEq, Repr

namespace LogFilter

/-- Puts a directive in its place. It replaces one of the same target. -/
def insert (d : LogDirective) : List LogDirective → List LogDirective
  | [] => [d]
  | e :: es =>
    if d.target = e.target then d :: es
    else if d.precedes e then d :: e :: es
    else e :: insert d es

/-- Reads a filter. Nothing between two commas is no directive, and without any nothing is logged. -/
def read (s : String) : Except LogError LogFilter :=
  let parts := ((s.splitOn ",").filter (!·.isEmpty)).mapM fun part => LogDirective.read part.toList
  match parts with
  | .ok ds => .ok ⟨ds.foldl (fun es d => insert d es) []⟩
  | .error why => .error (.invalidFilter s why)

def text (f : LogFilter) : String := ",".intercalate (f.directives.map LogDirective.text)

/-- The filter in force: the one of the environment if it is well formed, else the configured one. -/
def inForce (environment : Option String) (configured : String) : Except LogError LogFilter :=
  match environment.map read with
  | some (.ok f) => .ok f
  | _ => read configured

/-- Sets up log output where it has been set up before, which fails either way. -/
def setUpAgain (environment : Option String) (configured : String) : LogError :=
  match inForce environment configured with
  | .ok _ => .alreadyInstalled
  | .error e => e

end LogFilter

end Reattempt
