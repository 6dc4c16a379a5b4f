import Reattempt.Files.Tree
import Reattempt.Json.Reader
import Reattempt.Settings.Document
import Reattempt.Settings.Variables
import Reattempt.Toml.Reader

/-!
Loading settings. If any of the variables is set, the variables alone decide; if none is, the first
file found at a standard location does. Either way the settings are valid.
-/
namespace Reattempt

/-- Where settings are looked for. -/
structure Surroundings where
  /-- The variables that are set; nothing for a value that is no text. -/
  environment : List (String × Option String)
  files : FileTree
  /-- The name of the directory that paths start from. -/
  directory : String

namespace Settings

/-- Reads settings from a text, in the notation that the extension of its path tells. -/
def parse (contents path : String) : Except SetupError Settings :=
  let extension := (Path.extension? path).getD "toml"
  if extension = "toml" then
    match (Toml.read? contents).bind (ofDocument? .toml) with
    | some s => .ok s
    | none => .error (.settings .malformedToml)
  else if extension = "json" then
    match (Json.read? contents).bind (ofDocument? .json) with
    | some s => .ok s
    | none => .error (.settings .malformedJson)
  else .error (.settings (.unsupportedFormat extension))

/-- The paths of a settings file below a directory, in the order of preference. -/
def standardPaths : List String :=
  ["ratekeeper.toml", "ratekeeper.json", "config/ratekeeper.toml", "config/ratekeeper.json"]

/-- The first settings file below any of the directories. -/
def find? (files : FileTree) (roots : List String) : Option String :=
  (roots.flatMap fun root => standardPaths.map (Path.join root)).find? files.isFile

end Settings

namespace Surroundings

/-- The settings file at a standard location. -/
def probe? (s : Surroundings) : Option String := Settings.find? s.files [""]

/-- Whether any variable that means something is set. -/
def anySet (s : Surroundings) : Bool :=
  Variable.all.any fun v => (s.environment.lookup v.name).isSome

/-- The text of a variable. -/
def lookup (s : Surroundings) (name : String) : Option String := (s.environment.lookup name).join

def loadVariables (s : Surroundings) : Except SetupError Settings :=
  if s.anySet then Settings.ofVariables s.lookup else .error (.settings .nothingSet)

/-- The text of a file; `shown` is its path in messages. -/
def readText (s : Surroundings) (path shown : String) : Except SetupError String :=
  match s.files.get? path with
  | some (.text contents) => .ok contents
  | some .bytes =>
    .error (.unreadable shown (.system .invalidData "stream did not contain valid UTF-8"))
  | some .directory => .error (.unreadable shown (.system .unlisted "Is a directory (os error 21)"))
  | none => .error (.unreadable shown (.system .notFound "No such file or directory (os error 2)"))

/-- Valid settings from a file that exists. -/
def loadPath (s : Surroundings) (path shown : String) : Except SetupError Settings := do
  let contents ← s.readText path shown
  let settings ← Settings.parse contents path
  settings.validate.mapError .invalidConfig
  return settings

/-- Settings from a given file, or from the one at a standard location. -/
def loadFile (s : Surroundings) : Option String → Except SetupError Settings
  | some path =>
    if s.files.contains path then s.loadPath path path else .error (.settings (.fileMissing path))
  | none =>
    match s.probe? with
    | some path => s.loadPath path (Path.join s.directory path)
    | none => .error (.settings .noFile)

def load (s : Surroundings) : Except SetupError Settings :=
  if s.anySet then s.loadVariables else s.loadFile none

/-- Like `load`, but standard settings where there is nothing to load. -/
def loadOrStandard (s : Surroundings) : Except SetupError Settings :=
  if s.anySet || s.probe?.isSome then s.load else .ok .standard

end Surroundings

end Reattempt
