import FactGuard.Files
import FactGuard.Guard.Validation
import FactGuard.Text.Blank
import FactGuard.Toml.Basic
import FactGuard.Agent.Validation

/-!
# Config/Basic — settings

The settings of the program, what they are by default, and what makes them invalid.
-/

namespace FactGuard

/-- How log lines are written. -/
inductive LogFormat
  | compact
  | pretty
  | json
  deriving DecidableEq, Repr

namespace LogFormat

/-- The name of a format. -/
def key : LogFormat → String
  | compact => "compact"
  | pretty => "pretty"
  | json => "json"

/-- The name of a format in the list of settings. -/
def title : LogFormat → String
  | compact => "Compact"
  | pretty => "Pretty"
  | json => "Json"

/-- Every format under its name. -/
def table : List (String × LogFormat) :=
  [.compact, .pretty, .json].map fun format => (format.key, format)

end LogFormat

/-- The settings. -/
structure Config where
  level : String := "info"
  format : LogFormat := .compact
  maxDepth : Nat := 64
  rejectCoreOverrides : Bool := false
  cacheEnabled : Bool := true
  deriving DecidableEq, Repr

/-- Why there are no settings to work with. -/
inductive Config.Error
  | unreadable (path : String) (fault : FileFault)
  | malformed (path : String) (fault : Toml.Fault)
  /-- A file that must be there is not. -/
  | missingFile (path : String)
  /-- The file mentions a variable that is not set. -/
  | missingVariable (name : String)
  /-- The mention of a variable is not closed. -/
  | unclosedMention
  /-- The value of a variable is not of the type of its setting. -/
  | badVariable (name : String) (value : String)
  | invalid (reason : String)
  deriving DecidableEq, Repr

namespace Config

/-- The wording of an error. -/
def Error.message : Error → String
  | unreadable path fault => s!"could not read config file `{path}`: " ++ fault.message
  | malformed path fault => s!"could not parse config file `{path}`: " ++ fault.message
  | missingFile path => s!"required config file was not found: `{path}`"
  | missingVariable name => s!"environment variable interpolation failed for `{name}`"
  | unclosedMention => "unterminated environment interpolation expression"
  | badVariable name value => s!"invalid environment override for `{name}`: `{value}`"
  | invalid reason => s!"configuration validation failed: {reason}"

/-- Reads the name of a format, whatever its case and the blanks around it. -/
def parseFormat (text : String) : Except Error LogFormat :=
  let name := Text.asciiLower (Text.trimmed text)
  match LogFormat.table.lookup name with
  | some format => .ok format
  | none =>
    .error (.invalid s!"unsupported log format `{name}` (expected compact|pretty|json)")

/-- The levels of log lines. -/
def levels : List String := ["trace", "debug", "info", "warn", "error"]

/-- The greatest depth that may be set for guards. -/
def depthCeiling : Nat := 512

/-- Whether a level is known, whatever its case and the blanks around it. -/
def isLevel (level : String) : Bool := levels.contains (Text.asciiLower (Text.trimmed level))

/-- Checks the settings: first the level, then the depth. -/
def check (config : Config) : Except Error Unit :=
  if !isLevel config.level then
    .error (.invalid "logging.level must be one of trace|debug|info|warn|error")
  else if config.maxDepth = 0 ∨ depthCeiling < config.maxDepth then
    .error (.invalid "guards.max_depth must be in range 1..=512")
  else .ok ()

/-- How guards are checked under these settings. -/
def validator (config : Config) : Guard.Validator := ⟨config.maxDepth⟩

/-- How agents are checked under these settings. -/
def strictness (config : Config) : Agent.Strictness := ⟨config.validator, config.rejectCoreOverrides⟩

end Config

end FactGuard
