import FactGuard.Config.Interpolation
import FactGuard.Config.Patch
import FactGuard.Text.Numeral

/-!
# Config/Load — where settings come from

Settings are layered: what a file sets replaces the default, what a variable sets replaces that, and what
the caller sets replaces everything. Variables that are blank, or set to bytes that are no text, count as
not set. Only the outcome has to be valid, but a variable that cannot be read is an error even where the
caller's setting would replace it.
-/

namespace FactGuard.Config

/-- Settings that the caller makes. -/
structure Overrides where
  level : Option String := none
  format : Option LogFormat := none
  maxDepth : Option Nat := none
  rejectCoreOverrides : Option Bool := none
  deriving DecidableEq, Repr

/-- How settings are loaded. -/
structure LoadOptions where
  /-- The file to load; otherwise the first candidate that is there. -/
  path : Option String := none
  /-- Whether a file must be there. -/
  requireFile : Bool := false
  overrides : Overrides := {}

/-! ## The file -/

/-- The files that are looked for when none is named. -/
def candidates : List String := ["leadguard.toml", "config/leadguard.toml"]

/-- The file that is loaded, if it is there. -/
def resolvePath (files : Files) : Option String → Option String
  | some path => if files.present path then some path else none
  | none => candidates.find? files.present

/-- The settings that a file makes. -/
def readPatch (files : Files) (environment : Environment) (path : String) : Except Error Patch := do
  let raw ← (files.read path).mapError (.unreadable path)
  let text ← interpolate environment raw.toList
  (Patch.ofString (String.ofList text)).mapError (.malformed path)

/-- The settings of the file layer: none without a file, which is an error if one is required. -/
def filePatch (files : Files) (environment : Environment) (options : LoadOptions) :
    Except Error Patch :=
  match resolvePath files options.path with
  | some path => readPatch files environment path
  | none =>
    if options.requireFile then .error (.missingFile (options.path.getD "leadguard.toml"))
    else .ok {}

/-! ## The environment -/

/-- The variables that set the level, the foremost first. -/
def levelVariables : List String := ["LEADGUARD_LOGGING_LEVEL", "LEADGUARD_LOG_LEVEL"]

/-- The variables that set the format, the foremost first. -/
def formatVariables : List String := ["LEADGUARD_LOGGING_FORMAT", "LEADGUARD_LOG_FORMAT"]

/-- The variable that sets the depth. -/
def depthVariable : String := "LEADGUARD_GUARDS_MAX_DEPTH"

/-- The variable that sets whether core facts may be replaced. -/
def rejectVariable : String := "LEADGUARD_REGISTRY_REJECT_CORE_OVERRIDES"

/-- The variable that sets whether registries are remembered. -/
def cacheVariable : String := "LEADGUARD_REGISTRY_CACHE_ENABLED"

/-- All the variables that make settings. -/
def variableNames : List String :=
  levelVariables ++ formatVariables ++ [depthVariable, rejectVariable, cacheVariable]

/-- The value of a variable that is set to a text that is not blank. -/
def valueOf (environment : Environment) (name : String) : Option String :=
  (environment.text? name).filter fun value => !Text.isAllBlank value

/-- The value of the first of several variables that is set and not blank. -/
def firstValue (environment : Environment) (names : List String) : Option String :=
  names.findSome? (valueOf environment)

/-- The number that a variable holds. -/
def parseDepth (name value : String) : Except Error Nat :=
  match Text.word? value.toList with
  | some depth => .ok depth
  | none => .error (.badVariable name value)

/-- The boolean that a variable holds. -/
def parseSwitch (name value : String) : Except Error Bool :=
  if value = "true" then .ok true
  else if value = "false" then .ok false
  else .error (.badVariable name value)

/-- What a value that may be missing is read as. -/
def readValue (value : Option String) (parse : String → Except Error α) :
    Except Error (Option α) :=
  match value with
  | some value => some <$> parse value
  | none => .ok none

/-- The settings of the environment layer. -/
def environmentPatch (environment : Environment) : Except Error Patch := do
  let format ← readValue (firstValue environment formatVariables) parseFormat
  let maxDepth ← readValue (valueOf environment depthVariable) (parseDepth depthVariable)
  let reject ← readValue (valueOf environment rejectVariable) (parseSwitch rejectVariable)
  let cache ← readValue (valueOf environment cacheVariable) (parseSwitch cacheVariable)
  return {
    level := firstValue environment levelVariables
    format, maxDepth, rejectCoreOverrides := reject, cacheEnabled := cache }

/-! ## Layering -/

/-- Settings with those of a layer on top. -/
def apply (config : Config) (patch : Patch) : Config :=
  { level := patch.level.getD config.level
    format := patch.format.getD config.format
    maxDepth := patch.maxDepth.getD config.maxDepth
    rejectCoreOverrides := patch.rejectCoreOverrides.getD config.rejectCoreOverrides
    cacheEnabled := patch.cacheEnabled.getD config.cacheEnabled }

/-- The caller's settings as a layer. -/
def Overrides.patch (overrides : Overrides) : Patch :=
  { level := overrides.level, format := overrides.format, maxDepth := overrides.maxDepth
    rejectCoreOverrides := overrides.rejectCoreOverrides }

/-- Loads the settings. -/
def load (files : Files) (environment : Environment) (options : LoadOptions) :
    Except Error Config := do
  let file ← filePatch files environment options
  let surroundings ← environmentPatch environment
  let config := ((({} : Config).apply file).apply surroundings).apply options.overrides.patch
  config.check
  return config

end FactGuard.Config
