import FactGuard.Config.Load
import FactGuard.Toml.Plain

/-!
# Config/Attribution — settings with their sources

The listing names, for each setting, the layer it is attributed to: the first of its variables that is
set, whether to a blank, to another text or to bytes that are none; else the file, if the plain form of
the file as written has an entry for it; else the default.
-/

namespace FactGuard.Config

/-- Where a setting comes from. -/
inductive Origin
  | environment (name : String)
  | file (path : String)
  | builtIn
  deriving DecidableEq, Repr

/-- An origin in words. -/
def Origin.text : Origin → String
  | environment name => s!"env ({name})"
  | file path => s!"file ({path})"
  | builtIn => "default"

/-- A line of the listing. -/
structure Line where
  keys : List String
  value : String
  names : List String

/-- The settings in the order of the listing. -/
def listing (config : Config) : List Line := [
  ⟨["logging", "level"], config.level, levelVariables⟩,
  ⟨["logging", "format"], config.format.title, formatVariables⟩,
  ⟨["guards", "max_depth"], toString config.maxDepth, [depthVariable]⟩,
  ⟨["registry", "reject_core_overrides"], toString config.rejectCoreOverrides, [rejectVariable]⟩,
  ⟨["registry", "cache_enabled"], toString config.cacheEnabled, [cacheVariable]⟩]

/-- The plain document of the settings file as it is written, if it can be read. -/
def writtenDocument (files : Files) (path : Option String) : Option Toml.Value := do
  let text ← (files.read (← path)).toOption
  (← (Toml.ofString text).toOption).plain?

/-- Whether a document has an entry at a path of keys. -/
def hasEntry (document : Toml.Value) (keys : List String) : Bool :=
  (keys.foldlM (fun value key => Toml.Value.entry? key value) document).isSome

/-- The origin that a setting is attributed to. -/
def Line.origin (line : Line) (environment : Environment) (path : Option String)
    (document : Option Toml.Value) : Origin :=
  match line.names.find? fun name => (environment name).isSet with
  | some name => .environment name
  | none =>
    match path, document with
    | some path, some document => if hasEntry document line.keys then .file path else .builtIn
    | _, _ => .builtIn

/-- A line of the listing as text. -/
def Line.text (line : Line) (origin : Origin) : String :=
  "- " ++ String.intercalate "." line.keys ++ " = " ++ line.value ++ " (source: " ++ origin.text ++ ")"

/-- The settings with their sources. -/
def report (config : Config) (files : Files) (environment : Environment)
    (explicit : Option String) : String :=
  let path := resolvePath files explicit
  let document := writtenDocument files path
  String.intercalate "\n" (
    "effective config (source precedence: flag > env > file > default):" ::
    config.listing.map fun line => line.text (line.origin environment path document))

end FactGuard.Config
