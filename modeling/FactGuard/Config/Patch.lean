import FactGuard.Config.Basic
import FactGuard.Toml.Reader

/-!
# Config/Patch — the settings that a file makes

A file sets any part of the settings. A section is a table of its settings, or an array of all of them in
order. What a file says beyond the settings does not matter.
-/

namespace FactGuard.Config

/-- The settings that a file makes. -/
structure Patch where
  level : Option String := none
  format : Option LogFormat := none
  maxDepth : Option Nat := none
  rejectCoreOverrides : Option Bool := none
  cacheEnabled : Option Bool := none
  deriving DecidableEq, Repr

namespace Patch

open Toml (Fault Value)

/-- A text setting. -/
def textSetting (key : String) : Value → Except Fault String
  | .text content => .ok content
  | _ => .error (.badSetting key)

/-- A boolean setting. -/
def boolSetting (key : String) : Value → Except Fault Bool
  | .boolean value => .ok value
  | _ => .error (.badSetting key)

/-- A setting that counts something. -/
def countSetting (key : String) : Value → Except Fault Nat
  | .integer value => if 0 ≤ value then .ok value.toNat else .error (.badSetting key)
  | _ => .error (.badSetting key)

/-- Whether a value holds nothing. -/
def isHollow : Value → Bool
  | .table [] => true
  | .array [] => true
  | _ => false

/-- A setting of the format: its name, or a table with its name over something that holds nothing. -/
def formatSetting (key : String) (value : Value) : Except Fault LogFormat :=
  let name? := match value with
    | .text content => some content
    | .table [(name, content)] => if isHollow content then some name else none
    | _ => none
  match name?.bind fun name => LogFormat.table.lookup name with
  | some format => .ok format
  | none => .error (.badSetting key)

/-- The settings of a section, each looked up by its key or its place. A date stands for an empty section. -/
def sectionSettings (name : String) (keys : List String) : Option Value →
    Except Fault (String → Option Value)
  | none => .ok fun _ => none
  | some (.table entries) => .ok fun key => entries.lookup key
  | some (.array items) =>
    if items.length < keys.length then .error (.badSetting name)
    else .ok fun key => (keys.zip items).lookup key
  | some .datetime => .ok fun _ => none
  | some _ => .error (.badSetting name)

/-- A setting that a section may make. -/
def setting (settings : String → Option Value) (key : String)
    (take : String → Value → Except Fault α) : Except Fault (Option α) :=
  match settings key with
  | none => .ok none
  | some value => some <$> take key value

/-- The settings that a document makes. -/
def ofDocument (document : Value) : Except Fault Patch := do
  let logging ← sectionSettings "logging" ["level", "format"] (document.entry? "logging")
  let guards ← sectionSettings "guards" ["max_depth"] (document.entry? "guards")
  let registry ← sectionSettings "registry" ["reject_core_overrides", "cache_enabled"]
    (document.entry? "registry")
  return {
    level := ← setting logging "level" textSetting
    format := ← setting logging "format" formatSetting
    maxDepth := ← setting guards "max_depth" countSetting
    rejectCoreOverrides := ← setting registry "reject_core_overrides" boolSetting
    cacheEnabled := ← setting registry "cache_enabled" boolSetting }

/-- The settings that a text makes. -/
def ofString (text : String) : Except Fault Patch := Toml.ofString text >>= ofDocument

end Patch

end FactGuard.Config
