import FactGuard.Fact.Definition
import FactGuard.Fact.Value

/-!
# Fact/Meta — what is published about a fact

An entry gives a fact its label, its type and the values it may be compared with. Null belongs to every
list of values, since any fact may still be unknown.
-/

namespace FactGuard.Fact

open Json (Refusal Source Record)

/-- The type of a fact. -/
inductive Kind
  | text
  | boolean
  deriving DecidableEq, Repr

/-- The name of a type in documents. -/
def Kind.key : Kind → String
  | text => "string"
  | boolean => "boolean"

/-- Every type under its name. -/
def Kind.table : List (String × Kind) := [.text, .boolean].map fun kind => (kind.key, kind)

/-- Where a fact comes from. -/
inductive Origin
  | core
  | custom
  deriving DecidableEq, Repr, Inhabited

/-- The name of an origin in documents. -/
def Origin.key : Origin → String
  | core => "core"
  | custom => "custom"

/-- Every origin under its name. -/
def Origin.table : List (String × Origin) := [.core, .custom].map fun origin => (origin.key, origin)

/-- What is published about a fact. -/
structure Meta where
  label : String
  kind : Kind
  values : List Value
  description : String
  origin : Origin := .core
  deriving DecidableEq

namespace Meta

/-- A fact that is true, false or unknown. -/
def boolean (label description : String) : Meta :=
  { label, kind := .boolean, values := [.bool true, .bool false, .null], description }

/-- A fact that is one of the given texts or unknown; with no text given, any text. -/
def text (label : String) (texts : List String) (description : String) : Meta :=
  { label, kind := .text, values := texts.map .text ++ [.null], description }

/-- The entry of a fact that an agent defines: a boolean under its own name. -/
def custom (definition : Definition) : Meta :=
  { boolean definition.name ("Fact personalizado (" ++ definition.derivation.key ++ ")") with
    origin := .custom }

/-- Whether a fact may be compared with a value. Null always may; a text may if the fact lists it, or
lists no text at all. -/
def accepts (info : Meta) (value : Value) : Bool :=
  match info.kind, value with
  | _, .null => true
  | .boolean, .bool _ => true
  | .text, .text _ => info.values.all Value.isNull || info.values.contains value
  | _, _ => false

/-- An entry as a document. -/
def toJson (info : Meta) : Json :=
  .object [
    ("description", .string info.description), ("label", .string info.label),
    ("source", .string info.origin.key), ("type", .string info.kind.key),
    ("values", .array (info.values.map Value.toJson))]

/-- What has been read of an entry. -/
structure Slots where
  label : Option String := none
  kind : Option Kind := none
  values : Option (List Value) := none
  description : Option String := none
  origin : Option Origin := none

/-- The fields of an entry, in the order of its list form. -/
def record : Record Slots where
  name := "FactMeta"
  closed := false
  fields := [
    ⟨"label", false, fun slots => slots.label.isSome, fun source slots => do
      return { slots with label := ← source.string }⟩,
    ⟨"type", false, fun slots => slots.kind.isSome, fun source slots => do
      return { slots with kind := ← source.choice Kind.table }⟩,
    ⟨"values", false, fun slots => slots.values.isSome, fun source slots => do
      return { slots with values := ← source.list Value.read }⟩,
    ⟨"description", false, fun slots => slots.description.isSome, fun source slots => do
      return { slots with description := ← source.string }⟩,
    ⟨"source", true, fun slots => slots.origin.isSome, fun source slots => do
      return { slots with origin := ← source.choice Origin.table }⟩]

/-- Reads an entry. -/
def read (source : Source) : Except Refusal Meta := do
  let slots ← record.read {} source
  return {
    label := ← Record.require "label" slots.label
    kind := ← Record.require "type" slots.kind
    values := ← Record.require "values" slots.values
    description := ← Record.require "description" slots.description
    origin := slots.origin.getD .core }

end Meta

end FactGuard.Fact
