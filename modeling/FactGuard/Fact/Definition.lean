import FactGuard.Json.Record
import FactGuard.Json.Writer

/-!
# Fact/Definition — facts that an agent defines for itself

A definition says how the live value of a boolean fact is computed: from lead fields, or from other
facts. A document keeps every operand that was given, also those its derivation does not use.
-/

namespace FactGuard.Fact

open Json (Refusal Source Field Record)

/-- How the value of a defined fact is computed. -/
inductive Derivation
  /-- The field is present. -/
  | present
  /-- The field equals the expected value. -/
  | equals
  /-- One of the fields is present. -/
  | anyPresent
  /-- All of the fields are present. -/
  | allPresent
  /-- The conditions on other facts hold. -/
  | composite
  /-- The field is not present. -/
  | notPresent
  deriving DecidableEq, Repr

/-- The name of a derivation in documents. -/
def Derivation.key : Derivation → String
  | present => "exists"
  | equals => "equals"
  | anyPresent => "any_exists"
  | allPresent => "all_exists"
  | composite => "composite"
  | notPresent => "not_exists"

/-- Every derivation under its name. -/
def Derivation.table : List (String × Derivation) :=
  [.present, .equals, .anyPresent, .allPresent, .composite, .notPresent].map fun derivation =>
    (derivation.key, derivation)

/-- How the conditions of a composite fact are joined. -/
inductive Logic
  | all
  | any
  deriving DecidableEq, Repr, Inhabited

/-- The name of a logic in documents. -/
def Logic.key : Logic → String
  | all => "all"
  | any => "any"

/-- Every logic under its name. -/
def Logic.table : List (String × Logic) := [.all, .any].map fun logic => (logic.key, logic)

/-- A condition of a composite fact: another fact is true. -/
structure Condition where
  fact : String
  deriving DecidableEq, Repr

/-- The definition of a fact. -/
structure Definition where
  name : String
  derivation : Derivation
  field : Option String := none
  fields : List String := []
  value : Option Json := none
  logic : Option Logic := none
  conditions : List Condition := []
  deriving BEq

/-! ## Documents -/

namespace Condition

/-- A condition as a document. -/
def toJson (condition : Condition) : Json := .object [("fact", .string condition.fact)]

/-- The one field of a condition. -/
def record : Record (Option String) where
  name := "FactCondition"
  fields := [⟨"fact", false, Option.isSome, fun source _ => some <$> source.string⟩]
  closed := false

/-- Reads a condition. -/
def read (source : Source) : Except Refusal Condition := do
  let fact ← record.read none source
  return ⟨← Record.require "fact" fact⟩

end Condition

namespace Definition

/-- A definition as a document: operands that were not given are left out. -/
def toJson (definition : Definition) : Json :=
  .object (
    Json.membersOf "conditions" (definition.conditions.map Condition.toJson) ++
    Json.memberOf "field" (definition.field.map .string) ++
    Json.membersOf "fields" (definition.fields.map .string) ++
    Json.memberOf "logic" (definition.logic.map fun logic => .string logic.key) ++
    [("name", .string definition.name), ("type", .string definition.derivation.key)] ++
    Json.memberOf "value" definition.value)

/-- The members of a definition as they go straight to text, in the order of the list form. -/
def members (definition : Definition) : List (String × Json) :=
  ("name", .string definition.name) :: ("type", .string definition.derivation.key) ::
    (Json.memberOf "field" (definition.field.map .string) ++
    Json.membersOf "fields" (definition.fields.map .string) ++
    Json.memberOf "value" definition.value ++
    Json.memberOf "logic" (definition.logic.map fun logic => .string logic.key) ++
    Json.membersOf "conditions" (definition.conditions.map Condition.toJson))

/-- What has been read of a definition. -/
structure Slots where
  name : Option String := none
  derivation : Option Derivation := none
  field : Option (Option String) := none
  fields : Option (List String) := none
  value : Option (Option Json) := none
  logic : Option (Option Logic) := none
  conditions : Option (List Condition) := none

/-- The fields of a definition, in the order of its list form. -/
def record : Record Slots where
  name := "FactDefinition"
  closed := false
  fields := [
    ⟨"name", false, fun slots => slots.name.isSome, fun source slots => do
      return { slots with name := ← source.string }⟩,
    ⟨"type", false, fun slots => slots.derivation.isSome, fun source slots => do
      return { slots with derivation := ← source.choice Derivation.table }⟩,
    ⟨"field", true, fun slots => slots.field.isSome, fun source slots => do
      return { slots with field := some (← source.optional Source.string) }⟩,
    ⟨"fields", true, fun slots => slots.fields.isSome, fun source slots => do
      return { slots with fields := ← source.list Source.string }⟩,
    ⟨"value", true, fun slots => slots.value.isSome, fun source slots => do
      return { slots with value := some (← source.optional Source.json) }⟩,
    ⟨"logic", true, fun slots => slots.logic.isSome, fun source slots => do
      return { slots with logic := some (← source.optional (·.choice Logic.table)) }⟩,
    ⟨"conditions", true, fun slots => slots.conditions.isSome, fun source slots => do
      return { slots with conditions := ← source.list Condition.read }⟩]

/-- Reads a definition. -/
def read (source : Source) : Except Refusal Definition := do
  let slots ← record.read {} source
  return {
    name := ← Record.require "name" slots.name
    derivation := ← Record.require "type" slots.derivation
    field := slots.field.join
    fields := slots.fields.getD []
    value := slots.value.join
    logic := slots.logic.join
    conditions := slots.conditions.getD [] }

end Definition

end FactGuard.Fact
