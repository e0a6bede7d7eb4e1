import FactGuard.Agent.Priority
import FactGuard.Fact.Registry
import FactGuard.Guard.Mentions
import FactGuard.Json.Reader

/-!
# Agent/Basic — agents and their documents

An agent has priorities, and facts of its own beside the core ones.
-/

namespace FactGuard

open Json (Refusal Source Record)

/-- What an agent pursues, and the facts it defines. -/
structure Orchestration where
  definitions : List Fact.Definition := []
  priorities : List Priority := []
  deriving BEq

/-- An agent as the console keeps it. -/
structure Agent where
  id : String
  name : String
  orchestration : Orchestration := {}
  deriving BEq

/-! ## Documents -/

namespace Orchestration

/-- An orchestration as a document. -/
def toJson (orchestration : Orchestration) : Json :=
  .object [
    ("factDefinitions", .array (orchestration.definitions.map Fact.Definition.toJson)),
    ("priorities", .array (orchestration.priorities.map Priority.toJson))]

/-- What has been read of an orchestration. -/
structure Slots where
  definitions : Option (List Fact.Definition) := none
  priorities : Option (List Priority) := none

/-- The fields of an orchestration, in the order of its list form. -/
def record : Record Slots where
  name := "Orchestration"
  closed := false
  fields := [
    ⟨"factDefinitions", true, fun slots => slots.definitions.isSome, fun source slots => do
      return { slots with definitions := ← source.list Fact.Definition.read }⟩,
    ⟨"priorities", true, fun slots => slots.priorities.isSome, fun source slots => do
      return { slots with priorities := ← source.list Priority.read }⟩]

/-- Reads an orchestration. -/
def read (source : Source) : Except Refusal Orchestration := do
  let slots ← record.read {} source
  return ⟨slots.definitions.getD [], slots.priorities.getD []⟩

end Orchestration

namespace Agent

/-- An agent as a document. -/
def toJson (agent : Agent) : Json :=
  .object [
    ("id", .string agent.id), ("name", .string agent.name),
    ("orchestration", agent.orchestration.toJson)]

/-- What has been read of an agent. -/
structure Slots where
  id : Option String := none
  name : Option String := none
  orchestration : Option Orchestration := none

/-- The fields of an agent, in the order of its list form. -/
def record : Record Slots where
  name := "AgentConfig"
  closed := false
  fields := [
    ⟨"id", false, fun slots => slots.id.isSome, fun source slots => do
      return { slots with id := ← source.string }⟩,
    ⟨"name", false, fun slots => slots.name.isSome, fun source slots => do
      return { slots with name := ← source.string }⟩,
    ⟨"orchestration", true, fun slots => slots.orchestration.isSome, fun source slots => do
      return { slots with orchestration := ← Orchestration.read source }⟩]

/-- Reads an agent. -/
def read (source : Source) : Except Refusal Agent := do
  let slots ← record.read {} source
  return {
    id := ← Record.require "id" slots.id
    name := ← Record.require "name" slots.name
    orchestration := slots.orchestration.getD {} }

/-- Reads an agent from the text of its document. -/
def ofText (text : String) : Except Refusal Agent := do
  let document := Json.Document.ofString text
  let agent ← read (.text document.root)
  if document.trailing then throw (.fault .trailingText)
  return agent

/-! ## Facts and priorities -/

/-- The definitions of an agent's own facts. -/
def definitions (agent : Agent) : List Fact.Definition := agent.orchestration.definitions

/-- The priorities of an agent, in order. -/
def priorities (agent : Agent) : List Priority := agent.orchestration.priorities

/-- The facts that the guards of an agent may mention. -/
def registry (agent : Agent) : Fact.Registry := .ofDefinitions agent.definitions

/-- The first priority of the given id. -/
def priority? (agent : Agent) (id : String) : Option Priority :=
  agent.priorities.find? fun priority => priority.id = id

/-- The priorities whose guards mention a fact. -/
def prioritiesMentioning (agent : Agent) (fact : String) : List Priority :=
  agent.priorities.filter fun priority => (Guard.factsOfStored priority.guard).contains fact

end Agent

end FactGuard
