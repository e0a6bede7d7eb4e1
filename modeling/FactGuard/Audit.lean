import FactGuard.Json.Record
import FactGuard.Json.Writer

/-!
# Audit — the trail of what was checked and decided

Events carry the context of the call that caused them. A trail holds them in the order in which they were
emitted.
-/

namespace FactGuard.Audit

open Json (Refusal Source Record)

/-- What an event is about. -/
inductive Category
  | validation
  | eligibility
  deriving DecidableEq, Repr

/-- The name of a category in documents. -/
def Category.key : Category → String
  | validation => "Validation"
  | eligibility => "Eligibility"

/-- Every category under its name. -/
def Category.table : List (String × Category) :=
  [.validation, .eligibility].map fun category => (category.key, category)

/-- How what an event tells of came out. -/
inductive Outcome
  | success
  | rejected
  | failed
  deriving DecidableEq, Repr

/-- The name of an outcome in documents. -/
def Outcome.key : Outcome → String
  | success => "Success"
  | rejected => "Rejected"
  | failed => "Failed"

/-- Every outcome under its name. -/
def Outcome.table : List (String × Outcome) :=
  [.success, .rejected, .failed].map fun outcome => (outcome.key, outcome)

/-- On whose behalf something is done. -/
structure Context where
  agent : Option String
  conversation : Option String
  correlation : String
  actor : String
  deriving DecidableEq, Repr

/-- An event. The identity that it draws at random and the time that it takes off the clock are left out:
they come from outside, and nothing else of an event or of a check depends on them. -/
structure Event where
  context : Context
  name : String
  category : Category
  outcome : Outcome
  /-- What else is told, sorted by name. -/
  metadata : List (String × String)
  deriving DecidableEq, Repr

/-- The events so far, first to last. -/
abbrev Trail := List Event

namespace Context

/-- A context as a document. -/
def toJson (context : Context) : Json :=
  .object [
    ("actor", .string context.actor), ("agent_id", Json.ofText? context.agent),
    ("conversation_id", Json.ofText? context.conversation),
    ("correlation_id", .string context.correlation)]

/-- What has been read of a context. -/
structure Slots where
  agent : Option (Option String) := none
  conversation : Option (Option String) := none
  correlation : Option String := none
  actor : Option String := none

/-- The fields of a context, in the order of its list form. -/
def record : Record Slots where
  name := "AuditContext"
  closed := false
  fields := [
    ⟨"agent_id", false, fun slots => slots.agent.isSome, fun source slots => do
      return { slots with agent := some (← source.optional Source.string) }⟩,
    ⟨"conversation_id", false, fun slots => slots.conversation.isSome, fun source slots => do
      return { slots with conversation := some (← source.optional Source.string) }⟩,
    ⟨"correlation_id", false, fun slots => slots.correlation.isSome, fun source slots => do
      return { slots with correlation := ← source.string }⟩,
    ⟨"actor", false, fun slots => slots.actor.isSome, fun source slots => do
      return { slots with actor := ← source.string }⟩]

/-- Reads a context. -/
def read (source : Source) : Except Refusal Context := do
  let slots ← record.read {} source
  return {
    agent := slots.agent.join
    conversation := slots.conversation.join
    correlation := ← Record.require "correlation_id" slots.correlation
    actor := ← Record.require "actor" slots.actor }

end Context

namespace Event

/-- An event that tells nothing else yet. -/
def new (context : Context) (name : String) (category : Category) (outcome : Outcome) : Event :=
  ⟨context, name, category, outcome, []⟩

/-- Tells something more. -/
def telling (event : Event) (name value : String) : Event :=
  { event with metadata := Sorted.insert name value event.metadata }

/-- An event as a document. -/
def toJson (event : Event) : Json :=
  .object [
    ("actor", .string event.context.actor), ("agent_id", Json.ofText? event.context.agent),
    ("category", .string event.category.key),
    ("conversation_id", Json.ofText? event.context.conversation),
    ("correlation_id", .string event.context.correlation), ("event_type", .string event.name),
    ("metadata", .object (event.metadata.map fun (name, value) => (name, .string value))),
    ("outcome", .string event.outcome.key)]

end Event

end FactGuard.Audit
