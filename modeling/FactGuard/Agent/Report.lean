import FactGuard.Json.Record
import FactGuard.Guard.Validation

/-!
# Agent/Report — what checking an agent finds

A report lists the issues of the agent as a whole and has an entry for each of its priorities.
-/

namespace FactGuard

open Json (Refusal Source Record)

/-- An issue of an agent. -/
structure Agent.Issue where
  code : String
  message : String
  deriving DecidableEq, Repr

/-- The outcome of checking one priority. -/
structure Priority.Report where
  id : String
  valid : Bool
  errors : List String
  /-- The number of conditions of the guard, if it is valid. -/
  conditions : Nat
  summary : String
  deriving DecidableEq, Repr

/-- The outcome of checking an agent. -/
structure Agent.Report where
  agent : String
  valid : Bool
  issues : List Agent.Issue
  priorities : List Priority.Report
  deriving DecidableEq, Repr

namespace Guard.Validation

/-- The outcome of checking a guard, as a document. -/
def toJson (validation : Validation) : Json :=
  .object [("errors", Json.strings validation.errors), ("valid", .bool validation.valid)]

/-- The fields of a validation, in the order of its list form. -/
def record : Record (Option Bool × Option (List String)) where
  name := "GuardValidation"
  closed := false
  fields := [
    ⟨"valid", false, fun slots => slots.1.isSome, fun source slots => do
      return (some (← source.bool), slots.2)⟩,
    ⟨"errors", false, fun slots => slots.2.isSome, fun source slots => do
      return (slots.1, some (← source.list Source.string))⟩]

/-- Reads the outcome of checking a guard. -/
def read (source : Source) : Except Refusal Validation := do
  let slots ← record.read (none, none) source
  return ⟨← Record.require "valid" slots.1, ← Record.require "errors" slots.2⟩

end Guard.Validation

namespace Agent.Issue

/-- An issue as a document. -/
def toJson (issue : Issue) : Json :=
  .object [("code", .string issue.code), ("message", .string issue.message)]

/-- The fields of an issue, in the order of its list form. -/
def record : Record (Option String × Option String) where
  name := "AgentIssue"
  closed := false
  fields := [
    ⟨"code", false, fun slots => slots.1.isSome, fun source slots => do
      return (some (← source.string), slots.2)⟩,
    ⟨"message", false, fun slots => slots.2.isSome, fun source slots => do
      return (slots.1, some (← source.string))⟩]

/-- Reads an issue. -/
def read (source : Source) : Except Refusal Issue := do
  let slots ← record.read (none, none) source
  return ⟨← Record.require "code" slots.1, ← Record.require "message" slots.2⟩

end Agent.Issue

namespace Priority.Report

/-- The report of a priority as a document. -/
def toJson (report : Report) : Json :=
  .object [
    ("conditions", Json.nat report.conditions), ("errors", Json.strings report.errors),
    ("priority_id", .string report.id), ("summary", .string report.summary),
    ("valid", .bool report.valid)]

/-- What has been read of the report of a priority. -/
structure Slots where
  id : Option String := none
  valid : Option Bool := none
  errors : Option (List String) := none
  conditions : Option Nat := none
  summary : Option String := none

/-- The fields of the report of a priority, in the order of its list form. -/
def record : Record Slots where
  name := "PriorityReport"
  closed := false
  fields := [
    ⟨"priority_id", false, fun slots => slots.id.isSome, fun source slots => do
      return { slots with id := ← source.string }⟩,
    ⟨"valid", false, fun slots => slots.valid.isSome, fun source slots => do
      return { slots with valid := ← source.bool }⟩,
    ⟨"errors", false, fun slots => slots.errors.isSome, fun source slots => do
      return { slots with errors := ← source.list Source.string }⟩,
    ⟨"conditions", false, fun slots => slots.conditions.isSome, fun source slots => do
      return { slots with conditions := ← source.nat }⟩,
    ⟨"summary", false, fun slots => slots.summary.isSome, fun source slots => do
      return { slots with summary := ← source.string }⟩]

/-- Reads the report of a priority. -/
def read (source : Source) : Except Refusal Report := do
  let slots ← record.read {} source
  return {
    id := ← Record.require "priority_id" slots.id
    valid := ← Record.require "valid" slots.valid
    errors := ← Record.require "errors" slots.errors
    conditions := ← Record.require "conditions" slots.conditions
    summary := ← Record.require "summary" slots.summary }

end Priority.Report

namespace Agent.Report

/-- The report of an agent as a document. -/
def toJson (report : Report) : Json :=
  .object [
    ("agent_id", .string report.agent), ("issues", .array (report.issues.map Issue.toJson)),
    ("priorities", .array (report.priorities.map Priority.Report.toJson)),
    ("valid", .bool report.valid)]

/-- What has been read of the report of an agent. -/
structure Slots where
  agent : Option String := none
  valid : Option Bool := none
  issues : Option (List Issue) := none
  priorities : Option (List Priority.Report) := none

/-- The fields of the report of an agent, in the order of its list form. -/
def record : Record Slots where
  name := "AgentValidationReport"
  closed := false
  fields := [
    ⟨"agent_id", false, fun slots => slots.agent.isSome, fun source slots => do
      return { slots with agent := ← source.string }⟩,
    ⟨"valid", false, fun slots => slots.valid.isSome, fun source slots => do
      return { slots with valid := ← source.bool }⟩,
    ⟨"issues", false, fun slots => slots.issues.isSome, fun source slots => do
      return { slots with issues := ← source.list Issue.read }⟩,
    ⟨"priorities", false, fun slots => slots.priorities.isSome, fun source slots => do
      return { slots with priorities := ← source.list Priority.Report.read }⟩]

/-- Reads the report of an agent. -/
def read (source : Source) : Except Refusal Report := do
  let slots ← record.read {} source
  return {
    agent := ← Record.require "agent_id" slots.agent
    valid := ← Record.require "valid" slots.valid
    issues := ← Record.require "issues" slots.issues
    priorities := ← Record.require "priorities" slots.priorities }

/-- The number of issues and errors of a report. -/
def problems (report : Report) : Nat :=
  report.issues.length + (report.priorities.flatMap (·.errors)).length

end Agent.Report

end FactGuard
