import FactGuard.Agent.Validation

/-!
# Eligibility — which priorities may be pursued now

A priority without a guard is always eligible. A guard that does not validate against the registry, or
cannot be read, never makes its priority eligible; any other guard decides on the live facts.
-/

namespace FactGuard.Eligibility

open Json (Refusal Source Record)
open Guard (Validator rootPath)

/-- How the decision on a priority came about. -/
inductive Outcome
  /-- There is no guard. -/
  | unconditional
  | guardPassed
  | guardFailed
  | invalidGuard
  deriving DecidableEq, Repr

/-- The name of an outcome in documents. -/
def Outcome.key : Outcome → String
  | unconditional => "unconditional"
  | guardPassed => "guard_passed"
  | guardFailed => "guard_failed"
  | invalidGuard => "invalid_guard"

/-- Every outcome under its name. -/
def Outcome.table : List (String × Outcome) :=
  [.unconditional, .guardPassed, .guardFailed, .invalidGuard].map fun outcome =>
    (outcome.key, outcome)

/-- The decision on a priority. -/
structure Decision where
  priority : String
  eligible : Bool
  outcome : Outcome
  summary : String
  errors : List String
  deriving DecidableEq, Repr

/-! ## Deciding -/

/-- Decides on a priority. -/
def decide (validator : Validator) (registry : Fact.Registry) (snapshot : Fact.Snapshot)
    (priority : Priority) : Decision :=
  let summary := Guard.previewStored registry priority.guard
  let validation := validator.validateStored registry rootPath priority.guard
  if !validation.valid then ⟨priority.id, false, .invalidGuard, summary, validation.errors⟩
  else match priority.readGuard with
    | .ok none => ⟨priority.id, true, .unconditional, summary, []⟩
    | .ok (some guard) =>
      if guard.holds snapshot then ⟨priority.id, true, .guardPassed, summary, []⟩
      else ⟨priority.id, false, .guardFailed, summary, []⟩
    | .error malformed =>
      ⟨priority.id, false, .invalidGuard, summary, [rootPath ++ ": " ++ malformed.message]⟩

/-- Decides on the priorities of an agent, in order. -/
def evaluate (validator : Validator) (agent : Agent) (registry : Fact.Registry)
    (snapshot : Fact.Snapshot) : List Decision :=
  agent.priorities.map (decide validator registry snapshot)

/-- The priorities of an agent that may be pursued. -/
def eligible (validator : Validator) (agent : Agent) (registry : Fact.Registry)
    (snapshot : Fact.Snapshot) : List Priority :=
  agent.priorities.filter fun priority => (decide validator registry snapshot priority).eligible

/-! ## The trail of decisions -/

namespace Decision

/-- The event of a decision. -/
def event (context : Audit.Context) (decision : Decision) : Audit.Event :=
  let base := match decision.outcome with
    | .unconditional | .guardPassed =>
      Audit.Event.new context "eligibility.priority_eligible" .eligibility .success
    | .guardFailed => Audit.Event.new context "eligibility.priority_blocked" .eligibility .rejected
    | .invalidGuard => Audit.Event.new context "eligibility.guard_invalid" .eligibility .failed
  let told := base |>.telling "priority_id" decision.priority |>.telling "summary" decision.summary
  if decision.errors.isEmpty then told
  else told.telling "errors" (String.intercalate "; " decision.errors)

/-- A decision as a document. -/
def toJson (decision : Decision) : Json :=
  .object [
    ("eligible", .bool decision.eligible), ("errors", Json.strings decision.errors),
    ("outcome", .string decision.outcome.key), ("priority_id", .string decision.priority),
    ("summary", .string decision.summary)]

/-- What has been read of a decision. -/
structure Slots where
  priority : Option String := none
  eligible : Option Bool := none
  outcome : Option Outcome := none
  summary : Option String := none
  errors : Option (List String) := none

/-- The fields of a decision, in the order of its list form. -/
def record : Record Slots where
  name := "PriorityDecision"
  closed := false
  fields := [
    ⟨"priority_id", false, fun slots => slots.priority.isSome, fun source slots => do
      return { slots with priority := ← source.string }⟩,
    ⟨"eligible", false, fun slots => slots.eligible.isSome, fun source slots => do
      return { slots with eligible := ← source.bool }⟩,
    ⟨"outcome", false, fun slots => slots.outcome.isSome, fun source slots => do
      return { slots with outcome := ← source.choice Outcome.table }⟩,
    ⟨"summary", false, fun slots => slots.summary.isSome, fun source slots => do
      return { slots with summary := ← source.string }⟩,
    ⟨"errors", false, fun slots => slots.errors.isSome, fun source slots => do
      return { slots with errors := ← source.list Source.string }⟩]

/-- Reads a decision. -/
def read (source : Source) : Except Refusal Decision := do
  let slots ← record.read {} source
  return {
    priority := ← Record.require "priority_id" slots.priority
    eligible := ← Record.require "eligible" slots.eligible
    outcome := ← Record.require "outcome" slots.outcome
    summary := ← Record.require "summary" slots.summary
    errors := ← Record.require "errors" slots.errors }

end Decision

/-- Decides on the priorities of an agent and leaves an event for each on the trail. -/
def evaluateAudited (validator : Validator) (agent : Agent) (registry : Fact.Registry)
    (snapshot : Fact.Snapshot) (context : Audit.Context) (trail : Audit.Trail) :
    List Decision × Audit.Trail :=
  let decisions := evaluate validator agent registry snapshot
  (decisions, trail ++ decisions.map (Decision.event context))

end FactGuard.Eligibility
