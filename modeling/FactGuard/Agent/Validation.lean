import FactGuard.Agent.Basic
import FactGuard.Agent.Report
import FactGuard.Audit
import FactGuard.Guard.Preview
import FactGuard.Text.Blank

/-!
# Agent/Validation — checking an agent before it is saved

The agent as a whole is looked over first: the names of its definitions, the facts that composite
definitions build on, core facts it replaces, and the ids of its priorities. Then every guard is checked:
it must have no problem, and it must be readable. The agent is valid if nothing at all was found.
-/

namespace FactGuard

/-- How strictly agents are checked. -/
structure Agent.Strictness where
  validator : Guard.Validator := {}
  rejectCoreOverrides : Bool := false

/-- What can be wrong with an agent as a whole. -/
inductive Agent.Flaw
  | namelessDefinition (derivation : Fact.Derivation)
  | repeatedDefinition (name : String)
  /-- A composite definition builds on a fact that is not in the registry. -/
  | unknownCondition (name : String) (fact : String)
  | coreOverride (fact : String)
  | repeatedPriority (id : String)
  deriving DecidableEq

namespace Agent.Flaw

/-- The code of a flaw. -/
def code : Flaw → String
  | namelessDefinition _ => "MISSING_FACT_NAME"
  | repeatedDefinition _ => "DUPLICATE_FACT_DEFINITION"
  | unknownCondition _ _ => "UNKNOWN_COMPOSITE_FACT"
  | coreOverride _ => "CORE_FACT_OVERRIDE"
  | repeatedPriority _ => "DUPLICATE_PRIORITY_ID"

/-- The wording of a flaw. -/
def message : Flaw → String
  | namelessDefinition derivation => "A `" ++ derivation.key ++ "` fact definition has no name"
  | repeatedDefinition name => s!"Custom fact `{name}` is defined more than once"
  | unknownCondition name fact => s!"Composite fact `{name}` references unknown fact `{fact}`"
  | coreOverride fact => s!"Custom fact `{fact}` replaces a core fact"
  | repeatedPriority id => s!"Duplicate priority id: {id}"

/-- A flaw as it is reported. -/
def issue (flaw : Flaw) : Issue := ⟨flaw.code, flaw.message⟩

end Agent.Flaw

namespace Agent

open Guard (Validator rootPath)

/-- The conditions of a composite definition on facts that the registry does not know. -/
def conditionFlaws (registry : Fact.Registry) (name : String) (definition : Fact.Definition) :
    List Flaw :=
  if definition.derivation = .composite then
    (definition.conditions.filter fun condition => !registry.contains condition.fact).map
      fun condition => .unknownCondition name condition.fact
  else []

/-- The flaws of definitions; `seen` holds the names before them. Names count without outer blanks. -/
def definitionFlaws (registry : Fact.Registry) (seen : List String) :
    List Fact.Definition → List Flaw
  | [] => []
  | definition :: rest =>
    let name := Text.trimmed definition.name
    if name = "" then
      .namelessDefinition definition.derivation :: definitionFlaws registry seen rest
    else
      (if seen.contains name then [.repeatedDefinition name] else []) ++
        conditionFlaws registry name definition ++ definitionFlaws registry (name :: seen) rest

/-- The ids of priorities that were used before; `seen` holds the ids before them. -/
def repeatedIds (seen : List String) : List Priority → List Flaw
  | [] => []
  | priority :: rest =>
    (if seen.contains priority.id then [.repeatedPriority priority.id] else []) ++
      repeatedIds (priority.id :: seen) rest

/-- The flaws of an agent as a whole. -/
def flaws (agent : Agent) (registry : Fact.Registry) (strictness : Strictness) : List Flaw :=
  definitionFlaws registry [] agent.definitions ++
    (if strictness.rejectCoreOverrides then registry.overridden.map .coreOverride else []) ++
    repeatedIds [] agent.priorities

/-- Checks the guard of a priority: first the stored value, then whether it can be read. -/
def checkPriority (validator : Validator) (registry : Fact.Registry) (priority : Priority) :
    Priority.Report :=
  let validation := validator.validateStored registry rootPath priority.guard
  let (errors, conditions) :=
    if validation.errors = [] then
      match priority.readGuard with
      | .ok guard => ([], (guard.map Guard.conditions).getD 0)
      | .error malformed => ([rootPath ++ ": " ++ malformed.message], 0)
    else (validation.errors, 0)
  { id := priority.id, valid := errors.isEmpty, errors, conditions
    summary := Guard.previewStored registry priority.guard }

/-- Checks an agent against a registry. -/
def validate (agent : Agent) (registry : Fact.Registry) (strictness : Strictness) : Report :=
  let issues := (agent.flaws registry strictness).map Flaw.issue
  let priorities := agent.priorities.map (checkPriority strictness.validator registry)
  { agent := agent.id
    valid := issues.isEmpty && priorities.all Priority.Report.valid
    issues, priorities }

/-! ## The trail of a check -/

/-- The event of an issue. -/
def Issue.event (context : Audit.Context) (issue : Issue) : Audit.Event :=
  (Audit.Event.new context "validation.agent_issue" .validation .rejected)
    |>.telling "code" issue.code |>.telling "message" issue.message

/-- The event of a priority whose guard is rejected. -/
def rejection (context : Audit.Context) (report : Priority.Report) : Audit.Event :=
  (Audit.Event.new context "validation.guard_rejected" .validation .rejected)
    |>.telling "priority_id" report.id |>.telling "errors" (String.intercalate "; " report.errors)

/-- The event that closes a check. -/
def verdict (context : Audit.Context) (report : Report) : Audit.Event :=
  (if report.valid then Audit.Event.new context "validation.agent_valid" .validation .success
    else Audit.Event.new context "validation.agent_invalid" .validation .rejected)
    |>.telling "priorities" (toString report.priorities.length)
    |>.telling "issues" (toString report.issues.length)

/-- The events of a report: its issues, its rejected guards, and the verdict. -/
def Report.events (context : Audit.Context) (report : Report) : List Audit.Event :=
  report.issues.map (Issue.event context) ++
    (report.priorities.filter fun priority => !priority.valid).map (rejection context) ++
    [verdict context report]

/-- Checks an agent and leaves the events of the report on the trail. -/
def validateAudited (agent : Agent) (registry : Fact.Registry) (strictness : Strictness)
    (context : Audit.Context) (trail : Audit.Trail) : Report × Audit.Trail :=
  let report := agent.validate registry strictness
  (report, trail ++ report.events context)

end Agent

end FactGuard
