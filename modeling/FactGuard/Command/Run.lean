import FactGuard.Command.Outcome
import FactGuard.Config.Attribution
import FactGuard.Eligibility
import FactGuard.Fact.Cache
import FactGuard.Fact.Derivation

/-!
# Command/Run — the commands

A command reads the files it is given, works on an agent's registry, and answers with an outcome. When
registries are remembered, they are so from one command to the next.
-/

namespace FactGuard

/-- A command with its operands; the texts are paths, save for the conversation. -/
inductive Command
  | facts (agent : Option String) (asJson : Bool)
  | validateAgent (agent : String)
  | validateGuard (guard : String) (factsFrom : Option String)
  | translate (guard : String) (agent : Option String)
  | evaluate (agent : String) (state : String) (conversation : Option String)
  | config

namespace Command

open Json (Refusal Source Record)

/-- The name of a command. -/
def name : Command → String
  | facts _ _ => "facts"
  | validateAgent _ => "validate"
  | validateGuard _ _ => "validate"
  | translate _ _ => "translate"
  | evaluate _ _ _ => "evaluate"
  | config => "config"

/-- The files that a command reads. -/
def paths : Command → List String
  | facts agent _ => agent.toList
  | validateAgent agent => [agent]
  | validateGuard guard factsFrom => factsFrom.toList ++ [guard]
  | translate guard agent => agent.toList ++ [guard]
  | evaluate agent state _ => [agent, state]
  | config => []

/-! ## Documents -/

/-- Reads a file that holds any document. -/
def readJson (files : Files) (path : String) : Except Trouble Json := do
  let text ← (files.read path).mapError (.file s!"could not read `{path}`")
  (Json.ofString text).mapError fun fault => .input s!"`{path}` is not valid JSON" fault.message

/-- Reads a file that holds an agent. -/
def loadAgent (files : Files) (path : String) : Except Trouble Agent := do
  let text ← (files.read path).mapError (.file s!"could not read agent document `{path}`")
  (Agent.ofText text).mapError fun refusal =>
    .agent s!"could not load agent document `{path}`" refusal.message

/-- Reads the agent of a command, if it is given one. -/
def loadAgent? (files : Files) (path : Option String) : Except Trouble (Option Agent) :=
  match path with
  | some path => some <$> loadAgent files path
  | none => .ok none

/-- The state of a conversation: facts that are known already, and the raw lead fields. -/
structure State where
  facts : Fact.Snapshot
  fields : Json

/-- The fields of a state, in the order of its list form. A state has nothing else. -/
def State.record : Record (Option Fact.Snapshot × Option Json) where
  name := "ConversationState"
  closed := true
  fields := [
    ⟨"facts", true, fun slots => slots.1.isSome, fun source slots => do
      return (some (← Fact.Snapshot.read source), slots.2)⟩,
    ⟨"fields", true, fun slots => slots.2.isSome, fun source slots => do
      return (slots.1, some (← source.json))⟩]

/-- Reads a state. -/
def State.read (source : Source) : Except Refusal State := do
  let slots ← record.read (none, none) source
  return ⟨slots.1.getD .empty, slots.2.getD .null⟩

/-- Reads a file that holds a state. -/
def loadState (files : Files) (path : String) : Except Trouble State := do
  let document ← readJson files path
  (State.read (.value document)).mapError fun refusal =>
    .input s!"`{path}` is not a valid state document" refusal.message

/-! ## Registries -/

/-- The registry that a command works on: that of its agent, remembered if the settings say so, or the
core facts. -/
def registryFor (settings : Config) (agent : Option Agent) (cache : Fact.Cache) :
    Fact.Registry × Fact.Cache :=
  match agent with
  | none => (.core, cache)
  | some agent =>
    if settings.cacheEnabled then
      let (entry, cache) := cache.getOrBuild agent.id agent.definitions
      (entry.registry, cache)
    else (agent.registry, cache)

/-! ## The commands -/

/-- A fact in a line. -/
def factLine (fact : String) (info : Fact.Meta) : String :=
  let values := info.values.map fun value =>
    match value with
    | .null => "null"
    | .bool flag => toString flag
    | .text content => content
  "- " ++ fact ++ " [" ++ info.origin.key ++ ", " ++ info.kind.key ++ "] \"" ++ info.label ++
    "\" values: " ++ String.intercalate " | " values

/-- The facts in lines, and a warning for each core fact that is replaced. -/
def factList (registry : Fact.Registry) : String :=
  String.intercalate "\n" (
    ("available facts (" ++ toString registry.size ++ "):") ::
    registry.toList.map (fun (fact, info) => factLine fact info) ++
    registry.overridden.map fun fact =>
      s!"! custom fact `{fact}` replaces the core fact of the same name")

/-- Lists the facts that guards may mention. -/
def listFacts (settings : Config) (files : Files) (agent : Option String) (asJson : Bool)
    (cache : Fact.Cache) : Except Trouble (Outcome × Fact.Cache) := do
  let agent ← loadAgent? files agent
  let (registry, cache) := registryFor settings agent cache
  if asJson then
    return (.success "facts" (toString registry.size ++ " facts available") registry.toJson, cache)
  return (.plain (factList registry), cache)

/-- On whose behalf a command works on an agent. -/
def auditContext (purpose : String) (agent : Agent) (conversation : Option String) : Audit.Context :=
  ⟨some agent.id, conversation, "cli-" ++ purpose ++ "-" ++ agent.id, "leadguard-cli"⟩

/-- What is printed about the report of an agent. -/
def reportOutcome (agent : Agent) (report : Agent.Report) : Outcome :=
  let id := agent.id
  if report.valid then
    let count := report.priorities.length
    .success "validate" s!"agent `{id}`: {count} priorities valid" report.toJson
  else
    let count := report.problems
    .failure "validate" "guard_invalid" s!"agent `{id}`: {count} problem(s) found" 1 report.toJson

/-- Checks an agent. -/
def checkAgent (settings : Config) (files : Files) (path : String) (cache : Fact.Cache) :
    Except Trouble (Outcome × Fact.Cache) := do
  let agent ← loadAgent files path
  let (registry, cache) := registryFor settings (some agent) cache
  let context := auditContext "validate" agent none
  let (report, _) := agent.validateAudited registry settings.strictness context []
  return (reportOutcome agent report, cache)

/-- Checks a single guard. -/
def checkGuard (settings : Config) (files : Files) (path : String) (factsFrom : Option String)
    (cache : Fact.Cache) : Except Trouble (Outcome × Fact.Cache) := do
  let agent ← loadAgent? files factsFrom
  let guard ← readJson files path
  let (registry, cache) := registryFor settings agent cache
  let validation := settings.validator.validateStored registry Guard.rootPath (some guard)
  let report : Json := .object [
    ("errors", Json.strings validation.errors),
    ("summary", .string (Guard.previewStored registry (some guard))),
    ("valid", .bool validation.valid)]
  if validation.valid then return (.success "validate" "guard is valid" report, cache)
  let count := validation.errors.length
  return (.failure "validate" "guard_invalid" s!"{count} problem(s) found" 1 report, cache)

/-- Previews a guard. -/
def previewGuard (settings : Config) (files : Files) (path : String) (agent : Option String)
    (cache : Fact.Cache) : Except Trouble (Outcome × Fact.Cache) := do
  let agent ← loadAgent? files agent
  let guard ← readJson files path
  let (registry, cache) := registryFor settings agent cache
  return (.plain (Guard.previewStored registry (some guard)), cache)

/-- Decides which priorities of an agent may be pursued in the state of a conversation. -/
def decidePriorities (settings : Config) (files : Files) (agent state : String)
    (conversation : Option String) (cache : Fact.Cache) :
    Except Trouble (Outcome × Fact.Cache) := do
  let agent ← loadAgent files agent
  let state ← loadState files state
  let (registry, cache) := registryFor settings (some agent) cache
  let snapshot := Fact.resolve agent.definitions state.facts state.fields
  let context := auditContext "evaluate" agent conversation
  let (decisions, _) :=
    Eligibility.evaluateAudited settings.validator agent registry snapshot context []
  let eligible := (decisions.filter Eligibility.Decision.eligible).map Eligibility.Decision.priority
  let report : Json := .object [
    ("decisions", .array (decisions.map Eligibility.Decision.toJson)),
    ("eligible", Json.strings eligible),
    ("facts", snapshot.toJson)]
  let count := eligible.length
  let total := decisions.length
  return (.success "evaluate" s!"{count} of {total} priorities eligible" report, cache)

/-- Does the work of a command, or says what keeps it from it. -/
def work (settings : Config) (files : Files) (environment : Environment) (explicit : Option String)
    (cache : Fact.Cache) : Command → Except Trouble (Outcome × Fact.Cache)
  | facts agent asJson => listFacts settings files agent asJson cache
  | validateAgent agent => checkAgent settings files agent cache
  | validateGuard guard factsFrom => checkGuard settings files guard factsFrom cache
  | translate guard agent => previewGuard settings files guard agent cache
  | evaluate agent state conversation =>
    decidePriorities settings files agent state conversation cache
  | config => .ok (.plain (settings.report files environment explicit), cache)

/-- Runs a command under the given settings. -/
def run (settings : Config) (files : Files) (environment : Environment) (explicit : Option String)
    (command : Command) (cache : Fact.Cache) : Outcome × Fact.Cache :=
  match command.work settings files environment explicit cache with
  | .ok result => result
  | .error trouble => (trouble.outcome command.name, cache)

end Command

end FactGuard
