import FactGuard.Json.Record
import FactGuard.Json.Writer
import FactGuard.Guard.Document

/-!
# Agent/Priority — the goals of an agent and the guards stored with them

A priority keeps its guard as it was stored, readable or not. The editor moves it between two modes:
without a guard, and configuring one.
-/

namespace FactGuard

open Json (Refusal Source Record)

/-- The editor's state of the guard of a priority. -/
inductive GuardMode
  /-- There is no guard, and the priority is always eligible. -/
  | none
  | configuring
  deriving DecidableEq, Repr

/-- The name of a mode in documents. -/
def GuardMode.key : GuardMode → String
  | none => "none"
  | configuring => "configuring"

/-- The name of a mode in messages. -/
def GuardMode.title : GuardMode → String
  | none => "None"
  | configuring => "Configuring"

/-- Every mode under its name. -/
def GuardMode.table : List (String × GuardMode) :=
  [.none, .configuring].map fun mode => (mode.key, mode)

/-- A goal that an agent may pursue. -/
structure Priority where
  id : String
  name : String
  description : Option String := .none
  /-- The guard as it is stored; null is the same as no guard. -/
  guard : Option Json := .none
  deriving BEq

/-- A change of mode that leads nowhere. -/
structure Priority.BadTransition where
  source : GuardMode
  target : GuardMode
  deriving DecidableEq

namespace Priority

/-- The wording of a bad transition. -/
def BadTransition.message (transition : BadTransition) : String :=
  "invalid guard transition from " ++ transition.source.title ++ " to " ++ transition.target.title

/-- The mode of a priority. -/
def mode (priority : Priority) : GuardMode :=
  match priority.guard with
  | .none => .none
  | some .null => .none
  | some _ => .configuring

/-- The guard of a priority, if it has one and it can be read. -/
def readGuard (priority : Priority) : Except Guard.Malformed (Option Guard) :=
  Guard.ofStored? priority.guard

/-- Stores a guard, or takes it away. -/
def setGuard (priority : Priority) (guard : Option Guard) : Priority :=
  { priority with guard := guard.map Guard.toJson }

@[simp]
theorem mode_setGuard_none (priority : Priority) : (priority.setGuard .none).mode = .none := rfl

/-- A guard that is written is never null, so it puts the priority in the configuring mode. -/
@[simp]
theorem mode_setGuard_some (priority : Priority) (guard : Guard) :
    (priority.setGuard (some guard)).mode = .configuring := by
  cases guard <;> simp [setGuard, mode, Guard.toJson]

/-- Changes the mode of a priority where it stands. Configuring starts from the empty group; leaving it
drops the guard. -/
def change (target : GuardMode) : EStateM BadTransition Priority Unit := do
  match (← get).mode, target with
  | .none, .configuring => modify fun priority => priority.setGuard (some (.all []))
  | .configuring, .none => modify fun priority => { priority with guard := .none }
  | source, target => throw ⟨source, target⟩

/-- The priority that a change of mode leads to. -/
def transition (priority : Priority) (target : GuardMode) : Except BadTransition Priority :=
  match (change target).run priority with
  | .ok _ changed => .ok changed
  | .error bad _ => .error bad

/-- A priority as a document. -/
def toJson (priority : Priority) : Json :=
  .object (
    Json.memberOf "description" (priority.description.map .string) ++
    Json.memberOf "guard" priority.guard ++
    [("id", .string priority.id), ("name", .string priority.name)])

/-- What has been read of a priority. -/
structure Slots where
  id : Option String := .none
  name : Option String := .none
  description : Option (Option String) := .none
  guard : Option (Option Json) := .none

/-- The fields of a priority, in the order of its list form. -/
def record : Record Slots where
  name := "Priority"
  closed := false
  fields := [
    ⟨"id", false, fun slots => slots.id.isSome, fun source slots => do
      return { slots with id := ← source.string }⟩,
    ⟨"name", false, fun slots => slots.name.isSome, fun source slots => do
      return { slots with name := ← source.string }⟩,
    ⟨"description", true, fun slots => slots.description.isSome, fun source slots => do
      return { slots with description := some (← source.optional Source.string) }⟩,
    ⟨"guard", true, fun slots => slots.guard.isSome, fun source slots => do
      return { slots with guard := some (← source.optional Source.json) }⟩]

/-- Reads a priority. -/
def read (source : Source) : Except Refusal Priority := do
  let slots ← record.read {} source
  return {
    id := ← Record.require "id" slots.id
    name := ← Record.require "name" slots.name
    description := slots.description.join
    guard := slots.guard.join }

end Priority

end FactGuard
