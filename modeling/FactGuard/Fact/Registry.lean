import Std.Data.ExtTreeMap
import FactGuard.Fact.Core

/-!
# Fact/Registry — the facts that guards of one agent may mention

A registry holds an entry per fact and remembers which core facts a definition has replaced. Merging is
last-write-wins: `Registry.ofDefinitions` starts from the core facts and enters the definitions in order.
-/

namespace FactGuard.Fact

/-- The facts that guards of one agent may mention. -/
structure Registry where
  facts : Std.ExtTreeMap String Meta
  /-- The core facts that definitions replace, in the order of replacement. -/
  overridden : List String

namespace Registry

/-- A registry without facts. -/
def empty : Registry := ⟨∅, []⟩

instance : Inhabited Registry := ⟨empty⟩

/-- The entry of a fact. -/
def get? (registry : Registry) (fact : String) : Option Meta := registry.facts[fact]?

/-- Whether a fact is known. -/
def contains (registry : Registry) (fact : String) : Bool := registry.facts.contains fact

/-- Enters a fact, in place of an earlier entry of that name. -/
def insert (registry : Registry) (fact : String) (info : Meta) : Registry :=
  { registry with facts := registry.facts.insert fact info }

/-- The core facts alone. -/
def core : Registry :=
  coreFacts.foldl (fun registry (fact, info) => registry.insert fact info) empty

/-- Enters the fact of a definition. A core entry that gives way is recorded. -/
def define (registry : Registry) (definition : Definition) : Registry :=
  let replaced := (registry.get? definition.name).map Meta.origin
  { facts := registry.facts.insert definition.name (.custom definition)
    overridden :=
      if replaced = some .core then registry.overridden ++ [definition.name]
      else registry.overridden }

/-- The core facts together with those an agent defines. -/
def ofDefinitions (definitions : List Definition) : Registry := definitions.foldl define core

/-- How a fact is called in text for people: its label, or its name if it is not known. -/
def label (registry : Registry) (fact : String) : String :=
  match registry.get? fact with
  | some info => info.label
  | none => fact

/-- The facts with their entries, sorted by name. -/
def toList (registry : Registry) : List (String × Meta) := registry.facts.toList

/-- The names of the facts, sorted. -/
def names (registry : Registry) : List String := registry.facts.keys

/-- How many facts there are. -/
def size (registry : Registry) : Nat := registry.facts.size

/-- The entries as a document. -/
def toJson (registry : Registry) : Json :=
  .object (registry.toList.map fun (fact, info) => (fact, info.toJson))

/-- Inserting a fact changes the entry of that fact alone. -/
theorem get?_insert (registry : Registry) (fact other : String) (info : Meta) :
    (registry.insert fact info).get? other = if fact = other then some info else registry.get? other := by
  simp [insert, get?, Std.ExtTreeMap.getElem?_insert]

theorem contains_insert (registry : Registry) (fact other : String) (info : Meta) :
    (registry.insert fact info).contains other = (fact == other || registry.contains other) := by
  simp only [insert, contains, Std.ExtTreeMap.contains_insert, Std.compare_eq_iff_eq, Bool.beq_eq_decide_eq]

/-- Defining a fact gives it the entry of its definition, and no other fact a new one. -/
theorem get?_define (registry : Registry) (definition : Definition) (other : String) :
    (registry.define definition).get? other =
      if definition.name = other then some (.custom definition) else registry.get? other :=
  get?_insert registry definition.name other (.custom definition)

theorem contains_define (registry : Registry) (definition : Definition) (other : String) :
    (registry.define definition).contains other =
      (definition.name == other || registry.contains other) :=
  contains_insert registry definition.name other (.custom definition)

/-- A registry contains the facts that it has an entry for. -/
theorem contains_eq_isSome (registry : Registry) (fact : String) :
    registry.contains fact = (registry.get? fact).isSome := by
  rw [contains, get?, Std.ExtTreeMap.isSome_getElem?_eq_contains]

end Registry

end FactGuard.Fact
