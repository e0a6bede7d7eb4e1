import FactGuard.Fact.Definition
import FactGuard.Fact.Snapshot
import FactGuard.Text.Numeral

/-!
# Fact/Derivation — the live values of defined facts

Definitions are worked off in the order in which they are declared, each on what the earlier ones have
left in the snapshot. A definition without the operands it needs makes its fact false.
-/

namespace FactGuard

/-! ## Dotted paths -/

/-- The segments of a dotted path; there is always at least one. -/
def pathSegments : List Char → List (List Char)
  | [] => [[]]
  | c :: cs =>
    if c = '.' then [] :: pathSegments cs
    else match pathSegments cs with
      | [] => [[c]]
      | segment :: rest => (c :: segment) :: rest

namespace Json

/-- One step of a path: a member of an object, or an item of a list by its number. -/
def step? (value : Json) (segment : List Char) : Option Json :=
  match value with
  | .object members => members.lookup (String.ofList segment)
  | .array items => do items[← Text.numeral? segment]?
  | _ => none

/-- The value at the end of a path like `contact.phone` or `visits.0.date`. -/
def at? (value : Json) (path : String) : Option Json :=
  (pathSegments path.toList).foldlM step? value

/-- Whether a looked-up field holds anything: null, and empty texts, lists and objects do not count. -/
def isPresent : Option Json → Bool
  | none => false
  | some .null => false
  | some (.string text) => text ≠ ""
  | some (.array items) => !items.isEmpty
  | some (.object members) => !members.isEmpty
  | some _ => true

end Json

namespace Fact

/-- The value of a defined fact, from the lead fields and the facts known so far. -/
def Definition.holds (definition : Definition) (snapshot : Snapshot) (fields : Json) : Bool :=
  match definition.derivation with
  | .present => definition.field.any fun path => Json.isPresent (fields.at? path)
  | .notPresent => definition.field.any fun path => !Json.isPresent (fields.at? path)
  | .equals =>
    definition.field.any fun path => (fields.at? path).getD .null == definition.value.getD .null
  | .anyPresent => definition.fields.any fun path => Json.isPresent (fields.at? path)
  | .allPresent =>
    !definition.fields.isEmpty && definition.fields.all fun path => Json.isPresent (fields.at? path)
  | .composite =>
    match definition.logic.getD .all with
    | .all =>
      !definition.conditions.isEmpty && definition.conditions.all fun c => snapshot.isTrue c.fact
    | .any => definition.conditions.any fun c => snapshot.isTrue c.fact

/-- Gives every defined fact its value, in the order of the definitions. -/
def resolve (definitions : List Definition) (base : Snapshot) (fields : Json) : Snapshot :=
  definitions.foldl (fun snapshot definition =>
    snapshot.set definition.name (.bool (definition.holds snapshot fields))) base

@[simp]
theorem resolve_nil (base : Snapshot) (fields : Json) : resolve [] base fields = base := rfl

/-- The first definition is evaluated on the base, and the rest on what it leaves. -/
theorem resolve_cons (definition : Definition) (rest : List Definition) (base : Snapshot)
    (fields : Json) :
    resolve (definition :: rest) base fields =
      resolve rest (base.set definition.name (.bool (definition.holds base fields))) fields := rfl

/-- A list of definitions may be resolved in two runs. -/
theorem resolve_append (earlier later : List Definition) (base : Snapshot) (fields : Json) :
    resolve (earlier ++ later) base fields = resolve later (resolve earlier base fields) fields :=
  List.foldl_append

end Fact

end FactGuard
