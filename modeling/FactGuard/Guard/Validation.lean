import FactGuard.Fact.Registry
import FactGuard.Guard.Problem

/-!
# Guard/Validation — checking guards against a registry

`Validator.problems` lists every problem of a stored guard from the root down: first the node itself, then
what its operators are applied to, in the order of the operators. A guard is valid if there are none.
-/

namespace FactGuard.Guard

/-- The outcome of checking a guard. -/
structure Validation where
  valid : Bool
  errors : List String
  deriving DecidableEq, Repr

/-- How guards are checked: no node may be nested deeper than `maxDepth`. -/
structure Validator where
  maxDepth : Nat := 64
  deriving DecidableEq, Repr

/-- The path by which reports call a whole guard. -/
def rootPath : String := "root"

/-- The problem of a name that stands for a fact, if the registry does not know it. -/
def unknownFact (registry : Fact.Registry) (operator : Operator) (fact : String) : List Problem :=
  if registry.contains fact then [] else [.here (.unknownFact operator fact)]

/-- The problems of a comparison. -/
def pairProblems (registry : Fact.Registry) (operator : Operator) : Json → List Problem
  | .array [.string fact, _] => unknownFact registry operator fact
  | .array [_, _] => [.here (.nameNotText operator)]
  | _ => [.here (.notAPair operator)]

/-- The problems of a question for presence. -/
def nameProblems (registry : Fact.Registry) : Json → List Problem
  | .string fact => unknownFact registry .present fact
  | _ => [.here .notAName]

/-- The problems of the operators that a node has: there must be one, and no more. -/
def operatorProblems : List Operator → List Problem
  | [] => [.here .noOperator]
  | [_] => []
  | found => [.here (.severalOperators found)]

mutual

/-- The problems of a node at the given depth. Null is an absent guard and has none. -/
def Validator.walk (validator : Validator) (registry : Fact.Registry) (depth : Nat) (node : Json) :
    List Problem :=
  if validator.maxDepth < depth then [.here (.tooDeep validator.maxDepth)]
  else match node with
    | .null => []
    | .object members =>
      operatorProblems ((operands members).map Prod.fst) ++
        (operands members).attach.flatMap fun operand =>
          validator.check registry depth operand.1.1 operand.1.2
    | _ => [.here .notAnObject]
termination_by sizeOf node
decreasing_by
  have := sizeOf_lt_of_mem_operands operand.2
  simp only [Json.object.sizeOf_spec]
  omega

/-- The problems of what an operator is applied to. -/
def Validator.check (validator : Validator) (registry : Fact.Registry) (depth : Nat)
    (operator : Operator) (body : Json) : List Problem :=
  match operator, body with
  | .all, .array children => validator.walkAll registry depth .all 0 children
  | .any, .array children => validator.walkAll registry depth .any 0 children
  | .all, _ => [.here (.notAList .all)]
  | .any, _ => [.here (.notAList .any)]
  | .not, child => (validator.walk registry (depth + 1) child).map (.under .not)
  | .equals, body => pairProblems registry .equals body
  | .differs, body => pairProblems registry .differs body
  | .present, body => nameProblems registry body
termination_by sizeOf body + 1

/-- The problems of the children of a group, from the given index on. -/
def Validator.walkAll (validator : Validator) (registry : Fact.Registry) (depth : Nat)
    (step : Nat → Step) (index : Nat) (children : List Json) : List Problem :=
  match children with
  | [] => []
  | child :: rest =>
    (validator.walk registry (depth + 1) child).map (.under (step index)) ++
      validator.walkAll registry depth step (index + 1) rest
termination_by sizeOf children

end

namespace Validator

/-- The problems of a stored guard. A guard that is absent has none. -/
def problems (validator : Validator) (registry : Fact.Registry) : Option Json → List Problem
  | none => []
  | some .null => []
  | some node => validator.walk registry 0 node

/-- Checks a stored guard; reports call it by `path`. -/
def validateStored (validator : Validator) (registry : Fact.Registry) (path : String)
    (guard : Option Json) : Validation :=
  let errors := (validator.problems registry guard).map (Problem.report path)
  ⟨errors.isEmpty, errors⟩

/-- The flag of a report says whether any problem was found. -/
theorem valid_validateStored (validator : Validator) (registry : Fact.Registry) (path : String)
    (guard : Option Json) :
    (validator.validateStored registry path guard).valid = (validator.problems registry guard).isEmpty := by
  rw [validateStored, List.isEmpty_map]

/-- Checks a guard. -/
def validate (validator : Validator) (registry : Fact.Registry) (guard : Option Guard) : Validation :=
  validator.validateStored registry rootPath (guard.map toJson)

end Validator

end FactGuard.Guard
