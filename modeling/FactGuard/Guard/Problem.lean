import FactGuard.Guard.Document

/-!
# Guard/Problem — what can be wrong with a stored guard, and where

A problem has an address inside the guard and a cause. Addresses are put into words only when a problem
is reported, below the path of the guard itself.
-/

namespace FactGuard.Guard

/-- A step from a guard to one of its children. -/
inductive Step
  | all (index : Nat)
  | any (index : Nat)
  | not
  deriving DecidableEq, Repr

/-- A step in words. -/
def Step.text : Step → String
  | all index => s!".all[{index}]"
  | any index => s!".any[{index}]"
  | not => ".not"

/-- What is wrong at an address. -/
inductive Cause
  /-- The guard is nested deeper than `limit`. -/
  | tooDeep (limit : Nat)
  | notAnObject
  | noOperator
  | severalOperators (found : List Operator)
  /-- A comparison is not applied to a list of two. -/
  | notAPair (operator : Operator)
  /-- A comparison is applied to something that is not the name of a fact. -/
  | nameNotText (operator : Operator)
  /-- Presence is asked of something that is not the name of a fact. -/
  | notAName
  /-- A group is not a list. -/
  | notAList (operator : Operator)
  /-- The fact is not in the registry. -/
  | unknownFact (operator : Operator) (fact : String)
  deriving DecidableEq, Repr

/-- The part of the node that is to blame, in words. -/
def Cause.place : Cause → String
  | tooDeep _ => ""
  | notAnObject => ""
  | noOperator => ""
  | severalOperators _ => ""
  | notAPair operator => "." ++ operator.key
  | nameNotText operator => "." ++ operator.key ++ "[0]"
  | notAName => "." ++ Operator.present.key
  | notAList operator => "." ++ operator.key
  | unknownFact operator _ => "." ++ operator.key

/-- The wording of a cause. -/
def Cause.message : Cause → String
  | tooDeep limit => s!"expression nesting exceeds maximum depth of {limit}"
  | notAnObject => "expression must be an object"
  | noOperator => "must have at least one valid operator"
  | severalOperators found =>
    "only one operator per expression; found: " ++ String.intercalate ", " (found.map Operator.key)
  | notAPair _ => "must be an array of [factKey, value]"
  | nameNotText _ => "fact key must be a string"
  | notAName => "must be a fact key string"
  | notAList _ => "must be an array of expressions"
  | unknownFact _ fact =>
    s!"Fact key \"{fact}\" no es válido (no existe en los facts disponibles)"

/-- A problem of a guard. -/
structure Problem where
  address : List Step
  cause : Cause
  deriving DecidableEq, Repr

namespace Problem

/-- A problem at the root of a guard. -/
def here (cause : Cause) : Problem := ⟨[], cause⟩

/-- A problem of a child, seen from its parent. -/
def under (step : Step) (problem : Problem) : Problem := { problem with address := step :: problem.address }

/-- Where the problem is, below the path of the guard. -/
def location (path : String) (problem : Problem) : String :=
  path ++ String.join (problem.address.map Step.text) ++ problem.cause.place

/-- The report of a problem. -/
def report (path : String) (problem : Problem) : String :=
  problem.location path ++ ": " ++ problem.cause.message

end Problem

end FactGuard.Guard
