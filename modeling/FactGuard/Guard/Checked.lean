import FactGuard.Fact.Registry
import FactGuard.Guard.Basic

/-!
# Guard/Checked — conditions that fit the registry

A condition made here mentions a known fact and compares it only with a value that the fact can take.
-/

namespace FactGuard.Guard

/-- Why a condition cannot be made. -/
inductive Misfit
  | unknownFact (fact : String)
  /-- The value is not of the fact's type. -/
  | wrongType (fact : String) (kind : Fact.Kind) (value : Fact.Value)
  /-- The value is of the fact's type, but the fact never takes it. -/
  | outOfDomain (fact : String) (value : Fact.Value)
  deriving DecidableEq

/-- The wording of a misfit. -/
def Misfit.message : Misfit → String
  | unknownFact fact => s!"fact `{fact}` is not defined for this agent"
  | wrongType fact kind value =>
    s!"fact `{fact}` is " ++ kind.key ++ " and cannot be compared with " ++ value.rendered
  | outOfDomain fact value =>
    "value " ++ value.rendered ++ s!" is outside the domain of fact `{fact}`"

/-- Whether a value is of a type. Null is of none. -/
def hasType : Fact.Kind → Fact.Value → Bool
  | .text, .text _ => true
  | .boolean, .bool _ => true
  | _, _ => false

/-- Checks that a fact may be compared with a value. -/
def checkComparison (registry : Fact.Registry) (fact : String) (value : Fact.Value) :
    Except Misfit Unit :=
  match registry.get? fact with
  | none => .error (.unknownFact fact)
  | some info =>
    if info.accepts value then .ok ()
    else if hasType info.kind value then .error (.outOfDomain fact value)
    else .error (.wrongType fact info.kind value)

/-- The condition that a fact is worth a value. -/
def checkedEquals (registry : Fact.Registry) (fact : String) (value : Fact.Value) :
    Except Misfit Guard := do
  checkComparison registry fact value
  return .equals fact value

/-- The condition that a fact is not worth a value. -/
def checkedDiffers (registry : Fact.Registry) (fact : String) (value : Fact.Value) :
    Except Misfit Guard := do
  checkComparison registry fact value
  return .differs fact value

/-- The condition that a fact is known. -/
def checkedPresent (registry : Fact.Registry) (fact : String) : Except Misfit Guard :=
  if registry.contains fact then .ok (.present fact) else .error (.unknownFact fact)

end FactGuard.Guard
