import FactGuard.Agent.Priority
import FactGuard.Guard.Checked

/-!
# Failure — failures as callers see them

Every failure has a class that stays the same whatever its wording, and an exit code: 1 for bad input, 2
for a bad environment.
-/

namespace FactGuard

/-- A failure. -/
inductive Failure
  | transition (transition : Priority.BadTransition)
  | guard (malformed : Guard.Malformed)
  | condition (misfit : Guard.Misfit)
  /-- The document of an agent cannot be read. -/
  | document (reason : String)
  | input (reason : String)
  | configuration (reason : String)

namespace Failure

/-- The wording of a failure. -/
def message : Failure → String
  | transition bad => bad.message
  | guard malformed => malformed.message
  | condition misfit => misfit.message
  | document reason => s!"invalid agent document: {reason}"
  | input reason => s!"input failure: {reason}"
  | configuration reason => s!"configuration failure: {reason}"

/-- The class of a failure. -/
def errorClass : Failure → String
  | transition _ => "domain_invariant"
  | guard _ => "guard_invalid"
  | condition _ => "guard_invalid"
  | document _ => "document_invalid"
  | input _ => "input"
  | configuration _ => "config_validation"

/-- The exit code of a failure. -/
def exitCode : Failure → Nat
  | configuration _ => 2
  | _ => 1

end Failure

end FactGuard
