import FactGuard.Proofs.Eligibility.Decision

/-!
# Proofs/Eligibility/Agreement — saving and running agree

An agent is checked when it is saved, and its priorities are decided on when it runs. Both refuse a
guard for the same reasons (`errors_checkPriority`), so their results run side by side
(`validate_agrees_evaluate`).
-/

namespace FactGuard.Eligibility

open Guard (Validator rootPath)

/-- A report and a decision say the same of one priority: its id, its preview, why its guard cannot
be used, and that it then is not eligible. -/
structure Concur (report : Priority.Report) (decision : Decision) : Prop where
  id : report.id = decision.priority
  summary : report.summary = decision.summary
  errors : report.errors = decision.errors
  invalid : decision.outcome = .invalidGuard ↔ report.valid = false
  barred : report.valid = false → decision.eligible = false

section

variable {validator : Validator} {registry : Fact.Registry} {snapshot : Fact.Snapshot}
  {priority : Priority}

theorem valid_checkPriority :
    (Agent.checkPriority validator registry priority).valid =
      (Agent.checkPriority validator registry priority).errors.isEmpty := rfl

/-- **Saving refuses a guard for the reasons for which running does.** -/
theorem errors_checkPriority :
    (Agent.checkPriority validator registry priority).errors =
      refusals validator registry priority.guard := by
  rw [Agent.checkPriority, Priority.readGuard]
  by_cases herrors : (validator.validateStored registry rootPath priority.guard).errors = []
  · rw [refusals_of_errors_eq_nil herrors, if_pos herrors]
    cases Guard.ofStored? priority.guard <;> rfl
  · rw [refusals_of_errors_ne_nil herrors, if_neg herrors]

/-- A priority fails its check for what its decision would refuse. -/
theorem valid_checkPriority_eq_false_iff :
    (Agent.checkPriority validator registry priority).valid = false ↔
      refusals validator registry priority.guard ≠ [] := by
  rw [valid_checkPriority, errors_checkPriority, List.isEmpty_eq_false_iff]

/-- **A check and a decision concur** on every priority and every snapshot. -/
theorem concur_checkPriority :
    Concur (Agent.checkPriority validator registry priority)
      (decide validator registry snapshot priority) := by
  rw [decide_eq]
  have hinvalid : ruling validator registry snapshot priority.guard = .invalidGuard ↔
      (Agent.checkPriority validator registry priority).valid = false := by
    rw [ruling_eq_invalidGuard_iff, valid_checkPriority_eq_false_iff]
  refine ⟨rfl, rfl, errors_checkPriority, hinvalid, fun h => ?_⟩
  rw [hinvalid.mpr h]
  rfl

end

/-- Deciding on each priority where it stands picks the eligible ones out of the list. -/
theorem eligible_eq_map_filter_zip (validator : Validator) (agent : Agent) (registry : Fact.Registry)
    (snapshot : Fact.Snapshot) :
    eligible validator agent registry snapshot =
      ((agent.priorities.zip (evaluate validator agent registry snapshot)).filter fun pair =>
        pair.2.eligible).map Prod.fst := by
  rw [eligible, evaluate]
  induction agent.priorities with
  | nil => rfl
  | cons priority rest ih =>
    rw [List.map_cons, List.zip_cons_cons, List.filter_cons, List.filter_cons, ih]
    split
    · rw [List.map_cons]
    · rfl

/-- **Saving and running agree.** Position by position, in the order of the priorities, what is
reported when an agent is saved is what is decided when it runs, whatever the live facts are. -/
theorem validate_agrees_evaluate (agent : Agent) (registry : Fact.Registry)
    (strictness : Agent.Strictness) (snapshot : Fact.Snapshot) :
    List.Forall₂ Concur (agent.validate registry strictness).priorities
        (evaluate strictness.validator agent registry snapshot) ∧
      (evaluate strictness.validator agent registry snapshot).map Decision.priority =
        agent.priorities.map Priority.id ∧
      eligible strictness.validator agent registry snapshot =
        ((agent.priorities.zip (evaluate strictness.validator agent registry snapshot)).filter
          fun pair => pair.2.eligible).map Prod.fst := by
  refine ⟨?_, ?_, eligible_eq_map_filter_zip _ _ _ _⟩
  · rw [Agent.validate, evaluate, List.forall₂_map_left_iff, List.forall₂_map_right_iff,
      List.forall₂_same]
    exact fun priority _ => concur_checkPriority
  · rw [evaluate, List.map_map]
    exact List.map_congr_left fun priority _ => by rw [Function.comp_apply, decide_eq]

end FactGuard.Eligibility
