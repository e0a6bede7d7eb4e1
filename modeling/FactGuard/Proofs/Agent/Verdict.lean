import FactGuard.Proofs.Eligibility.Agreement
import Mathlib.Tactic.TFAE

/-!
# Proofs/Agent/Verdict — the verdict of a check

The verdict on an agent can be read off its report in several ways: from the flag, from the number of
problems, and from the events that the check leaves. They all tell the same
(`Report.Coherent.tfae_verdict`), because the flags of a report go by its issues and errors
(`coherent_validate`).
-/

namespace FactGuard.Agent

variable {report : Report}

/-! ## Flags and problems -/

/-- **The flags of a report go by what was found**: a priority is valid exactly if it has no errors,
and the agent exactly if it has no issues and its priorities are valid. -/
structure Report.Coherent (report : Report) : Prop where
  priority : ∀ priority ∈ report.priorities, priority.valid = true ↔ priority.errors = []
  agent : report.valid = true ↔
    report.issues = [] ∧ ∀ priority ∈ report.priorities, priority.valid = true

/-- The check of an agent leaves a coherent report. -/
theorem coherent_validate (agent : Agent) (registry : Fact.Registry) (strictness : Strictness) :
    (agent.validate registry strictness).Coherent := by
  constructor
  · intro report hreport
    obtain ⟨priority, -, rfl⟩ := List.mem_map.mp hreport
    rw [Eligibility.valid_checkPriority, List.isEmpty_iff]
  · rw [validate, Bool.and_eq_true, List.isEmpty_iff, List.all_eq_true]

/-- There are no problems if there are neither issues nor errors. -/
theorem Report.problems_eq_zero_iff :
    report.problems = 0 ↔
      report.issues = [] ∧ ∀ priority ∈ report.priorities, priority.errors = [] := by
  rw [problems, Nat.add_eq_zero_iff, List.length_eq_zero_iff, List.length_eq_zero_iff,
    List.flatMap_eq_nil_iff]

/-- A coherent report counts no problem exactly if its flag says valid. -/
theorem Report.Coherent.problems_eq_zero_iff (coherent : report.Coherent) :
    report.problems = 0 ↔ report.valid = true := by
  rw [Report.problems_eq_zero_iff, coherent.agent]
  exact and_congr_right fun _ => forall₂_congr fun _ hmem => (coherent.priority _ hmem).symm

/-! ## Events -/

/-- The event of something that a check found. -/
def finding (context : Audit.Context) (name : String) (metadata : List (String × String)) :
    Audit.Event :=
  ⟨context, name, .validation, .rejected, metadata⟩

/-- **The findings of a report**: one for each issue, then one for each priority that is not valid. -/
def Report.findings (context : Audit.Context) (report : Report) : Audit.Trail :=
  (report.issues.map fun issue =>
    finding context "validation.agent_issue" [("code", issue.code), ("message", issue.message)]) ++
  (report.priorities.filter fun priority => !priority.valid).map fun priority =>
    finding context "validation.guard_rejected"
      [("errors", String.intercalate "; " priority.errors), ("priority_id", priority.id)]

/-- **What the event that closes a check tells.** -/
structure Report.Closes (context : Audit.Context) (report : Report) (event : Audit.Event) :
    Prop where
  context : event.context = context
  category : event.category = .validation
  valid : report.valid = true ↔ event.name = "validation.agent_valid" ∧ event.outcome = .success
  invalid : report.valid = false ↔
    event.name = "validation.agent_invalid" ∧ event.outcome = .rejected
  metadata : event.metadata =
    [("issues", toString report.issues.length), ("priorities", toString report.priorities.length)]

theorem Report.events_eq (context : Audit.Context) (report : Report) :
    report.events context = report.findings context ++ [verdict context report] := rfl

/-- The closing event says what the flag and the counts of the report say. -/
theorem Report.closes_verdict (context : Audit.Context) (report : Report) :
    report.Closes context (verdict context report) := by
  rw [verdict]
  cases hvalid : report.valid <;>
    exact ⟨rfl, rfl, by simp [hvalid, Audit.Event.telling, Audit.Event.new],
      by simp [hvalid, Audit.Event.telling, Audit.Event.new], rfl⟩

/-- A coherent report has no findings exactly if it is valid. -/
theorem Report.Coherent.findings_eq_nil_iff (coherent : report.Coherent) (context : Audit.Context) :
    report.findings context = [] ↔ report.valid = true := by
  rw [Report.findings, List.append_eq_nil_iff, List.map_eq_nil_iff, List.map_eq_nil_iff,
    List.filter_eq_nil_iff, coherent.agent]
  simp only [Bool.not_eq_true', Bool.not_eq_false]

/-- **All ways to read the verdict tell the same**: the flag of the report, the closing event, the number
of events, and the number of problems. -/
theorem Report.Coherent.tfae_verdict (coherent : report.Coherent) {context : Audit.Context}
    {closing : Audit.Event} (closes : report.Closes context closing) :
    [report.valid = true,
      closing.name = "validation.agent_valid" ∧ closing.outcome = .success,
      (report.findings context ++ [closing]).length = 1,
      report.problems = 0].TFAE := by
  tfae_have 1 ↔ 2 := closes.valid
  tfae_have 3 ↔ 1 := by
    rw [← coherent.findings_eq_nil_iff context, List.length_append, List.length_singleton,
      Nat.add_eq_right, List.length_eq_zero_iff]
  tfae_have 4 ↔ 1 := coherent.problems_eq_zero_iff
  tfae_finish

end FactGuard.Agent
