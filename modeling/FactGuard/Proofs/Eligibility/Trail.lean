import FactGuard.Proofs.Eligibility.Decision

/-!
# Proofs/Eligibility/Trail — the trail of decisions

A call that decides on an agent leaves one event for each of its priorities, and the event says which
priority it is about and how the decision came out (`tells_event`). Calls that share a trail add their
events one after the other, so the trail tells every decision of every call, in order, and nothing else
(`trail_tells_every_decision`).
-/

namespace FactGuard.Eligibility

open Guard (Validator)

/-! ## Events -/

/-- The name and the outcome of the event of a decision. -/
def Outcome.headline : Outcome → String × Audit.Outcome
  | unconditional => ("eligibility.priority_eligible", .success)
  | guardPassed => ("eligibility.priority_eligible", .success)
  | guardFailed => ("eligibility.priority_blocked", .rejected)
  | invalidGuard => ("eligibility.guard_invalid", .failed)

/-- **What an event tells of the decision on a priority.** -/
structure Tells (context : Audit.Context) (priority : Priority) (decision : Decision)
    (event : Audit.Event) : Prop where
  context : event.context = context
  category : event.category = .eligibility
  id : decision.priority = priority.id ∧ ("priority_id", priority.id) ∈ event.metadata
  summary : ("summary", decision.summary) ∈ event.metadata
  admits : decision.eligible = true ↔
    decision.outcome = .unconditional ∨ decision.outcome = .guardPassed
  eligible : decision.outcome = .unconditional ∨ decision.outcome = .guardPassed ↔
    event.name = "eligibility.priority_eligible" ∧ event.outcome = .success
  blocked : decision.outcome = .guardFailed ↔
    event.name = "eligibility.priority_blocked" ∧ event.outcome = .rejected
  invalid : decision.outcome = .invalidGuard ↔
    event.name = "eligibility.guard_invalid" ∧ event.outcome = .failed
  refused : decision.outcome = .invalidGuard ↔ decision.errors ≠ []
  errors : decision.errors ≠ [] ↔ ∃ text, ("errors", text) ∈ event.metadata

section

variable (context : Audit.Context) (decision : Decision)

theorem context_event : (decision.event context).context = context := by
  rw [Decision.event]
  cases decision.outcome <;> cases decision.errors <;> rfl

theorem category_event : (decision.event context).category = .eligibility := by
  rw [Decision.event]
  cases decision.outcome <;> cases decision.errors <;> rfl

/-- The name and the outcome of an event are those of the decision. -/
theorem headline_event :
    ((decision.event context).name, (decision.event context).outcome) = decision.outcome.headline := by
  rw [Decision.event]
  cases decision.outcome <;> cases decision.errors <;> rfl

/-- What an event tells besides: the errors, if there are any, the priority and the summary. -/
theorem metadata_event :
    (decision.event context).metadata =
      (if decision.errors = [] then [] else [("errors", String.intercalate "; " decision.errors)]) ++
        [("priority_id", decision.priority), ("summary", decision.summary)] := by
  rw [Decision.event]
  cases decision.outcome <;> cases decision.errors <;> rfl

end

theorem admits_iff {outcome : Outcome} :
    outcome.admits = true ↔ outcome = .unconditional ∨ outcome = .guardPassed := by
  cases outcome <;> simp [Outcome.admits]

/-- **An event tells how the decision on a priority came out.** -/
theorem tells_event (validator : Validator) (registry : Fact.Registry) (snapshot : Fact.Snapshot)
    (context : Audit.Context) (priority : Priority) :
    Tells context priority (decide validator registry snapshot priority)
      ((decide validator registry snapshot priority).event context) := by
  have hheadline := headline_event context (decide validator registry snapshot priority)
  have hmetadata := metadata_event context (decide validator registry snapshot priority)
  obtain ⟨hname, houtcome⟩ := Prod.mk.inj hheadline
  refine ⟨context_event _ _, category_event _ _, ?_, ?_, ?_, ?_, ?_, ?_, ?_, ?_⟩
  · rw [hmetadata, decide_eq]
    simp
  · simp [hmetadata]
  · rw [decide_eq]
    exact admits_iff
  · rw [hname, houtcome]
    cases (decide validator registry snapshot priority).outcome <;> simp
  · rw [hname, houtcome]
    cases (decide validator registry snapshot priority).outcome <;> simp
  · rw [hname, houtcome]
    cases (decide validator registry snapshot priority).outcome <;> simp
  · rw [decide_eq]
    exact ruling_eq_invalidGuard_iff
  · rw [hmetadata]
    by_cases h : (decide validator registry snapshot priority).errors = [] <;> simp [h]

/-! ## Calls on one trail -/

/-- A call that decides on an agent and leaves its events on a trail. -/
structure Call where
  validator : Validator
  agent : Agent
  registry : Fact.Registry
  snapshot : Fact.Snapshot
  context : Audit.Context

namespace Call

/-- What the call decides on a priority. -/
def decide (call : Call) (priority : Priority) : Decision :=
  Eligibility.decide call.validator call.registry call.snapshot priority

/-- Makes a call. -/
def run (call : Call) (trail : Audit.Trail) : List Decision × Audit.Trail :=
  evaluateAudited call.validator call.agent call.registry call.snapshot call.context trail

/-- Makes calls one after the other on one trail. -/
def runAll : List Call → Audit.Trail → List (List Decision) × Audit.Trail
  | [], trail => ([], trail)
  | call :: rest, trail =>
    let (decisions, trail) := call.run trail
    let (more, trail) := runAll rest trail
    (decisions :: more, trail)

/-- What calls decide on: the priorities of their agents, in order. -/
def considered (calls : List Call) : List (Call × Priority) :=
  calls.flatMap fun call => call.agent.priorities.map fun priority => (call, priority)

/-- The event of a call on a priority. -/
def event (call : Call) (priority : Priority) : Audit.Event :=
  (call.decide priority).event call.context

/-- **An audited call decides as a plain one**, and appends an event for each priority in order. -/
theorem run_eq (call : Call) (trail : Audit.Trail) :
    call.run trail =
      (evaluate call.validator call.agent call.registry call.snapshot,
        trail ++ call.agent.priorities.map call.event) := by
  rw [run, evaluateAudited, evaluate, List.map_map]
  rfl

/-- **Calls add their events to the trail, one after the other.** -/
theorem runAll_eq (calls : List Call) (trail : Audit.Trail) :
    runAll calls trail =
      (calls.map fun call => evaluate call.validator call.agent call.registry call.snapshot,
        trail ++ (considered calls).map fun (call, priority) => call.event priority) := by
  induction calls generalizing trail with
  | nil => simp [runAll, considered]
  | cons call rest ih =>
    rw [runAll, run_eq]
    simp only [ih, List.map_cons, considered, List.flatMap_cons, List.map_append, List.map_map,
      List.append_assoc]
    rfl

end Call

/-- **The trail tells every decision.** Calls that share a trail decide as they do without one, and they
add to it, call by call and in the order of the priorities, one event for each decision. The event
carries the context of its call, the id of the priority and the preview of its guard, and its kind says
whether the priority is eligible, blocked, or has a guard that cannot be used; there are errors, in the
decision and in the event, exactly in the last case. -/
theorem trail_tells_every_decision (calls : List Call) (trail : Audit.Trail) :
    (Call.runAll calls trail).1 = calls.map (fun call =>
      evaluate call.validator call.agent call.registry call.snapshot) ∧
    ∃ events, (Call.runAll calls trail).2 = trail ++ events ∧
      List.Forall₂ (fun (call, priority) event =>
        Tells call.context priority (call.decide priority) event) (Call.considered calls) events := by
  rw [Call.runAll_eq]
  refine ⟨rfl, _, rfl, ?_⟩
  rw [List.forall₂_map_right_iff, List.forall₂_same]
  intro (call, priority) _
  exact tells_event call.validator call.registry call.snapshot call.context priority

end FactGuard.Eligibility
