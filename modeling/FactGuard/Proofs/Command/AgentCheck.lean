import FactGuard.Command.Run
import FactGuard.Proofs.Agent.Verdict

/-!
# Proofs/Command/AgentCheck — checking an agent

The command that checks an agent prints the report of the check (`run_validateAgent`) and exits by it.
So there is one verdict on an agent, whether it is read from the report, from the trail of the check,
or from how the command comes out (`verdict_is_one`).
-/

namespace FactGuard.Command

/-- A command in trouble does not exit with zero. -/
theorem Trouble.exitCode_outcome_ne_zero (trouble : Trouble) (command : String) :
    (trouble.outcome command).exitCode ≠ 0 := by
  cases trouble <;> exact Nat.succ_ne_zero _

/-- The exit code follows the flag of the report. -/
theorem exitCode_reportOutcome_eq_zero_iff {agent : Agent} {report : Agent.Report} :
    (reportOutcome agent report).exitCode = 0 ↔ report.valid = true := by
  rw [reportOutcome]
  cases report.valid
  · exact iff_of_false nofun nofun
  · exact iff_of_true rfl rfl

section

variable {settings : Config} {files : Files} {environment : Environment} {explicit : Option String}
  {path : String} {cache : Fact.Cache} {agent : Agent}

/-- The command prints the report of the agent that it reads. -/
theorem run_validateAgent (hagent : loadAgent files path = .ok agent) :
    (run settings files environment explicit (.validateAgent path) cache).1 =
      reportOutcome agent
        (agent.validate (registryFor settings (some agent) cache).1 settings.strictness) := by
  rw [run, work, checkAgent, hagent]
  rfl

/-- **The command exits with zero exactly if it finds no problem** in an agent that it can read. -/
theorem exitCode_validateAgent_eq_zero_iff :
    (run settings files environment explicit (.validateAgent path) cache).1.exitCode = 0 ↔
      ∃ agent, loadAgent files path = .ok agent ∧
        (agent.validate (registryFor settings (some agent) cache).1 settings.strictness).problems =
          0 := by
  cases hagent : loadAgent files path with
  | ok agent =>
    rw [run_validateAgent hagent, exitCode_reportOutcome_eq_zero_iff,
      ← (Agent.coherent_validate _ _ _).problems_eq_zero_iff]
    simp
  | error trouble =>
    have hrun : (run settings files environment explicit (.validateAgent path) cache).1 =
        trouble.outcome "validate" := by
      rw [run, work, checkAgent, hagent]
      rfl
    rw [hrun]
    exact iff_of_false (trouble.exitCode_outcome_ne_zero _) nofun

end

/-- **There is one verdict on an agent.** A check that leaves a trail makes the same report as one that
does not, and adds to the trail an event for each issue, an event for each priority that is not valid,
and one that closes the check. The report is valid exactly if the closing event says so, exactly if it
is the only event, and exactly if the report counts no problems. So the command that checks an agent
exits with zero exactly if there is none, and otherwise it prints their number, which is not zero. -/
theorem verdict_is_one :
    (∀ (agent : Agent) (registry : Fact.Registry) (strictness : Agent.Strictness)
        (context : Audit.Context) (trail : Audit.Trail),
      (agent.validateAudited registry strictness context trail).1 =
          agent.validate registry strictness ∧
      ∃ closing,
        (agent.validateAudited registry strictness context trail).2 =
          trail ++ ((agent.validate registry strictness).findings context ++ [closing]) ∧
        (agent.validate registry strictness).Closes context closing ∧
        [(agent.validate registry strictness).valid = true,
          closing.name = "validation.agent_valid" ∧ closing.outcome = .success,
          ((agent.validate registry strictness).findings context ++ [closing]).length = 1,
          (agent.validate registry strictness).problems = 0].TFAE) ∧
    ∀ (settings : Config) (files : Files) (environment : Environment) (explicit : Option String)
        (path : String) (cache : Fact.Cache),
      ((run settings files environment explicit (.validateAgent path) cache).1.exitCode = 0 ↔
        ∃ agent, loadAgent files path = .ok agent ∧
          (agent.validate (registryFor settings (some agent) cache).1
            settings.strictness).problems = 0) ∧
      ∀ agent report, loadAgent files path = .ok agent →
        agent.validate (registryFor settings (some agent) cache).1 settings.strictness = report →
        (run settings files environment explicit (.validateAgent path) cache).1.exitCode ≠ 0 →
          0 < report.problems ∧
          (run settings files environment explicit (.validateAgent path) cache).1 =
            .failure "validate" "guard_invalid"
              s!"agent `{agent.id}`: {report.problems} problem(s) found" 1 report.toJson := by
  constructor
  · intro agent registry strictness context trail
    have closes := (agent.validate registry strictness).closes_verdict context
    exact ⟨rfl, _, congrArg (trail ++ ·) (Agent.Report.events_eq context _), closes,
      (Agent.coherent_validate _ _ _).tfae_verdict closes⟩
  · intro settings files environment explicit path cache
    refine ⟨exitCode_validateAgent_eq_zero_iff, ?_⟩
    rintro agent report hagent rfl hexit
    rw [run_validateAgent hagent] at hexit ⊢
    have hinvalid := mt exitCode_reportOutcome_eq_zero_iff.mpr hexit
    have hproblems := mt (Agent.coherent_validate _ _ _).problems_eq_zero_iff.mp hinvalid
    refine ⟨Nat.pos_of_ne_zero hproblems, ?_⟩
    rw [reportOutcome, if_neg hinvalid]

/-- Files with an agent, in list form, whose only guard asks for an unknown fact. -/
def ghostFiles : Files := .ofTexts
  [("agent.json", "[\"a\",\"A\",[[],[[\"p\",\"P\",null,\x7b\"exists\":\"ghost\"\x7d]]]]")]

/-- The agent in those files. -/
def ghostAgent : Agent where
  id := "a"
  name := "A"
  orchestration := {
    priorities := [⟨"p", "P", none, some (.object [("exists", .string "ghost")])⟩] }

/-- Whether an agent is that one. -/
def isGhostAgent : Agent → Bool
  | ⟨"a", "A", [], [⟨"p", "P", none, some (.object [("exists", .string "ghost")])⟩]⟩ => true
  | _ => false

/-- The file of the example holds the agent with the unknown fact. -/
theorem loadAgent_ghostAgent : loadAgent ghostFiles "agent.json" = .ok ghostAgent := by
  refine eq_ok_of_check isGhostAgent (fun agent h => ?_) (by decide +kernel)
  unfold isGhostAgent at h
  split at h
  · rfl
  · cases h

/-- The report of that agent. -/
def ghostReport : Agent.Report :=
  ghostAgent.validate (registryFor {} (some ghostAgent) .empty).1 ({} : Config).strictness

theorem problems_ghostReport : ghostReport.problems = 1 := by
  decide +kernel

/-- The agent with the unknown fact fails, with its one problem in the message. -/
theorem verdict_is_one_ghostAgent :
    loadAgent ghostFiles "agent.json" = .ok ghostAgent ∧
    (run {} ghostFiles (.ofTexts []) none (.validateAgent "agent.json") .empty).1.exitCode ≠ 0 ∧
    (run {} ghostFiles (.ofTexts []) none (.validateAgent "agent.json") .empty).1 =
      .failure "validate" "guard_invalid" "agent `a`: 1 problem(s) found" 1 ghostReport.toJson := by
  obtain ⟨hzero, hfailure⟩ :=
    verdict_is_one.2 {} ghostFiles (.ofTexts []) none "agent.json" .empty
  have hexit :
      (run {} ghostFiles (.ofTexts []) none (.validateAgent "agent.json") .empty).1.exitCode ≠ 0 := by
    intro h
    obtain ⟨agent, hagent, hproblems⟩ := hzero.mp h
    obtain rfl := Except.ok.inj (loadAgent_ghostAgent.symm.trans hagent)
    exact absurd (problems_ghostReport.symm.trans hproblems) Nat.one_ne_zero
  obtain ⟨-, houtcome⟩ := hfailure ghostAgent ghostReport loadAgent_ghostAgent rfl hexit
  rw [problems_ghostReport] at houtcome
  exact ⟨loadAgent_ghostAgent, hexit, houtcome⟩

end FactGuard.Command
