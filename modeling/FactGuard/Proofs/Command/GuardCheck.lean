import FactGuard.Command.Run
import FactGuard.Proofs.Eligibility.Decision

/-!
# Proofs/Command/GuardCheck — checking a single guard

The command that checks a single guard validates it but does not read it. It therefore passes guards
that no priority can use: those with something that validation overlooks
(`validateGuard_agrees_iff`).
-/

namespace FactGuard.Command

open Guard (WellFormed Expression Overlooked)

/-- No priority can use a guard unless it is an expression. -/
theorem forall_outcome_ne_invalidGuard_iff {validator : Guard.Validator} {registry : Fact.Registry}
    {guard : Json} :
    (∀ snapshot priority, priority.guard = some guard →
      (Eligibility.decide validator registry snapshot priority).outcome ≠ .invalidGuard) ↔
    Expression registry validator.maxDepth 0 guard := by
  constructor
  · intro h
    have hone := h .empty ⟨"", "", none, some guard⟩ rfl
    rw [Eligibility.decide_eq] at hone
    exact not_not.mp (mt Eligibility.ruling_some_eq_invalidGuard_iff.mpr hone)
  · intro h snapshot priority hpriority
    rw [Eligibility.decide_eq, hpriority]
    exact mt Eligibility.ruling_some_eq_invalidGuard_iff.mp (not_not.mpr h)

section

variable {settings : Config} {files : Files} {environment : Environment} {explicit : Option String}
  {path : String} {factsFrom : Option String} {cache : Fact.Cache} {agent : Option Agent} {guard : Json}

/-- The command passes a guard that it can read from its file if the guard is well formed. -/
theorem exitCode_validateGuard_eq_zero_iff (hagent : loadAgent? files factsFrom = .ok agent)
    (hguard : readJson files path = .ok guard) :
    (run settings files environment explicit (.validateGuard path factsFrom) cache).1.exitCode = 0 ↔
      WellFormed (registryFor settings agent cache).1 settings.validator.maxDepth 0 guard := by
  rw [← Guard.problems_some_eq_nil_iff, ← List.isEmpty_iff,
    ← Guard.Validator.valid_validateStored _ _ Guard.rootPath, run, work, checkGuard, hagent, hguard]
  simp only [bind, Except.bind]
  cases (settings.validator.validateStored (registryFor settings agent cache).1 Guard.rootPath
    (some guard)).valid
  · exact iff_of_false nofun nofun
  · exact iff_of_true rfl rfl

/-- **The check of a single guard agrees with the decisions of priorities that hold it, save on
guards with something that validation overlooks**, which it passes although no such priority can
ever be pursued. -/
theorem validateGuard_agrees_iff (hagent : loadAgent? files factsFrom = .ok agent)
    (hguard : readJson files path = .ok guard) :
    (((run settings files environment explicit (.validateGuard path factsFrom) cache).1.exitCode = 0 ↔
        ∀ snapshot priority, priority.guard = some guard →
          (Eligibility.decide settings.validator (registryFor settings agent cache).1 snapshot
            priority).outcome ≠ .invalidGuard) ↔
      ¬(WellFormed (registryFor settings agent cache).1 settings.validator.maxDepth 0 guard ∧
        Overlooked guard)) ∧
    (WellFormed (registryFor settings agent cache).1 settings.validator.maxDepth 0 guard ∧
        Overlooked guard →
      (run settings files environment explicit (.validateGuard path factsFrom) cache).1.exitCode = 0 ∧
        ∀ snapshot priority, priority.guard = some guard →
          (Eligibility.decide settings.validator (registryFor settings agent cache).1 snapshot
            priority).outcome = .invalidGuard) := by
  rw [exitCode_validateGuard_eq_zero_iff hagent hguard, forall_outcome_ne_invalidGuard_iff]
  constructor
  · constructor
    · rintro hiff ⟨hwell, hover⟩
      exact (hiff.mp hwell).not_overlooked hover
    · intro hclean
      refine ⟨fun hwell => hwell.expression_iff.mpr fun hover => hclean ⟨hwell, hover⟩, ?_⟩
      exact Expression.wellFormed
  · rintro ⟨hwell, hover⟩
    refine ⟨hwell, fun snapshot priority hpriority => ?_⟩
    rw [Eligibility.decide_eq, hpriority]
    exact Eligibility.ruling_some_eq_invalidGuard_iff.mpr fun hexpr => hexpr.not_overlooked hover

end

/-! ## A comparison with a list -/

/-- The files of a run, among them a guard that compares a fact with a list. -/
def listFiles : Files := .ofTexts [("guard.json", "\x7b\"eq\":[\"has_contact\",[]]\x7d")]

/-- The guard that compares a fact with a list. -/
def listComparison : Json := .object [("eq", .array [.string "has_contact", .array []])]

/-- Whether a document is that guard. -/
def isListComparison : Json → Bool
  | .object [("eq", .array [.string "has_contact", .array []])] => true
  | _ => false

/-- The file of the example holds the comparison with a list. -/
theorem readJson_listComparison : readJson listFiles "guard.json" = .ok listComparison := by
  refine eq_ok_of_check isListComparison (fun guard h => ?_) (by decide +kernel)
  unfold isListComparison at h
  split at h
  · rfl
  · cases h

theorem sole_listComparison :
    Guard.Sole [("eq", .array [.string "has_contact", .array []])] .equals
      (.array [.string "has_contact", .array []]) :=
  Guard.sole_singleton_iff.mpr ⟨rfl, rfl⟩

theorem wellFormed_listComparison {limit : Nat} : WellFormed .core limit 0 listComparison :=
  .comparison (Nat.zero_le _) (.inl rfl) sole_listComparison
    (by simp [Fact.Registry.core, Fact.coreFacts, Fact.Registry.contains_insert])

/-- A list is no value of a fact, so reading the comparison fails where checking it does not look. -/
theorem overlooked_listComparison : Overlooked listComparison :=
  .operand (.inl rfl) sole_listComparison fun worth => by cases worth <;> simp [Fact.Value.toJson]

/-- **The command accepts the comparison with a list, and every decision refuses it.** -/
theorem validateGuard_agrees_iff_listComparison :
    loadAgent? listFiles none = .ok none ∧
    readJson listFiles "guard.json" = .ok listComparison ∧
    (WellFormed .core ({} : Config).validator.maxDepth 0 listComparison ∧ Overlooked listComparison) ∧
    (run {} listFiles (.ofTexts []) none (.validateGuard "guard.json" none) .empty).1.exitCode = 0 ∧
    ∀ snapshot priority, priority.guard = some listComparison →
      (Eligibility.decide ({} : Config).validator .core snapshot priority).outcome = .invalidGuard := by
  have hboth : WellFormed (registryFor {} none .empty).1 ({} : Config).validator.maxDepth 0
      listComparison ∧ Overlooked listComparison :=
    ⟨wellFormed_listComparison, overlooked_listComparison⟩
  exact ⟨rfl, readJson_listComparison, hboth,
    (validateGuard_agrees_iff rfl readJson_listComparison).2 hboth⟩

/-- The command passes the comparison with a list, and the priority that holds it is refused. -/
theorem not_validateGuard_agrees :
    ¬((run {} listFiles (.ofTexts []) none (.validateGuard "guard.json" none) .empty).1.exitCode =
        0 ↔
      ∀ snapshot priority, priority.guard = some listComparison →
        (Eligibility.decide ({} : Config).validator .core snapshot priority).outcome ≠
          .invalidGuard) := by
  rw [exitCode_validateGuard_eq_zero_iff rfl readJson_listComparison,
    forall_outcome_ne_invalidGuard_iff]
  intro h
  exact (h.mp wellFormed_listComparison).not_overlooked overlooked_listComparison

end FactGuard.Command
