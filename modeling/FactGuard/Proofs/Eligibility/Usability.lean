import FactGuard.Proofs.Agent.Editing
import FactGuard.Proofs.Eligibility.Decision
import FactGuard.Proofs.Guard.Composition
import FactGuard.Proofs.Guard.Occurrences

/-!
# Proofs/Eligibility/Usability — decisions on guards that an editor has written

A guard that is written with a priority is ruled on by what it says, or not at all if it does not
validate (`ruling_toJson`): storing it loses nothing, and reading it back never fails. Guards composed
from checked conditions mention known facts only, so nothing but their depth can keep them from
being used.
-/

namespace FactGuard.Eligibility

open Guard (Validator Composed Expression permits)

section

variable {validator : Validator} {registry : Fact.Registry} {snapshot : Fact.Snapshot} {guard : Guard}

/-- A written guard is refused exactly if it has problems. -/
theorem refusals_toJson_eq_nil_iff :
    refusals validator registry (some guard.toJson) = [] ↔
      guard.depth ≤ validator.maxDepth ∧ ∀ fact ∈ guard.facts, registry.contains fact = true := by
  rw [refusals_eq_nil_iff, Guard.problems_toJson_eq_nil_iff]
  have hread : ∃ found, Guard.ofStored? (some guard.toJson) = .ok found := by
    rw [Guard.ofStored?_some guard.toJson_ne_null, Guard.ofStored_toJson]
    exact ⟨some guard, rfl⟩
  exact and_iff_left hread

/-- **The ruling on a written guard** is what the guard says, unless it is nested too deep or mentions
an unknown fact. -/
theorem ruling_toJson :
    ruling validator registry snapshot (some guard.toJson) =
      if guard.depth ≤ validator.maxDepth ∧ ∀ fact ∈ guard.facts, registry.contains fact = true then
        if permits (some guard) snapshot then .guardPassed else .guardFailed
      else .invalidGuard := by
  split
  · next h =>
    have hexpr : Expression registry validator.maxDepth 0 guard.toJson :=
      refusals_some_eq_nil_iff.mp (refusals_toJson_eq_nil_iff.mpr h)
    exact ruling_of_ofStored (Guard.ofStored_toJson guard) guard.toJson_ne_null hexpr
  · next h => exact ruling_eq_invalidGuard_iff.mpr (mt refusals_toJson_eq_nil_iff.mp h)

end

/-- **Guards composed from checked conditions can always be used.** A priority gives back the very guard
that was set. Within the limit on depth the guard is valid wherever its facts are known, and decides
by what it says of the live facts; a guard that is nested deeper is invalid everywhere. -/
theorem composed_guards_are_usable {registry : Fact.Registry} {guard : Guard}
    (composed : Composed registry guard) (validator : Validator) (priority : Priority) :
    (priority.setGuard (some guard)).readGuard = .ok (some guard) ∧
    (guard.depth ≤ validator.maxDepth → ∀ other : Fact.Registry,
      (∀ fact, registry.contains fact = true → other.contains fact = true) →
        (validator.validate other (some guard)).valid = true ∧
        ∀ snapshot, (decide validator other snapshot (priority.setGuard (some guard))).outcome =
          if permits (some guard) snapshot then .guardPassed else .guardFailed) ∧
    (validator.maxDepth < guard.depth → ∀ (other : Fact.Registry) (snapshot : Fact.Snapshot),
      (decide validator other snapshot (priority.setGuard (some guard))).outcome = .invalidGuard) := by
  have houtcome (other : Fact.Registry) (snapshot : Fact.Snapshot) :
      (decide validator other snapshot (priority.setGuard (some guard))).outcome =
        ruling validator other snapshot (some guard.toJson) := by
    rw [decide_eq]
    rfl
  refine ⟨Priority.readGuard_setGuard priority (some guard), fun hdepth other known => ?within,
    fun hdeep other snapshot => ?beyond⟩
  case within =>
    have hknown : ∀ fact ∈ guard.facts, other.contains fact = true := by
      intro fact hfact
      exact known fact (composed.contains (List.mem_eraseDups.mp hfact))
    refine ⟨?_, fun snapshot => ?_⟩
    · rw [Validator.validate, Guard.Validator.valid_validateStored, List.isEmpty_iff]
      exact Guard.problems_toJson_eq_nil_iff.mpr ⟨hdepth, hknown⟩
    · rw [houtcome, ruling_toJson, if_pos ⟨hdepth, hknown⟩]
  case beyond =>
    rw [houtcome, ruling_toJson, if_neg fun h => Nat.not_le_of_lt hdeep h.1]

/-- A rental that nobody has been contacted about. -/
def uncontactedRental : Guard :=
  .all [.not (.present "has_contact"), .equals "operation_type" (.text "RENT")]

theorem composed_uncontactedRental : Composed .core uncontactedRental := by
  have hcontact : Composed .core (.present "has_contact") :=
    .present (Guard.checkedPresent_eq_ok_iff.mpr ⟨by decide +kernel, rfl⟩)
  have hrental : Composed .core (.equals "operation_type" (.text "RENT")) :=
    .equals (Guard.checkedEquals_eq_ok_iff.mpr ⟨by decide +kernel, rfl⟩)
  refine .all ?_
  rw [List.forall_mem_cons, List.forall_mem_singleton]
  exact ⟨.not hcontact, hrental⟩

/-- The core facts and one more. -/
def vipRegistry : Fact.Registry := .insert .core "vip" (.boolean "El cliente es VIP" "")

/-- A priority with that guard. -/
def rentalPriority : Priority := Priority.setGuard ⟨"p1", "Cierre", .none, .none⟩ (some uncontactedRental)

/-- A conversation about a rental. -/
def rentalSnapshot : Fact.Snapshot := .set .empty "operation_type" (.text "RENT")

/-- The guard follows the live facts if two levels are allowed, and is invalid if there is only one. -/
theorem composed_guards_are_usable_uncontactedRental :
    (decide ⟨2⟩ vipRegistry rentalSnapshot rentalPriority).outcome = .guardPassed ∧
    (decide ⟨2⟩ vipRegistry .empty rentalPriority).outcome = .guardFailed ∧
    (decide ⟨1⟩ vipRegistry rentalSnapshot rentalPriority).outcome = .invalidGuard := by
  have known (fact : String) (h : Fact.Registry.core.contains fact = true) :
      vipRegistry.contains fact = true := by
    rw [vipRegistry, Fact.Registry.contains_insert, h, Bool.or_true]
  obtain ⟨-, hwithin, -⟩ :=
    composed_guards_are_usable composed_uncontactedRental ⟨2⟩ ⟨"p1", "Cierre", .none, .none⟩
  obtain ⟨-, -, hbeyond⟩ :=
    composed_guards_are_usable composed_uncontactedRental ⟨1⟩ ⟨"p1", "Cierre", .none, .none⟩
  have hdepth : uncontactedRental.depth = 2 := by decide
  obtain ⟨-, houtcome⟩ := hwithin (Nat.le_of_eq hdepth) vipRegistry known
  have hpass : permits (some uncontactedRental) rentalSnapshot = true := by decide +kernel
  have hfail : permits (some uncontactedRental) .empty = false := by decide +kernel
  refine ⟨?_, ?_, hbeyond (hdepth ▸ Nat.lt_succ_self 1) vipRegistry rentalSnapshot⟩
  · rw [rentalPriority, houtcome, hpass]
    rfl
  · rw [rentalPriority, houtcome, hfail]
    rfl

end FactGuard.Eligibility
