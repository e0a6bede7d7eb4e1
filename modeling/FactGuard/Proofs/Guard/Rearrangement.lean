import FactGuard.Proofs.Guard.Composition
import FactGuard.Proofs.Guard.Questions

/-!
# Proofs/Guard/Rearrangement — the order of siblings

The children of a group may stand in any order. `Rearranged` guards differ in such orders only, in as
many groups as one likes. They are decided alike (`Rearranged.holds_eq`), and whatever a walk gathers
node by node comes out the same up to order (`Rearranged.perm_gather`): the facts that are mentioned, and
the problems but for their addresses.
-/

namespace FactGuard.Guard

/-- **Guards that differ in the order of siblings only**, in any groups on any levels. -/
inductive Rearranged : Guard → Guard → Prop
  | refl (guard : Guard) : Rearranged guard guard
  | trans {guard middle other : Guard} (first : Rearranged guard middle)
    (second : Rearranged middle other) : Rearranged guard other
  /-- The children of a group change places. -/
  | siblings (connective : Connective) {children others : List Guard} (h : children.Perm others) :
    Rearranged (connective.group children) (connective.group others)
  /-- One child of a group is rearranged in its place. -/
  | within (connective : Connective) (before after : List Guard) {child other : Guard}
    (h : Rearranged child other) :
    Rearranged (connective.group (before ++ child :: after))
      (connective.group (before ++ other :: after))
  | negated {child other : Guard} (h : Rearranged child other) : Rearranged (.not child) (.not other)

/-! ## Many places at once -/

/-- All children may be rearranged, each in its place. -/
theorem Rearranged.each (connective : Connective) (before : List Guard) {children others : List Guard}
    (h : List.Forall₂ Rearranged children others) :
    Rearranged (connective.group (before ++ children)) (connective.group (before ++ others)) := by
  induction h generalizing before with
  | nil => exact .refl _
  | @cons child other children others hchild _ ih =>
    have hrest := ih (before ++ [other])
    rw [List.append_assoc, List.append_assoc] at hrest
    exact (Rearranged.within connective before children hchild).trans hrest

/-- **Many levels at once** — the children change places, and each of them is rearranged as well. -/
theorem Rearranged.group (connective : Connective) {children moved others : List Guard}
    (hmoved : children.Perm moved) (heach : List.Forall₂ Rearranged moved others) :
    Rearranged (connective.group children) (connective.group others) :=
  (Rearranged.siblings connective hmoved).trans (Rearranged.each connective [] heach)

section

variable {guard other : Guard}

/-! ## Decisions -/

/-- The order of the flags does not matter to a connective. -/
theorem Connective.join_perm (connective : Connective) {flags others : List Bool}
    (h : flags.Perm others) : connective.join flags = connective.join others := by
  cases connective with
  | all => exact h.all_eq
  | any => exact h.any_eq

/-- **Rearranged guards are decided alike.** -/
theorem Rearranged.holds_eq (h : Rearranged guard other) (snapshot : Fact.Snapshot) :
    guard.holds snapshot = other.holds snapshot := by
  induction h with
  | refl => rfl
  | trans _ _ ih ih' => exact ih.trans ih'
  | siblings connective h =>
    rw [holds_group, holds_group, connective.join_perm (h.map _)]
  | within connective before after _ ih =>
    rw [holds_group, holds_group, List.map_append, List.map_append, List.map_cons, List.map_cons, ih]
  | negated _ ih => rw [holds, holds, ih]

/-! ## What is gathered node by node -/

theorem question?_group (connective : Connective) (children : List Guard) :
    (connective.group children).question? = none := by
  cases connective <;> rfl

/-- What is gathered over the branches of a group is gathered over its children. -/
theorem flatMap_branches_group {α : Type} (connective : Connective) (children : List Guard)
    (f : Guard → List α) :
    ((connective.group children).branches.flatMap fun branch => f branch.2) = children.flatMap f := by
  have hnumbered (step : Nat → Step) :
      ((numbered step 0 children).flatMap fun branch => f branch.2) = children.flatMap f := by
    rw [← List.flatMap_map (Prod.snd : Step × Guard → Guard) f, map_snd_numbered]
  cases connective with
  | all => exact hnumbered .all
  | any => exact hnumbered .any

/-- **A walk that goes down the branches gathers the same up to order.** What it finds at a node may
depend on the level and on what the node asks about. -/
theorem Rearranged.perm_gather {α : Type} (gather : Nat → Guard → List α)
    {own : Nat → Guard → List α} (hgather : ∀ level guard, gather level guard =
      own level guard ++ guard.branches.flatMap fun branch => gather (level + 1) branch.2)
    (hown : ∀ level {guard other : Guard}, guard.question? = other.question? →
      own level guard = own level other)
    (h : Rearranged guard other) (level : Nat) : (gather level guard).Perm (gather level other) := by
  induction h generalizing level with
  | refl => exact .refl _
  | trans _ _ ih ih' => exact (ih level).trans (ih' level)
  | @siblings connective children others h =>
    have hroot := hown level
      ((question?_group connective children).trans (question?_group connective others).symm)
    rw [hgather, hgather level (connective.group others), hroot, flatMap_branches_group,
      flatMap_branches_group]
    exact (h.flatMap_right _).append_left _
  | @within connective before after child other _ ih =>
    have hroot := hown level ((question?_group connective (before ++ child :: after)).trans
      (question?_group connective (before ++ other :: after)).symm)
    rw [hgather, hgather level (connective.group (before ++ other :: after)), hroot,
      flatMap_branches_group, flatMap_branches_group, List.flatMap_append, List.flatMap_append,
      List.flatMap_cons, List.flatMap_cons]
    exact (((ih (level + 1)).append_right _).append_left _).append_left _
  | @negated child other _ ih =>
    have hroot : own level (.not child) = own level (.not other) := hown level rfl
    rw [hgather, hgather level (.not other), hroot, branches, branches, List.flatMap_singleton,
      List.flatMap_singleton]
    exact (ih (level + 1)).append_left _

/-! ### Facts -/

theorem Rearranged.mentions_perm (h : Rearranged guard other) : guard.mentions.Perm other.mentions :=
  h.perm_gather (fun _ => mentions) (fun _ => mentions_eq) (fun _ _ _ heq => by rw [heq]) 0

theorem Rearranged.facts_perm (h : Rearranged guard other) : guard.facts.Perm other.facts := by
  rw [facts, facts, List.perm_ext_iff_of_nodup (nodup_eraseDups _) (nodup_eraseDups _)]
  intro fact
  rw [List.mem_eraseDups, List.mem_eraseDups]
  exact h.mentions_perm.mem_iff

/-- Rearranging a guard leaves the number of its conditions. -/
theorem Rearranged.conditions_eq (h : Rearranged guard other) : guard.conditions = other.conditions := by
  rw [← length_mentions, ← length_mentions]
  exact h.mentions_perm.length_eq

/-! ### Problems -/

/-- The causes of the problems in a guard on the given level, without the addresses. -/
def causesFrom (registry : Fact.Registry) (limit level : Nat) (guard : Guard) : List Cause :=
  (problemsFrom registry limit level guard).map Problem.cause

/-- The causes in a guard: its own, then those below each branch. -/
theorem causesFrom_eq (registry : Fact.Registry) (limit level : Nat) (guard : Guard) :
    causesFrom registry limit level guard =
      (cause? registry limit level guard).toList ++
        guard.branches.flatMap fun branch => causesFrom registry limit (level + 1) branch.2 := by
  rw [causesFrom, problemsFrom_eq, List.map_append, List.map_flatMap]
  congr 1
  · cases cause? registry limit level guard <;> rfl
  · refine List.flatMap_congr fun branch _ => ?_
    rw [causesFrom, List.map_map]
    rfl

/-- What is wrong with a node itself depends on what it asks for, and on its level. -/
theorem cause?_congr {registry : Fact.Registry} {limit : Nat} (level : Nat)
    (h : guard.question? = other.question?) :
    cause? registry limit level guard = cause? registry limit level other := by
  rw [cause?, cause?, unknown?, unknown?, h]

/-- **Rearranged guards have problems of the same causes**, each as often. -/
theorem Rearranged.causes_perm (h : Rearranged guard other) (registry : Fact.Registry)
    (limit level : Nat) :
    (causesFrom registry limit level guard).Perm (causesFrom registry limit level other) :=
  h.perm_gather (causesFrom registry limit) (causesFrom_eq registry limit)
    (fun level _ _ heq => by rw [cause?_congr level heq]) level

/-- Each cause is reported as one error. -/
theorem length_errors_validate (validator : Validator) (registry : Fact.Registry) (guard : Guard) :
    (validator.validate registry (some guard)).errors.length =
      (causesFrom registry validator.maxDepth 0 guard).length := by
  rw [causesFrom, List.length_map, ← problems_toJson]
  exact List.length_map _

theorem valid_validate (validator : Validator) (registry : Fact.Registry) (guard : Guard) :
    (validator.validate registry (some guard)).valid =
      (causesFrom registry validator.maxDepth 0 guard).isEmpty := by
  rw [causesFrom, List.isEmpty_map, ← problems_toJson]
  exact Validator.valid_validateStored validator registry rootPath (some guard.toJson)

/-- **The order of siblings does not matter.** Guards that differ only in it are decided alike on all
facts. Under every limit and for every registry both are valid or none is, with as many errors. They
mention the same facts, and they have as many conditions. -/
theorem sibling_order_is_immaterial (h : Rearranged guard other) :
    (∀ snapshot, permits (some guard) snapshot = permits (some other) snapshot) ∧
    (∀ (validator : Validator) (registry : Fact.Registry),
      (validator.validate registry (some guard)).valid =
        (validator.validate registry (some other)).valid ∧
      (validator.validate registry (some guard)).errors.length =
        (validator.validate registry (some other)).errors.length) ∧
    guard.facts.Perm other.facts ∧
    guard.conditions = other.conditions := by
  refine ⟨h.holds_eq, fun validator registry => ⟨?_, ?_⟩, h.facts_perm, h.conditions_eq⟩
  · have hcauses := h.causes_perm registry validator.maxDepth 0
    rw [valid_validate, valid_validate, hcauses.isEmpty_eq]
  · rw [length_errors_validate, length_errors_validate]
    exact (h.causes_perm registry validator.maxDepth 0).length_eq

end

/-- A visit that is scheduled, or a rental without contact, and a budget. -/
def visitOrRental : Guard :=
  .all [.any [.present "visit_scheduled",
    .not (.any [.differs "operation_type" (.text "RENT"), .present "has_contact"])], .present "has_budget"]

/-- The same conditions, in another order on each level. -/
def rentalOrVisit : Guard :=
  .all [.present "has_budget", .any [.not (.any [.present "has_contact",
    .differs "operation_type" (.text "RENT")]), .present "visit_scheduled"]]

theorem rearranged_visitOrRental : Rearranged visitOrRental rentalOrVisit :=
  .group .all (.swap _ _ _) <| .cons (.refl _) <| .cons
    (.group .any (.swap _ _ _) <| .cons (.negated (.siblings .any (.swap _ _ _))) <|
      .cons (.refl _) .nil) .nil

/-- With room for three levels, the two conditions on the fourth are reported in either order. -/
theorem sibling_order_is_immaterial_visitOrRental :
    Rearranged visitOrRental rentalOrVisit ∧ visitOrRental.facts.Perm rentalOrVisit.facts ∧
      (Validator.validate ⟨3⟩ .core (some visitOrRental)).errors.length = 2 ∧
      (Validator.validate ⟨3⟩ .core (some rentalOrVisit)).errors.length = 2 := by
  obtain ⟨-, hvalidate, hfacts, -⟩ := sibling_order_is_immaterial rearranged_visitOrRental
  have herrors : (Validator.validate ⟨3⟩ .core (some visitOrRental)).errors.length = 2 := by
    rw [length_errors_validate]
    decide +kernel
  exact ⟨rearranged_visitOrRental, hfacts, herrors, (hvalidate ⟨3⟩ .core).2 ▸ herrors⟩

end FactGuard.Guard
