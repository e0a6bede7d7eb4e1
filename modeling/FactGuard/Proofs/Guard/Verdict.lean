import FactGuard.Proofs.Guard.Absence

/-!
# Proofs/Guard/Verdict — what validation decides

The verdict on a stored guard is whether it is well formed, under whatever path its problems are
reported (`valid_iff_wellFormed`). It is the verdict on what is left of the guard without its absent
children, unless one is absent beyond the depth limit (`valid_iff_valid_withoutAbsent`): an absent
child counts towards the depth of a stored guard, and is gone from the guard that is read from it.
-/

namespace FactGuard.Guard

variable {validator : Validator} {registry : Fact.Registry} {path : String} {node : Json}

/-- The flag of a stored guard says whether it is well formed. -/
theorem valid_iff_wellFormed :
    (validator.validateStored registry path (some node)).valid = true ↔
      WellFormed registry validator.maxDepth 0 node := by
  rw [Validator.valid_validateStored, List.isEmpty_iff, problems_some_eq_nil_iff]

/-- A report is valid if it lists no errors. -/
theorem valid_iff_errors_eq_nil (guard : Option Json) :
    (validator.validateStored registry path guard).valid = true ↔
      (validator.validateStored registry path guard).errors = [] := by
  rw [Validator.validateStored, List.isEmpty_iff]

/-- **Validation accepts what is well formed, and nothing else.** The verdict does not depend on the
path under which problems are reported, and it is good exactly if none is. -/
theorem verdict_iff_wellFormed (validator : Validator) (registry : Fact.Registry) (path : String)
    (node : Json) :
    ((validator.validateStored registry path (some node)).valid = true ↔
        node = .null ∨ WellFormed registry validator.maxDepth 0 node) ∧
      (∀ other, (validator.validateStored registry other (some node)).valid =
        (validator.validateStored registry path (some node)).valid) ∧
      ((validator.validateStored registry path (some node)).valid = true ↔
        (validator.validateStored registry path (some node)).errors = []) := by
  have hnull : node = .null → WellFormed registry validator.maxDepth 0 node := by
    rintro rfl
    exact .absent (Nat.zero_le _)
  refine ⟨?_, fun other => ?_, valid_iff_errors_eq_nil _⟩
  · rw [valid_iff_wellFormed, or_iff_right_of_imp hnull]
  · rw [Validator.valid_validateStored, Validator.valid_validateStored]

/-! ## Stored guards and guards that were read -/

/-- The verdict on a stored guard is that on what is left of it, unless something is absent beyond
the limit. -/
theorem valid_iff_valid_withoutAbsent (node : Json) :
    (validator.validateStored registry path (some node)).valid = true ↔
      (validator.validateStored registry path (some (withoutAbsent node))).valid = true ∧
        ∀ level, AbsentAt level node → level ≤ validator.maxDepth := by
  rw [valid_iff_wellFormed, valid_iff_wellFormed, wellFormed_iff_withoutAbsent]
  simp only [Nat.zero_add]

/-- Without absent children, a stored guard is validated as the guard that it is read as. -/
theorem validateStored_withoutAbsent {guard : Guard} (h : ofStored node = .ok guard) :
    validator.validateStored registry rootPath (some (withoutAbsent node)) =
      validator.validate registry (some guard) := by
  rw [ofStored_eq_ok_iff.mp h, Validator.validate, Option.map_some]

/-- **A stored guard is valid exactly if the guard read from it is, and nothing is absent beyond the
limit.** Absent guards within the limit do not show: two stored values that differ in nothing else
get the same verdict, readable or not. -/
theorem valid_stored_iff_valid_read (validator : Validator) (registry : Fact.Registry) :
    (∀ (node : Json) (guard : Guard), ofStored node = .ok guard →
      ((validator.validateStored registry rootPath (some node)).valid = true ↔
        (validator.validate registry (some guard)).valid = true ∧
          ∀ level, AbsentAt level node → level ≤ validator.maxDepth)) ∧
    ∀ node other : Json, withoutAbsent node = withoutAbsent other →
      (∀ level, AbsentAt level node ∨ AbsentAt level other → level ≤ validator.maxDepth) →
      (validator.validateStored registry rootPath (some node)).valid =
        (validator.validateStored registry rootPath (some other)).valid := by
  constructor
  · intro node guard h
    rw [valid_iff_valid_withoutAbsent, validateStored_withoutAbsent h]
  · intro node other hsame hlevel
    have hnode : ∀ level, AbsentAt level node → level ≤ validator.maxDepth :=
      fun level habsent => hlevel level (.inl habsent)
    have hother : ∀ level, AbsentAt level other → level ≤ validator.maxDepth :=
      fun level habsent => hlevel level (.inr habsent)
    rw [Bool.eq_iff_iff, valid_iff_valid_withoutAbsent node, valid_iff_valid_withoutAbsent other,
      hsame]
    exact and_congr_right fun _ => iff_of_true hnode hother

/-- The negation of a group in which a guard is absent. -/
def negatedGroup : Json := .object [("not", .object [("all", .array [.null])])]

theorem ofStored_negatedGroup : ofStored negatedGroup = .ok (.not (.all [])) :=
  ofStored_not_iff.mpr ⟨_, rfl, .inr (ofStored_all_iff.mpr ⟨_, rfl, .nil⟩)⟩

theorem absentAt_negatedGroup : AbsentAt 2 negatedGroup :=
  (absentAt_singleton_iff .not).mpr ⟨1, rfl, _, List.mem_singleton_self _,
    (absentAt_singleton_iff .all).mpr ⟨0, rfl, .null, List.mem_singleton_self _, .root⟩⟩

/-- A group with the given children beside one that is there. -/
def contactGroup (children : List Json) : Json :=
  .object [("all", .array (children ++ [.object [("exists", .string "has_contact")]]))]

/-- The group of the example has absent children on the first level only. -/
theorem eq_one_of_absentAt_contactGroup {level : Nat} {children : List Json}
    (hnull : ∀ child ∈ children, child = .null) (h : AbsentAt level (contactGroup children)) :
    level = 1 := by
  obtain ⟨lower, rfl, child, hchild, habsent⟩ := (absentAt_singleton_iff .all).mp h
  obtain hchild | hchild := List.mem_append.mp hchild
  · obtain rfl := hnull child hchild
    cases habsent
    rfl
  · obtain rfl := List.mem_singleton.mp hchild
    obtain ⟨_, -, _, ⟨⟩, -⟩ := (absentAt_singleton_iff .present).mp habsent

/-- Null beyond the limit makes the difference, and null within it makes none. -/
theorem valid_stored_iff_valid_read_groups :
    ofStored negatedGroup = .ok (.not (.all [])) ∧
    ¬(Validator.validateStored ⟨1⟩ .core rootPath (some negatedGroup)).valid ∧
    withoutAbsent (contactGroup [.null]) = withoutAbsent (contactGroup []) ∧
    (Validator.validateStored ⟨1⟩ .core rootPath (some (contactGroup [.null]))).valid =
      (Validator.validateStored ⟨1⟩ .core rootPath (some (contactGroup []))).valid := by
  obtain ⟨hread, hsame⟩ := valid_stored_iff_valid_read ⟨1⟩ .core
  refine ⟨ofStored_negatedGroup, fun hvalid => ?_, rfl, hsame _ _ rfl ?_⟩
  · obtain ⟨-, hlevel⟩ := (hread _ _ ofStored_negatedGroup).mp hvalid
    exact absurd (hlevel 2 absentAt_negatedGroup) (by decide)
  · rintro level (habsent | habsent)
    · exact Nat.le_of_eq (eq_one_of_absentAt_contactGroup (by simp) habsent)
    · exact Nat.le_of_eq (eq_one_of_absentAt_contactGroup (by simp) habsent)

/-- At the limit the stored guard is refused, and the guard read from it is not. -/
theorem not_valid_stored_eq_valid_read :
    ¬∀ (node : Json) (guard : Guard) (registry : Fact.Registry) (validator : Validator),
      1 ≤ validator.maxDepth → ofStored node = .ok guard →
        (validator.validateStored registry rootPath (some node)).valid =
          (validator.validate registry (some guard)).valid := by
  intro h
  have hsame := h negatedGroup _ .core ⟨1⟩ (Nat.le_refl 1) ofStored_negatedGroup
  have hstored : (Validator.validateStored ⟨1⟩ .core rootPath (some negatedGroup)).valid = false := by
    decide +kernel
  have hread : (Validator.validate ⟨1⟩ .core (some (.not (.all [])))).valid = true := by
    decide +kernel
  rw [hstored, hread] at hsame
  cases hsame

end FactGuard.Guard
