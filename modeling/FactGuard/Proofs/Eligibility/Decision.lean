import FactGuard.Eligibility
import FactGuard.Proofs.Guard.Language
import FactGuard.Proofs.Guard.Meaning

/-!
# Proofs/Eligibility/Decision — what a decision says

What is stored as a guard may be refused, for reasons that no live fact can change (`refusals`), and
it comes to an outcome on the live facts (`ruling`). `decide_eq` puts a decision together from the
two, and `ruling_cases` says which stored guards come to which outcome.
-/

namespace FactGuard.Eligibility

open Guard (Validator Expression Satisfied rootPath ofStored ofStored?)

/-! ## Refusals and rulings -/

/-- Why a stored guard cannot be used: what validation finds, or else why it cannot be read. -/
def refusals (validator : Validator) (registry : Fact.Registry) (guard : Option Json) : List String :=
  match (validator.validateStored registry rootPath guard).errors with
  | [] =>
    match ofStored? guard with
    | .ok _ => []
    | .error malformed => [rootPath ++ ": " ++ malformed.message]
  | errors => errors

/-- What a stored guard comes to on the live facts. -/
def ruling (validator : Validator) (registry : Fact.Registry) (snapshot : Fact.Snapshot)
    (guard : Option Json) : Outcome :=
  if refusals validator registry guard ≠ [] then .invalidGuard
  else match ofStored? guard with
    | .ok (some guard) => if guard.holds snapshot then .guardPassed else .guardFailed
    | _ => .unconditional

/-- Whether an outcome lets a priority be pursued. -/
def Outcome.admits : Outcome → Bool
  | unconditional => true
  | guardPassed => true
  | guardFailed => false
  | invalidGuard => false

section

variable {validator : Validator} {registry : Fact.Registry} {snapshot : Fact.Snapshot}
  {guard : Option Json}

/-- Each problem is reported as one error. -/
theorem errors_validateStored_eq_nil_iff (path : String) :
    (validator.validateStored registry path guard).errors = [] ↔
      validator.problems registry guard = [] := by
  rw [Guard.Validator.validateStored, List.map_eq_nil_iff]

/-- A guard is not refused if it has no problems and can be read. -/
theorem refusals_eq_nil_iff :
    refusals validator registry guard = [] ↔
      validator.problems registry guard = [] ∧ ∃ found, ofStored? guard = .ok found := by
  rw [← errors_validateStored_eq_nil_iff rootPath]
  fun_cases refusals validator registry guard with
  | case1 herrors found hread => simp [herrors, hread]
  | case2 herrors malformed hread => simp [herrors, hread]
  | case3 herrors => simp_all

/-- The errors of the validator stand in the way of reading, so they are all that is refused. -/
theorem refusals_of_errors_ne_nil
    (h : (validator.validateStored registry rootPath guard).errors ≠ []) :
    refusals validator registry guard = (validator.validateStored registry rootPath guard).errors := by
  rw [refusals]
  split
  · next hnil => exact absurd hnil h
  · rfl

/-- Only a guard that is valid is read, and then only the reader may refuse it. -/
theorem refusals_of_errors_eq_nil
    (h : (validator.validateStored registry rootPath guard).errors = []) :
    refusals validator registry guard =
      match ofStored? guard with
      | .ok _ => []
      | .error malformed => [rootPath ++ ": " ++ malformed.message] := by
  rw [refusals, h]

/-- **A guard is ruled invalid exactly if it is refused.** -/
theorem ruling_eq_invalidGuard_iff :
    ruling validator registry snapshot guard = .invalidGuard ↔
      refusals validator registry guard ≠ [] := by
  fun_cases ruling validator registry snapshot guard <;> simp_all

/-- **A decision is put together from refusals and ruling.** -/
theorem decide_eq (validator : Validator) (registry : Fact.Registry) (snapshot : Fact.Snapshot)
    (priority : Priority) :
    decide validator registry snapshot priority =
      { priority := priority.id
        eligible := (ruling validator registry snapshot priority.guard).admits
        outcome := ruling validator registry snapshot priority.guard
        summary := Guard.previewStored registry priority.guard
        errors := refusals validator registry priority.guard } := by
  have hvalid : (validator.validateStored registry rootPath priority.guard).valid =
      (validator.validateStored registry rootPath priority.guard).errors.isEmpty := rfl
  rw [decide, hvalid, ruling, Priority.readGuard]
  by_cases herrors : (validator.validateStored registry rootPath priority.guard).errors = []
  · rw [refusals_of_errors_eq_nil herrors, herrors]
    rcases ofStored? priority.guard with malformed | found
    · rfl
    · cases found with
      | none => rfl
      | some found => cases h : found.holds snapshot <;> simp [h, Outcome.admits]
  · rw [refusals_of_errors_ne_nil herrors]
    simp [herrors, Outcome.admits]

end

/-! ## Absent guards and expressions -/

section

variable {validator : Validator} {registry : Fact.Registry} {snapshot : Fact.Snapshot} {node : Json}

/-- Without a guard there is no condition, and a null guard is none. -/
theorem ruling_absent {guard : Option Json} (h : guard = none ∨ guard = some .null) :
    ruling validator registry snapshot guard = .unconditional := by
  obtain rfl | rfl := h <;> rfl

/-- **A stored guard is refused unless it is an expression.** -/
theorem refusals_some_eq_nil_iff :
    refusals validator registry (some node) = [] ↔ Expression registry validator.maxDepth 0 node := by
  by_cases there : node = .null
  · subst there
    exact iff_of_true rfl (.absent (Nat.zero_le _))
  · rw [refusals_eq_nil_iff, Guard.problems_some validator registry node,
      Guard.ofStored?_some there, Guard.expression_iff there]
    simp only [map_eq_ok_iff]
    constructor
    · rintro ⟨hwalk, _, guard, hread, rfl⟩
      exact ⟨hwalk, guard, hread⟩
    · rintro ⟨hwalk, guard, hread⟩
      exact ⟨hwalk, some guard, guard, hread, rfl⟩

/-- A guard that is there is ruled invalid exactly if it is not an expression of the language. -/
theorem ruling_some_eq_invalidGuard_iff :
    ruling validator registry snapshot (some node) = .invalidGuard ↔
      ¬Expression registry validator.maxDepth 0 node := by
  rw [ruling_eq_invalidGuard_iff, Ne, refusals_some_eq_nil_iff]

/-- An expression is ruled by whether the guard that it is read as holds. -/
theorem ruling_of_ofStored {guard : Guard} (hread : ofStored node = .ok guard) (there : node ≠ .null)
    (h : Expression registry validator.maxDepth 0 node) :
    ruling validator registry snapshot (some node) =
      if guard.holds snapshot then .guardPassed else .guardFailed := by
  rw [ruling, if_neg (not_not.mpr (refusals_some_eq_nil_iff.mpr h)), Guard.ofStored?_some there, hread]
  rfl

/-- Every stored guard is ruled on in one of four ways. -/
theorem ruling_cases (validator : Validator) (registry : Fact.Registry) (snapshot : Fact.Snapshot)
    (guard : Option Json) :
    ((guard = none ∨ guard = some .null) ∧
      ruling validator registry snapshot guard = .unconditional) ∨
    ∃ node, guard = some node ∧ node ≠ .null ∧
      ((¬Expression registry validator.maxDepth 0 node ∧
          ruling validator registry snapshot guard = .invalidGuard) ∨
        (Expression registry validator.maxDepth 0 node ∧ Satisfied snapshot node ∧
          ruling validator registry snapshot guard = .guardPassed) ∨
        (Expression registry validator.maxDepth 0 node ∧ ¬Satisfied snapshot node ∧
          ruling validator registry snapshot guard = .guardFailed)) := by
  obtain habsent | ⟨node, rfl, there⟩ := Guard.absent_or_some guard
  · exact .inl ⟨habsent, ruling_absent habsent⟩
  · refine .inr ⟨node, rfl, there, ?_⟩
    by_cases hexpr : Expression registry validator.maxDepth 0 node
    · -- Reading succeeds on expressions, so the outcome is that of the guard read.
      obtain ⟨guard, hread⟩ := hexpr.exists_ofStored there
      rw [ruling_of_ofStored hread there hexpr, ← Guard.holds_iff_satisfied hread]
      cases guard.holds snapshot <;> simp [hexpr]
    · exact .inl ⟨hexpr, ruling_some_eq_invalidGuard_iff.mpr hexpr⟩

end

/-! ## The decision on a priority -/

/-- **Eligibility is decided by the guard language, and fails closed.** Without a guard a priority
is eligible. A guard that is no expression keeps its priority out whatever the live facts are, and
an expression admits it exactly where it is satisfied. -/
theorem decide_follows_language (validator : Validator) (registry : Fact.Registry)
    (snapshot : Fact.Snapshot) (priority : Priority) :
    ((decide validator registry snapshot priority).outcome = .unconditional ↔
      priority.guard = none ∨ priority.guard = some .null) ∧
    ((decide validator registry snapshot priority).outcome = .invalidGuard ↔
      ∃ node, priority.guard = some node ∧ node ≠ .null ∧
        ¬Expression registry validator.maxDepth 0 node) ∧
    ((decide validator registry snapshot priority).outcome = .guardPassed ↔
      ∃ node, priority.guard = some node ∧ node ≠ .null ∧
        Expression registry validator.maxDepth 0 node ∧ Satisfied snapshot node) ∧
    ((decide validator registry snapshot priority).outcome = .guardFailed ↔
      ∃ node, priority.guard = some node ∧ node ≠ .null ∧
        Expression registry validator.maxDepth 0 node ∧ ¬Satisfied snapshot node) ∧
    ((decide validator registry snapshot priority).eligible = true ↔
      (decide validator registry snapshot priority).outcome = .unconditional ∨
        (decide validator registry snapshot priority).outcome = .guardPassed) := by
  rw [decide_eq]
  obtain ⟨hguard, hruling⟩ | ⟨node, hguard, there, hrest⟩ :=
    ruling_cases validator registry snapshot priority.guard
  · rw [hruling]
    obtain hguard | hguard := hguard <;> simp [hguard, Outcome.admits]
  · rw [hguard] at hrest ⊢
    obtain ⟨hexpr, hruling⟩ | ⟨hexpr, hsat, hruling⟩ | ⟨hexpr, hsat, hruling⟩ := hrest
    · rw [hruling]
      simp [there, hexpr, Outcome.admits]
    · rw [hruling]
      simp [there, hexpr, hsat, Outcome.admits]
    · rw [hruling]
      simp [there, hexpr, hsat, Outcome.admits]

end FactGuard.Eligibility
