import FactGuard.Proofs.Guard.Reading

/-!
# Proofs/Guard/Meaning — what a stored guard means

`Satisfied` gives a stored value its meaning on live facts without reading it first: absent children
of a group do not count, and an absent guard cannot be negated. Reading a stored guard keeps the
meaning (`holds_iff_satisfied`).
-/

namespace FactGuard.Guard

/-- **The meaning of a stored guard.** What is not a guard is not satisfied. -/
def Satisfied (snapshot : Fact.Snapshot) : Json → Prop
  | .object [("all", .array children)] =>
    ∀ child ∈ children, child ≠ .null → Satisfied snapshot child
  | .object [("any", .array children)] =>
    ∃ child, ∃ _ : child ∈ children, child ≠ .null ∧ Satisfied snapshot child
  | .object [("not", child)] => child ≠ .null ∧ ¬Satisfied snapshot child
  | .object [("eq", .array [.string fact, value])] => (snapshot.valueOf fact).toJson = value
  | .object [("neq", .array [.string fact, value])] => (snapshot.valueOf fact).toJson ≠ value
  | .object [("exists", .string fact)] => snapshot.valueOf fact ≠ .null
  | _ => False
termination_by node => sizeOf node
decreasing_by
  · have := List.sizeOf_lt_of_mem ‹child ∈ children›
    simp only [Json.object.sizeOf_spec, List.cons.sizeOf_spec, Prod.mk.sizeOf_spec,
      Json.array.sizeOf_spec]
    omega
  · have := List.sizeOf_lt_of_mem ‹child ∈ children›
    simp only [Json.object.sizeOf_spec, List.cons.sizeOf_spec, Prod.mk.sizeOf_spec,
      Json.array.sizeOf_spec]
    omega
  · simp only [Json.object.sizeOf_spec, List.cons.sizeOf_spec, Prod.mk.sizeOf_spec]
    omega

variable {snapshot : Fact.Snapshot}

/-- A conjunction is satisfied if every child that is there is. -/
theorem satisfied_all_iff {children : List Json} :
    Satisfied snapshot (.object [("all", .array children)]) ↔
      ∀ child ∈ given children, Satisfied snapshot child := by
  rw [Satisfied]
  simp only [mem_given, and_imp]

theorem satisfied_any_iff {children : List Json} :
    Satisfied snapshot (.object [("any", .array children)]) ↔
      ∃ child ∈ given children, Satisfied snapshot child := by
  rw [Satisfied]
  simp only [mem_given, exists_prop, and_assoc]

/-- **Reading a stored guard keeps its meaning.** -/
theorem holds_iff_satisfied {guard : Guard} {node : Json} (h : ofStored node = .ok guard) :
    guard.holds snapshot = true ↔ Satisfied snapshot node := by
  induction guard generalizing node with
  | all children ih =>
    obtain ⟨items, rfl, hitems⟩ := ofStored_all_iff.mp h
    rw [holds, allHold_eq, List.all_eq_true, satisfied_all_iff]
    constructor
    · intro hall item hitem
      obtain ⟨child, hchild, hread⟩ := exists_of_forall₂ hitems item hitem
      exact (ih child hchild hread).mp (hall child hchild)
    · intro hall child hchild
      obtain ⟨item, hitem, hread⟩ := exists_of_forall₂ hitems.flip child hchild
      exact (ih child hchild hread).mpr (hall item hitem)
  | any children ih =>
    obtain ⟨items, rfl, hitems⟩ := ofStored_any_iff.mp h
    rw [holds, anyHolds_eq, List.any_eq_true, satisfied_any_iff]
    constructor
    · rintro ⟨child, hchild, hholds⟩
      obtain ⟨item, hitem, hread⟩ := exists_of_forall₂ hitems.flip child hchild
      exact ⟨item, hitem, (ih child hchild hread).mp hholds⟩
    · rintro ⟨item, hitem, hsat⟩
      obtain ⟨child, hchild, hread⟩ := exists_of_forall₂ hitems item hitem
      exact ⟨child, hchild, (ih child hchild hread).mpr hsat⟩
  | not child ih =>
    obtain ⟨item, rfl, ⟨rfl, rfl⟩ | hitem⟩ := ofStored_not_iff.mp h
    · simp [holds, Satisfied]
    · have hthere : item ≠ .null := by
        rintro rfl
        exact toJson_ne_null child (ofStored_eq_ok_iff.mp hitem).symm
      rw [holds, Satisfied, Bool.not_eq_true', ← Bool.not_eq_true, ih hitem]
      exact (and_iff_right hthere).symm
  | equals fact value =>
    obtain rfl := ofStored_equals_iff.mp h
    rw [holds, Satisfied, decide_eq_true_iff, Fact.Value.toJson_inj]
  | differs fact value =>
    obtain rfl := ofStored_differs_iff.mp h
    rw [holds, Satisfied, decide_eq_true_iff, Ne, Ne, Fact.Value.toJson_inj]
  | present fact =>
    obtain rfl := ofStored_present_iff.mp h
    rw [holds, Satisfied]
    cases snapshot.valueOf fact <;> simp [Fact.Value.isNull]

end FactGuard.Guard
