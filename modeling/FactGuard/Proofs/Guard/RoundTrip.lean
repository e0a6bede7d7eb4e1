import FactGuard.Proofs.Guard.Absence

/-!
# Proofs/Guard/RoundTrip — writing and reading are inverse

Both ways of writing a guard give the same document (`derivedJson_eq_toJson`), and both ways of
reading take it back. A stored guard that can be read is written without its absent guards
(`ofStored_eq_ok_iff_trimmed`), so it is written as it was stored if none of its guards is absent,
and only then is it a document that reading takes as it stands (`read_eq_ok_iff_ofStored`).
-/

namespace FactGuard.Guard

/-! ## Two ways of writing -/

theorem snakeCase_title (operator : Operator) : snakeCase operator.title = operator.key := by
  cases operator <;> decide

theorem toJson_all (children : List Guard) :
    (all children).toJson = .object [(Operator.all.key, .array (children.map toJson))] := by
  rw [toJson, toJsonAll_eq, Operator.key]

theorem toJson_any (children : List Guard) :
    (any children).toJson = .object [(Operator.any.key, .array (children.map toJson))] := by
  rw [toJson, toJsonAll_eq, Operator.key]

/-- **Both ways of writing give the same document.** -/
theorem derivedJson_eq_toJson (guard : Guard) : guard.derivedJson = guard.toJson := by
  induction guard with
  | all children ih =>
    rw [derivedJson, derivedJsonAll_eq, List.map_congr_left ih, variantJson, snakeCase_title,
      toJson_all]
  | any children ih =>
    rw [derivedJson, derivedJsonAll_eq, List.map_congr_left ih, variantJson, snakeCase_title,
      toJson_any]
  | not child ih => rw [derivedJson, ih, variantJson, snakeCase_title, toJson, Operator.key]
  | equals fact value => simp [derivedJson, variantJson, snakeCase_title, toJson, Operator.key]
  | differs fact value => simp [derivedJson, variantJson, snakeCase_title, toJson, Operator.key]
  | present fact => rw [derivedJson, variantJson, snakeCase_title, toJson, Operator.key]

/-! ## Written guards -/

theorem given_map_toJson (children : List Guard) :
    given (children.map toJson) = children.map toJson := by
  refine given_eq_self_iff.mpr fun item hitem => ?_
  obtain ⟨child, -, rfl⟩ := List.mem_map.mp hitem
  exact toJson_ne_null child

theorem forall₂_ofStored_toJson {children : List Guard}
    (h : ∀ child ∈ children, ofStored child.toJson = .ok child) :
    List.Forall₂ (fun child item => ofStored item = .ok child) children
      (given (children.map toJson)) := by
  rwa [given_map_toJson, List.forall₂_map_right_iff, List.forall₂_same]

/-- **A guard is read as it was written.** -/
theorem ofStored_toJson (guard : Guard) : ofStored guard.toJson = .ok guard := by
  induction guard with
  | all children ih => exact ofStored_all_iff.mpr ⟨_, toJson_all children, forall₂_ofStored_toJson ih⟩
  | any children ih => exact ofStored_any_iff.mpr ⟨_, toJson_any children, forall₂_ofStored_toJson ih⟩
  | not child ih => exact ofStored_not_iff.mpr ⟨_, rfl, .inr ih⟩
  | equals fact value => exact ofStored_equals_iff.mpr rfl
  | differs fact value => exact ofStored_differs_iff.mpr rfl
  | present fact => exact ofStored_present_iff.mpr rfl

/-- No guard is absent in one that was written. -/
theorem not_absentAt_toJson (guard : Guard) (level : Nat) : ¬AbsentAt level guard.toJson := by
  induction guard generalizing level with
  | all children ih =>
    rw [toJson_all, absentAt_singleton_iff]
    rintro ⟨lower, -, _, hitem, habsent⟩
    obtain ⟨child, hchild, rfl⟩ := List.mem_map.mp hitem
    exact ih child hchild lower habsent
  | any children ih =>
    rw [toJson_any, absentAt_singleton_iff]
    rintro ⟨lower, -, _, hitem, habsent⟩
    obtain ⟨child, hchild, rfl⟩ := List.mem_map.mp hitem
    exact ih child hchild lower habsent
  | not child ih =>
    intro h
    obtain ⟨lower, -, _, hitem, habsent⟩ := (absentAt_singleton_iff .not).mp h
    obtain rfl := List.mem_singleton.mp hitem
    exact ih lower habsent
  | equals fact value =>
    intro h
    obtain ⟨_, -, _, ⟨⟩, -⟩ := (absentAt_singleton_iff .equals).mp h
  | differs fact value =>
    intro h
    obtain ⟨_, -, _, ⟨⟩, -⟩ := (absentAt_singleton_iff .differs).mp h
  | present fact =>
    intro h
    obtain ⟨_, -, _, ⟨⟩, -⟩ := (absentAt_singleton_iff .present).mp h

/-! ## Stored guards -/

/-- **Without what is absent.** The second of two stored guards is the first one without the absent
children of its groups, and the negation of an absent guard is the negation of the empty group. -/
inductive Trimmed : Json → Json → Prop
  | group {operator : Operator} {items kept : List Json} (grouping : operator.IsGroup)
      (each : List.Forall₂ Trimmed (given items) kept) :
      Trimmed (.object [(operator.key, .array items)]) (.object [(operator.key, .array kept)])
  | absent : Trimmed (.object [(Operator.not.key, .null)])
      (.object [(Operator.not.key, .object [(Operator.all.key, .array [])])])
  | not {child kept : Json} (inner : Trimmed child kept) :
      Trimmed (.object [(Operator.not.key, child)]) (.object [(Operator.not.key, kept)])
  | comparison {operator : Operator} {body : Json} (comparing : operator.IsComparison) :
      Trimmed (.object [(operator.key, body)]) (.object [(operator.key, body)])
  | present {body : Json} :
      Trimmed (.object [(Operator.present.key, body)]) (.object [(Operator.present.key, body)])

/-- An object with a single name is rewritten under that name. -/
theorem withoutAbsent_singleton (name : String) (body : Json) :
    withoutAbsent (.object [(name, body)]) = .object [(name, settled name body)] :=
  withoutAbsent_object _

theorem mem_operands_singleton (operator : Operator) (body : Json) :
    (operator, body) ∈ operands [(operator.key, body)] := by
  rw [operands_singleton]
  exact List.mem_singleton_self _

/-- The rewriting does what trimming describes. -/
theorem Trimmed.withoutAbsent_eq {stored kept : Json} (h : Trimmed stored kept) :
    withoutAbsent stored = kept := by
  induction stored using storedInduction generalizing kept with
  | other stored hother => cases h <;> exact absurd rfl (hother _)
  | node members hbody hitem =>
    cases h with
    | @group operator items kept grouping each =>
      have hmem := mem_operands_singleton operator (.array items)
      have hkept : kept = (given items).map withoutAbsent :=
        eq_map_of_forall₂ each fun item hgiven kept hone =>
          (hitem _ _ hmem item (mem_given.mp hgiven).1 hone).symm
      rw [withoutAbsent_singleton, settled_group grouping, hkept]
    | absent => rfl
    | @not child kept inner =>
      have hmem := mem_operands_singleton .not child
      have hthere : child ≠ .null := by
        rintro rfl
        cases inner
      rw [withoutAbsent_singleton, settled_not hthere, hbody _ _ hmem inner]
    | comparison comparing => rw [withoutAbsent_singleton, settled_comparison comparing]
    | present => rw [withoutAbsent_singleton, settled_present]

/-- What is readable is trimmed by the rewriting. -/
theorem Readable.trimmed {stored : Json} (h : Readable stored) :
    Trimmed stored (withoutAbsent stored) := by
  induction h with
  | group grouping _ ih =>
    rw [withoutAbsent_singleton, settled_group grouping]
    refine .group grouping ?_
    rw [List.forall₂_map_right_iff, List.forall₂_same]
    exact fun item hitem => ih item (mem_given.mp hitem).1 (mem_given.mp hitem).2
  | @not child _ ih =>
    rw [withoutAbsent_singleton]
    by_cases hnull : child = .null
    · subst hnull
      exact .absent
    · rw [settled_not hnull]
      exact .not (ih hnull)
  | comparison comparing =>
    rw [withoutAbsent_singleton, settled_comparison comparing]
    exact .comparison comparing
  | present =>
    rw [withoutAbsent_singleton, settled_present]
    exact .present

/-- **A stored guard is read as what is written without its absent guards.** -/
theorem ofStored_eq_ok_iff_trimmed {stored : Json} {guard : Guard} :
    ofStored stored = .ok guard ↔ Trimmed stored guard.toJson := by
  constructor
  · intro h
    exact ofStored_eq_ok_iff.mp h ▸ (readable_of_ofStored h).trimmed
  · intro h
    exact ofStored_eq_ok_iff.mpr h.withoutAbsent_eq

/-- Without absent children, nothing is rewritten. -/
theorem Readable.withoutAbsent_eq_self {stored : Json} (h : Readable stored)
    (there : ∀ level, ¬AbsentAt level stored) : withoutAbsent stored = stored := by
  induction h with
  | @group operator items grouping _ ih =>
    have hitem : ∀ item ∈ items, ∀ level, ¬AbsentAt level item := by
      intro item hmem level habsent
      refine there _ ((absentAt_singleton_iff operator).mpr ⟨level, rfl, item, ?_, habsent⟩)
      rwa [grouping.children_array]
    have hthere : ∀ item ∈ items, item ≠ .null := by
      rintro item hmem rfl
      exact hitem _ hmem 0 .root
    have hsame : items.map withoutAbsent = items.map id :=
      List.map_congr_left fun item hmem => ih item hmem (hthere item hmem) (hitem item hmem)
    rw [withoutAbsent_singleton, settled_group grouping, given_eq_self_iff.mpr hthere, hsame,
      List.map_id]
  | @not child _ ih =>
    have hchild : ∀ level, ¬AbsentAt level child := fun level habsent =>
      there _ ((absentAt_singleton_iff .not).mpr
        ⟨level, rfl, child, List.mem_singleton_self child, habsent⟩)
    have hthere : child ≠ .null := by
      rintro rfl
      exact hchild 0 .root
    rw [withoutAbsent_singleton, settled_not hthere, ih hthere hchild]
  | comparison comparing => rw [withoutAbsent_singleton, settled_comparison comparing]
  | present => rw [withoutAbsent_singleton, settled_present]

/-- **Reading takes as it stands what is stored without absent guards.** -/
theorem read_eq_ok_iff_ofStored {stored : Json} {guard : Guard} :
    read stored = .ok guard ↔ ofStored stored = .ok guard ∧ ∀ level, ¬AbsentAt level stored := by
  rw [read_eq_ok_iff]
  constructor
  · rintro rfl
    exact ⟨ofStored_toJson guard, not_absentAt_toJson guard⟩
  · rintro ⟨h, there⟩
    rw [← ofStored_eq_ok_iff.mp h, (readable_of_ofStored h).withoutAbsent_eq_self there]

/-- **Writing and reading guards are inverse.** Either way of writing a guard is undone by either way
of reading. The reader of stored guards takes what is readable, and the guard it gives is written as
what was stored without its absent guards. The reader that lets no guard be absent takes the same
save where one is, and the guard it gives is written as it was read. -/
theorem writing_inverts_reading :
    (∀ guard : Guard, guard.derivedJson = guard.toJson ∧ ofStored guard.toJson = .ok guard ∧
      read guard.toJson = .ok guard) ∧
    ∀ stored : Json, ((∃ guard, ofStored stored = .ok guard) ↔ Readable stored) ∧
      ∀ guard : Guard, (ofStored stored = .ok guard ↔ Trimmed stored guard.toJson) ∧
        (read stored = .ok guard ↔ ofStored stored = .ok guard ∧ ∀ level, ¬AbsentAt level stored) ∧
        (read stored = .ok guard ↔ stored = guard.toJson) := by
  constructor
  · intro guard
    exact ⟨derivedJson_eq_toJson guard, ofStored_toJson guard, read_eq_ok_iff.mpr rfl⟩
  · intro stored
    refine ⟨exists_ofStored_iff_readable, fun guard => ?_⟩
    exact ⟨ofStored_eq_ok_iff_trimmed, read_eq_ok_iff_ofStored, read_eq_ok_iff⟩

end FactGuard.Guard
