import FactGuard.Guard.Checked
import FactGuard.Proofs.Success

/-!
# Proofs/Guard/Composition — guards put together from checked conditions

A guard is a group, a negation or a condition on a fact (`kinds`): the two groups differ in their
connective, and the three conditions in what they say of the fact. `Composed` guards are those that
an editor can put together, and `composed_group_iff` to `composed_about_iff` take them apart again.
They mention known facts only (`Composed.contains`).
-/

namespace FactGuard.Guard

/-! ## Three kinds of guards -/

/-- How the children of a group count. -/
inductive Connective
  /-- All of them must hold. -/
  | all
  /-- One of them must hold. -/
  | any

/-- The group of the given children. -/
def Connective.group : Connective → List Guard → Guard
  | all => Guard.all
  | any => Guard.any

/-- What the children of a group come to. -/
def Connective.join : Connective → List Bool → Bool
  | all, flags => flags.all id
  | any, flags => flags.any id

/-- What a condition says of its fact. -/
inductive Predicate
  | equals (value : Fact.Value)
  | differs (value : Fact.Value)
  | present

/-- The condition that says it of the given fact. -/
def Predicate.about (fact : String) : Predicate → Guard
  | equals value => Guard.equals fact value
  | differs value => Guard.differs fact value
  | present => Guard.present fact

/-- Every guard is of one of three kinds. -/
theorem kinds (guard : Guard) :
    (∃ (connective : Connective) (children : List Guard), guard = connective.group children) ∨
      (∃ child, guard = .not child) ∨
      ∃ (fact : String) (predicate : Predicate), guard = predicate.about fact := by
  cases guard with
  | all children => exact .inl ⟨.all, children, rfl⟩
  | any children => exact .inl ⟨.any, children, rfl⟩
  | not child => exact .inr (.inl ⟨child, rfl⟩)
  | equals fact value => exact .inr (.inr ⟨fact, .equals value, rfl⟩)
  | differs fact value => exact .inr (.inr ⟨fact, .differs value, rfl⟩)
  | present fact => exact .inr (.inr ⟨fact, .present, rfl⟩)

/-- **Induction by kinds** — one case for both groups, and one for all conditions. -/
@[elab_as_elim]
theorem kindInduction {motive : Guard → Prop}
    (group : ∀ (connective : Connective) (children : List Guard),
      (∀ child ∈ children, motive child) → motive (connective.group children))
    (not : ∀ child, motive child → motive (.not child))
    (condition : ∀ (fact : String) (predicate : Predicate), motive (predicate.about fact))
    (guard : Guard) : motive guard := by
  induction guard with
  | all children ih => exact group .all children ih
  | any children ih => exact group .any children ih
  | not child ih => exact not child ih
  | equals fact value => exact condition fact (.equals value)
  | differs fact value => exact condition fact (.differs value)
  | present fact => exact condition fact .present

/-- A group holds as its connective joins its children. -/
theorem holds_group (connective : Connective) (children : List Guard) (snapshot : Fact.Snapshot) :
    (connective.group children).holds snapshot = connective.join (children.map (holds snapshot)) := by
  cases connective with
  | all => rw [Connective.group, holds, allHold_eq, Connective.join, List.all_map, Function.id_comp]
  | any => rw [Connective.group, holds, anyHolds_eq, Connective.join, List.any_map, Function.id_comp]

theorem mentions_group (connective : Connective) (children : List Guard) :
    (connective.group children).mentions = children.flatMap mentions := by
  cases connective with
  | all | any => exact mentionsOf_eq children

theorem mentions_about (predicate : Predicate) (fact : String) :
    (predicate.about fact).mentions = [fact] := by
  cases predicate <;> rfl

/-- A single child counts for itself, whatever the connective. -/
@[simp]
theorem Connective.join_singleton (connective : Connective) (flag : Bool) :
    connective.join [flag] = flag := by
  cases connective <;> simp [join]

/-! ## Checked conditions -/

section Checked

variable {registry : Fact.Registry} {fact : String} {value : Fact.Value} {guard : Guard}

/-- A comparison is accepted exactly if the fact is known and its entry accepts the value. -/
theorem checkComparison_eq_ok_iff :
    checkComparison registry fact value = .ok () ↔
      ∃ info, registry.get? fact = some info ∧ info.accepts value := by
  rw [checkComparison]
  cases registry.get? fact with
  | none => simp
  | some info => cases h : info.accepts value <;> simp [h, apply_ite (· = Except.ok ())]

theorem check_then_eq_ok_iff {check : Except Misfit Unit} {made : Guard} :
    (do check; return made) = Except.ok guard ↔ check = .ok () ∧ guard = made := by
  rw [bind_eq_ok_iff]
  constructor
  · rintro ⟨_, hcheck, hguard⟩
    exact ⟨hcheck, (pure_eq_ok_iff.mp hguard).symm⟩
  · rintro ⟨hcheck, rfl⟩
    exact ⟨(), hcheck, rfl⟩

/-- The checked comparison gives the comparison that was asked for, or none. -/
theorem checkedEquals_eq_ok_iff :
    checkedEquals registry fact value = .ok guard ↔
      checkComparison registry fact value = .ok () ∧ guard = .equals fact value :=
  check_then_eq_ok_iff

theorem checkedDiffers_eq_ok_iff :
    checkedDiffers registry fact value = .ok guard ↔
      checkComparison registry fact value = .ok () ∧ guard = .differs fact value :=
  check_then_eq_ok_iff

/-- The checked question whether a fact is present needs the fact to be known. -/
theorem checkedPresent_eq_ok_iff :
    checkedPresent registry fact = .ok guard ↔ registry.contains fact ∧ guard = .present fact := by
  rw [checkedPresent]
  cases registry.contains fact <;> simp [eq_comm]

/-- Whether the check of a condition lets it pass. -/
def Predicate.Fits (registry : Fact.Registry) (fact : String) : Predicate → Prop
  | equals value => checkComparison registry fact value = .ok ()
  | differs value => checkComparison registry fact value = .ok ()
  | present => registry.contains fact

/-- A predicate fits facts that are known. -/
theorem Predicate.Fits.contains {fact : String} {predicate : Predicate}
    (fits : predicate.Fits registry fact) : registry.contains fact := by
  have hknown : ∀ value, checkComparison registry fact value = .ok () → registry.contains fact := by
    intro value hvalue
    obtain ⟨info, hinfo, -⟩ := checkComparison_eq_ok_iff.mp hvalue
    rw [Fact.Registry.contains_eq_isSome, hinfo]
    rfl
  cases predicate with
  | equals value => exact hknown value fits
  | differs value => exact hknown value fits
  | present => exact fits

end Checked

/-! ## Composed guards -/

/-- **Guards composed from checked conditions**, by groups of any size and negations. -/
inductive Composed (registry : Fact.Registry) : Guard → Prop
  | equals {fact : String} {value : Fact.Value} {guard : Guard}
      (checked : checkedEquals registry fact value = .ok guard) : Composed registry guard
  | differs {fact : String} {value : Fact.Value} {guard : Guard}
      (checked : checkedDiffers registry fact value = .ok guard) : Composed registry guard
  | present {fact : String} {guard : Guard}
      (checked : checkedPresent registry fact = .ok guard) : Composed registry guard
  | all {children : List Guard} (each : ∀ child ∈ children, Composed registry child) :
      Composed registry (.all children)
  | any {children : List Guard} (each : ∀ child ∈ children, Composed registry child) :
      Composed registry (.any children)
  | not {child : Guard} (inner : Composed registry child) : Composed registry (.not child)

/-- **Guards without empty groups.** -/
inductive Filled : Guard → Prop
  | all {children : List Guard} (nonempty : children ≠ []) (each : ∀ child ∈ children, Filled child) :
      Filled (.all children)
  | any {children : List Guard} (nonempty : children ≠ []) (each : ∀ child ∈ children, Filled child) :
      Filled (.any children)
  | not {child : Guard} (inner : Filled child) : Filled (.not child)
  | equals {fact : String} {value : Fact.Value} : Filled (.equals fact value)
  | differs {fact : String} {value : Fact.Value} : Filled (.differs fact value)
  | present {fact : String} : Filled (.present fact)

section Composed

variable {registry : Fact.Registry} {children : List Guard} {child : Guard}

/-- A composed guard that no check gives is made of composed children. -/
theorem Composed.cases_unchecked {guard : Guard} (h : Composed registry guard)
    (unchecked : ∀ fact (predicate : Predicate), guard ≠ predicate.about fact) :
    (∃ children, guard = .all children ∧ ∀ child ∈ children, Composed registry child) ∨
      (∃ children, guard = .any children ∧ ∀ child ∈ children, Composed registry child) ∨
      ∃ child, guard = .not child ∧ Composed registry child := by
  cases h with
  | equals checked => exact absurd (checkedEquals_eq_ok_iff.mp checked).2 (unchecked _ (.equals _))
  | differs checked => exact absurd (checkedDiffers_eq_ok_iff.mp checked).2 (unchecked _ (.differs _))
  | present checked => exact absurd (checkedPresent_eq_ok_iff.mp checked).2 (unchecked _ .present)
  | all each => exact .inl ⟨_, rfl, each⟩
  | any each => exact .inr (.inl ⟨_, rfl, each⟩)
  | not inner => exact .inr (.inr ⟨_, rfl, inner⟩)

/-- A group is composed if its children are. -/
theorem composed_group_iff {connective : Connective} :
    Composed registry (connective.group children) ↔ ∀ child ∈ children, Composed registry child := by
  constructor
  · intro h
    cases connective <;>
      obtain ⟨_, ⟨⟩, each⟩ | ⟨_, ⟨⟩, each⟩ | ⟨_, ⟨⟩, _⟩ :=
        h.cases_unchecked fun _ predicate => by cases predicate <;> nofun
    · exact each
    · exact each
  · intro each
    cases connective with
    | all => exact .all each
    | any => exact .any each

theorem composed_not_iff : Composed registry (.not child) ↔ Composed registry child := by
  constructor
  · intro h
    obtain ⟨_, ⟨⟩, _⟩ | ⟨_, ⟨⟩, _⟩ | ⟨_, ⟨⟩, inner⟩ :=
      h.cases_unchecked fun _ predicate => by cases predicate <;> nofun
    exact inner
  · exact .not

/-- A single predicate is composed if it fits the fact that it is about. -/
theorem composed_about_iff {fact : String} {predicate : Predicate} :
    Composed registry (predicate.about fact) ↔ predicate.Fits registry fact := by
  constructor
  · intro h
    generalize hguard : predicate.about fact = guard at h
    cases h with
    | equals checked =>
      obtain ⟨fits, rfl⟩ := checkedEquals_eq_ok_iff.mp checked
      cases predicate <;> cases hguard
      exact fits
    | differs checked =>
      obtain ⟨fits, rfl⟩ := checkedDiffers_eq_ok_iff.mp checked
      cases predicate <;> cases hguard
      exact fits
    | present checked =>
      obtain ⟨fits, rfl⟩ := checkedPresent_eq_ok_iff.mp checked
      cases predicate <;> cases hguard
      exact fits
    | _ => cases predicate <;> cases hguard
  · intro fits
    cases predicate with
    | equals value => exact .equals (checkedEquals_eq_ok_iff.mpr ⟨fits, rfl⟩)
    | differs value => exact .differs (checkedDiffers_eq_ok_iff.mpr ⟨fits, rfl⟩)
    | present => exact .present (checkedPresent_eq_ok_iff.mpr ⟨fits, rfl⟩)

/-- **A composed guard mentions facts that the registry knows**, and no others. -/
theorem Composed.contains {guard : Guard} {fact : String} (h : Composed registry guard)
    (hfact : fact ∈ guard.mentions) : registry.contains fact = true := by
  induction guard using kindInduction with
  | group connective children ih =>
    rw [mentions_group] at hfact
    obtain ⟨child, hchild, hmem⟩ := List.mem_flatMap.mp hfact
    exact ih child hchild (composed_group_iff.mp h child hchild) hmem
  | not child ih => exact ih (composed_not_iff.mp h) hfact
  | condition name predicate =>
    rw [mentions_about] at hfact
    obtain rfl := List.mem_singleton.mp hfact
    exact (composed_about_iff.mp h).contains

/-- A group is filled if it has children, and all of them are filled. -/
theorem filled_group_iff {connective : Connective} :
    Filled (connective.group children) ↔ children ≠ [] ∧ ∀ child ∈ children, Filled child := by
  constructor
  · intro h
    cases connective <;> cases h <;> exact ⟨‹_›, ‹_›⟩
  · rintro ⟨nonempty, each⟩
    cases connective with
    | all => exact .all nonempty each
    | any => exact .any nonempty each

theorem filled_not_iff : Filled (.not child) ↔ Filled child := by
  constructor
  · rintro ⟨⟩
    assumption
  · exact .not

end Composed

end FactGuard.Guard
