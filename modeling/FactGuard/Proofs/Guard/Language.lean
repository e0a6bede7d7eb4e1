import FactGuard.Proofs.Guard.Reading
import FactGuard.Proofs.Guard.Traversal

/-!
# Proofs/Guard/Language — which stored values are guards

Four predicates on stored values, none of which mentions a reader or a checker:

* `WellFormed` — what validation lets through. A node may have members beside its operator, and a
  comparison may be with anything.
* `Readable` — what can be read: one member a node, and comparisons with what a fact can be worth.
* `Expression` — what is both.
* `Overlooked` — what is well formed and cannot be read (`WellFormed.expression_iff`).
-/

namespace FactGuard.Guard

/-! ## Operators -/

/-- An operator that is applied to a list of guards. -/
def Operator.IsGroup (operator : Operator) : Prop := operator = .all ∨ operator = .any

/-- An operator that is applied to a fact and a value. -/
def Operator.IsComparison (operator : Operator) : Prop := operator = .equals ∨ operator = .differs

/-- Of the operators, only this one occurs among the members of an object, applied to `body`. -/
def Sole (members : List (String × Json)) (operator : Operator) (body : Json) : Prop :=
  members.lookup operator.key = some body ∧
    ∀ other, other ≠ operator → members.lookup other.key = none

/-- The operators by what their operand looks like. -/
theorem Operator.isGroup_or (operator : Operator) :
    operator.IsGroup ∨ operator = .not ∨ operator.IsComparison ∨ operator = .present := by
  cases operator <;> simp [IsGroup, IsComparison]

theorem Operator.IsGroup.not_isComparison {operator : Operator} (h : operator.IsGroup) :
    ¬operator.IsComparison := by
  obtain rfl | rfl := h <;> simp [IsComparison]

/-- An object has one operand exactly if an operator stands alone in it. -/
theorem operands_eq_singleton_iff {members : List (String × Json)} {operator : Operator} {body : Json} :
    operands members = [(operator, body)] ↔ Sole members operator body := by
  constructor
  · intro h
    refine ⟨mem_operands.mp (h ▸ List.mem_singleton_self _), fun other hother => ?_⟩
    rw [Option.eq_none_iff_forall_ne_some]
    intro found hfound
    have hmem := mem_operands.mpr hfound
    rw [h, List.mem_singleton] at hmem
    exact hother (Prod.mk.inj hmem).1
  · rintro ⟨hbody, hnone⟩
    cases operator <;> simp [operands, Operator.list, hbody, hnone]

theorem sole_singleton_iff {operator other : Operator} {body found : Json} :
    Sole [(operator.key, body)] other found ↔ other = operator ∧ found = body := by
  rw [← operands_eq_singleton_iff, operands_singleton, List.cons.injEq, Prod.mk.injEq]
  exact ⟨fun h => ⟨h.1.1.symm, h.1.2.symm⟩, fun h => ⟨⟨h.1.symm, h.2.symm⟩, rfl⟩⟩

/-- A preview goes by the only operator of a node. -/
theorem Sole.leading?_eq_some {members : List (String × Json)} {operator : Operator} {body : Json}
    (sole : Sole members operator body) (there : body ≠ .null) :
    leading? members = some (operator, body) := by
  have hnull : body.isNull = false := by rwa [← Bool.not_eq_true, Json.isNull_iff]
  rw [leading?, operands_eq_singleton_iff.mpr sole]
  simp [hnull]

/-- An operator on null leads no text. -/
theorem Sole.leading?_eq_none {members : List (String × Json)} {operator : Operator}
    (sole : Sole members operator .null) : leading? members = none := by
  rw [leading?, operands_eq_singleton_iff.mpr sole]
  rfl

/-- The text of an object with a sole operator is the one that this operator leads. -/
theorem Sole.nodeText_eq {members : List (String × Json)} {operator : Operator} {body : Json}
    (sole : Sole members operator body) (there : body ≠ .null) (label : String → String)
    (level : Nat) :
    nodeText label level (.object members) = leadingText label level operator body := by
  rw [nodeText_object, sole.leading?_eq_some there]

/-! ## The languages -/

/-- **What validation lets through.** A value at a depth within the limit is well formed if it is
absent, or an object with exactly one operator, applied to what that operator takes. -/
inductive WellFormed (registry : Fact.Registry) (limit : Nat) : Nat → Json → Prop
  | absent {depth : Nat} (deep : depth ≤ limit) : WellFormed registry limit depth .null
  | group {depth : Nat} {members : List (String × Json)} {operator : Operator} {children : List Json}
      (deep : depth ≤ limit) (grouping : operator.IsGroup)
      (sole : Sole members operator (.array children))
      (each : ∀ child ∈ children, WellFormed registry limit (depth + 1) child) :
      WellFormed registry limit depth (.object members)
  | not {depth : Nat} {members : List (String × Json)} {child : Json} (deep : depth ≤ limit)
      (sole : Sole members .not child) (inner : WellFormed registry limit (depth + 1) child) :
      WellFormed registry limit depth (.object members)
  | comparison {depth : Nat} {members : List (String × Json)} {operator : Operator} {fact : String}
      {value : Json} (deep : depth ≤ limit) (comparing : operator.IsComparison)
      (sole : Sole members operator (.array [.string fact, value]))
      (known : registry.contains fact) : WellFormed registry limit depth (.object members)
  | present {depth : Nat} {members : List (String × Json)} {fact : String} (deep : depth ≤ limit)
      (sole : Sole members .present (.string fact)) (known : registry.contains fact) :
      WellFormed registry limit depth (.object members)

/-- **The guard language.** An expression at a depth within the limit is absent, or an object whose
only member is an operator over expressions one deeper, or over a known fact and a value it can be
worth. -/
inductive Expression (registry : Fact.Registry) (limit : Nat) : Nat → Json → Prop
  | absent {depth : Nat} (deep : depth ≤ limit) : Expression registry limit depth .null
  | group {depth : Nat} {operator : Operator} {children : List Json} (deep : depth ≤ limit)
      (grouping : operator.IsGroup)
      (each : ∀ child ∈ children, Expression registry limit (depth + 1) child) :
      Expression registry limit depth (.object [(operator.key, .array children)])
  | not {depth : Nat} {child : Json} (deep : depth ≤ limit)
      (inner : Expression registry limit (depth + 1) child) :
      Expression registry limit depth (.object [(Operator.not.key, child)])
  | comparison {depth : Nat} {operator : Operator} {fact : String} {value : Fact.Value}
      (deep : depth ≤ limit) (comparing : operator.IsComparison) (known : registry.contains fact) :
      Expression registry limit depth (.object [(operator.key, .array [.string fact, value.toJson])])
  | present {depth : Nat} {fact : String} (deep : depth ≤ limit) (known : registry.contains fact) :
      Expression registry limit depth (.object [(Operator.present.key, .string fact)])

/-- **What can be read.** A readable value is an object whose only member is an operator over
children that are readable or absent, or over a fact and a value it can be worth. -/
inductive Readable : Json → Prop
  | group {operator : Operator} {children : List Json} (grouping : operator.IsGroup)
      (each : ∀ child ∈ children, child ≠ .null → Readable child) :
      Readable (.object [(operator.key, .array children)])
  | not {child : Json} (inner : child ≠ .null → Readable child) :
      Readable (.object [(Operator.not.key, child)])
  | comparison {operator : Operator} {fact : String} {value : Json} (comparing : operator.IsComparison)
      (worth : value = .null ∨ (∃ flag, value = .bool flag) ∨ ∃ text, value = .string text) :
      Readable (.object [(operator.key, .array [.string fact, value])])
  | present {fact : String} : Readable (.object [(Operator.present.key, .string fact)])

/-- **What validation overlooks.** Somewhere in a stored value there is a node with members beside
its operator, or a comparison with something that no fact can be worth. -/
inductive Overlooked : Json → Prop
  | surplus {members : List (String × Json)} (beside : members.length ≠ 1) :
      Overlooked (.object members)
  | operand {members : List (String × Json)} {operator : Operator} {fact : String} {value : Json}
      (comparing : operator.IsComparison)
      (sole : Sole members operator (.array [.string fact, value]))
      (worthless : ∀ worth : Fact.Value, worth.toJson ≠ value) : Overlooked (.object members)
  | group {members : List (String × Json)} {operator : Operator} {children : List Json} {child : Json}
      (grouping : operator.IsGroup) (sole : Sole members operator (.array children))
      (member : child ∈ children) (inner : Overlooked child) : Overlooked (.object members)
  | not {members : List (String × Json)} {child : Json} (sole : Sole members .not child)
      (inner : Overlooked child) : Overlooked (.object members)

/-! ## Validation lets through what is well formed -/

section Walk

variable {validator : Validator} {registry : Fact.Registry} {depth : Nat}

/-- An object must have exactly one operator. -/
theorem operatorProblems_eq_nil_iff {found : List Operator} :
    operatorProblems found = [] ↔ ∃ operator, found = [operator] := by
  match found with
  | [] => simp [operatorProblems]
  | [operator] => simp [operatorProblems]
  | _ :: _ :: _ => simp [operatorProblems]

theorem unknownFact_eq_nil_iff {operator : Operator} {fact : String} :
    unknownFact registry operator fact = [] ↔ registry.contains fact := by
  rw [unknownFact]
  split <;> simp_all

/-- An object passes within the limit, with a sole operator whose operand passes. -/
theorem walk_object_eq_nil_iff {members : List (String × Json)} :
    validator.walk registry depth (.object members) = [] ↔
      depth ≤ validator.maxDepth ∧ ∃ operator body, Sole members operator body ∧
        validator.check registry depth operator body = [] := by
  rw [walk_object]
  split
  · next deep => simp [Nat.not_le.mpr deep]
  · next deep =>
    rw [List.append_eq_nil_iff, operatorProblems_eq_nil_iff, List.flatMap_eq_nil_iff]
    refine ⟨fun ⟨⟨operator, hone⟩, hall⟩ => ⟨Nat.not_lt.mp deep, ?_⟩, fun ⟨_, h⟩ => ?_⟩
    · obtain ⟨⟨found, body⟩, hoperands, rfl⟩ := List.map_eq_singleton_iff.mp hone
      exact ⟨found, body, operands_eq_singleton_iff.mp hoperands,
        hall (found, body) (hoperands ▸ List.mem_singleton_self _)⟩
    · obtain ⟨operator, body, hsole, hbody⟩ := h
      rw [operands_eq_singleton_iff.mpr hsole]
      exact ⟨⟨operator, rfl⟩, fun operand hoperand => by rwa [List.mem_singleton.mp hoperand]⟩

/-- The operand of a group passes if it is a list of nodes that pass one level down. -/
theorem check_group_eq_nil_iff {operator : Operator} (grouping : operator.IsGroup) {body : Json} :
    validator.check registry depth operator body = [] ↔
      ∃ children, body = .array children ∧
        ∀ child ∈ children, validator.walk registry (depth + 1) child = [] := by
  obtain rfl | rfl := grouping <;> cases body <;> simp [Validator.check, walkAll_eq_nil_iff]

theorem check_not_eq_nil_iff {body : Json} :
    validator.check registry depth .not body = [] ↔ validator.walk registry (depth + 1) body = [] := by
  rw [Validator.check, List.map_eq_nil_iff]

/-- The operand of a comparison passes if it is a pair of a known fact and any value. -/
theorem check_comparison_eq_nil_iff {operator : Operator} (comparing : operator.IsComparison)
    {body : Json} :
    validator.check registry depth operator body = [] ↔
      ∃ fact value, body = .array [.string fact, value] ∧ registry.contains fact := by
  have hpair : validator.check registry depth operator body = pairProblems registry operator body := by
    obtain rfl | rfl := comparing <;> rw [Validator.check]
  rw [hpair]
  obtain ⟨fact, value, rfl⟩ | ⟨hbody, problem, hproblem⟩ := pairProblems_cases operator body
  · simp [pairProblems, unknownFact_eq_nil_iff]
  · rw [hproblem]
    refine iff_of_false (List.cons_ne_nil _ _) ?_
    rintro ⟨fact, value, h, -⟩
    exact hbody fact value h

/-- The operand of a question for presence passes if it is the name of a known fact. -/
theorem check_present_eq_nil_iff {body : Json} :
    validator.check registry depth .present body = [] ↔
      ∃ fact, body = .string fact ∧ registry.contains fact := by
  rw [Validator.check]
  cases body <;> simp [nameProblems, unknownFact_eq_nil_iff]

/-- Of all that is no object, only null passes. -/
theorem walk_other_eq_nil_iff {node : Json} (h : ∀ members, node ≠ .object members) :
    validator.walk registry depth node = [] ↔ depth ≤ validator.maxDepth ∧ node = .null := by
  rw [walk_other validator registry depth h]
  split
  · next deep => simp [Nat.not_le.mpr deep]
  · next deep => simp [Nat.not_lt.mp deep, Json.isNull_iff]

end Walk

/-- **A walk finds no problem exactly in what is well formed.** -/
theorem walk_eq_nil_iff (validator : Validator) (registry : Fact.Registry) (depth : Nat) (node : Json) :
    validator.walk registry depth node = [] ↔ WellFormed registry validator.maxDepth depth node := by
  induction node using storedInduction generalizing depth with
  | other node h =>
    rw [walk_other_eq_nil_iff h]
    constructor
    · rintro ⟨deep, rfl⟩
      exact .absent deep
    · intro hwf
      cases hwf with
      | absent deep => exact ⟨deep, rfl⟩
      | _ => exact absurd rfl (h _)
  | node members hbody hitem =>
    rw [walk_object_eq_nil_iff]
    constructor
    · rintro ⟨deep, operator, body, hsole, hcheck⟩
      -- The one operator decides which constructor applies.
      have hmem := mem_operands.mpr hsole.1
      obtain hop | rfl | hop | rfl := operator.isGroup_or
      · obtain ⟨children, rfl, hchildren⟩ := (check_group_eq_nil_iff hop).mp hcheck
        exact .group deep hop hsole fun child hc => (hitem _ _ hmem child hc _).mp (hchildren child hc)
      · exact .not deep hsole ((hbody _ _ hmem _).mp (check_not_eq_nil_iff.mp hcheck))
      · obtain ⟨fact, value, rfl, known⟩ := (check_comparison_eq_nil_iff hop).mp hcheck
        exact .comparison deep hop hsole known
      · obtain ⟨fact, rfl, known⟩ := check_present_eq_nil_iff.mp hcheck
        exact .present deep hsole known
    · intro hwf
      cases hwf with
      | group deep hop hsole each =>
        have hmem := mem_operands.mpr hsole.1
        exact ⟨deep, _, _, hsole, (check_group_eq_nil_iff hop).mpr
          ⟨_, rfl, fun child hc => (hitem _ _ hmem child hc _).mpr (each child hc)⟩⟩
      | not deep hsole inner =>
        have hmem := mem_operands.mpr hsole.1
        exact ⟨deep, _, _, hsole, check_not_eq_nil_iff.mpr ((hbody _ _ hmem _).mpr inner)⟩
      | comparison deep hop hsole known =>
        exact ⟨deep, _, _, hsole, (check_comparison_eq_nil_iff hop).mpr ⟨_, _, rfl, known⟩⟩
      | present deep hsole known =>
        exact ⟨deep, _, _, hsole, check_present_eq_nil_iff.mpr ⟨_, rfl, known⟩⟩

/-- **A guard has no problems exactly if it is well formed.** -/
theorem problems_some_eq_nil_iff {validator : Validator} {registry : Fact.Registry} {node : Json} :
    validator.problems registry (some node) = [] ↔ WellFormed registry validator.maxDepth 0 node := by
  rw [problems_some, walk_eq_nil_iff]

/-! ## Reading takes what is readable -/

theorem exists_worth_iff {value : Json} :
    (∃ worth : Fact.Value, worth.toJson = value) ↔
      value = .null ∨ (∃ flag, value = .bool flag) ∨ ∃ text, value = .string text := by
  constructor
  · rintro ⟨worth, rfl⟩
    cases worth <;> simp [Fact.Value.toJson]
  · rintro (rfl | ⟨flag, rfl⟩ | ⟨text, rfl⟩)
    · exact ⟨.null, rfl⟩
    · exact ⟨.bool flag, rfl⟩
    · exact ⟨.text text, rfl⟩

/-- What is readable is read as some guard. -/
theorem Readable.exists_ofStored {node : Json} (h : Readable node) :
    ∃ guard, ofStored node = .ok guard := by
  induction h with
  | group grouping _ ih =>
    obtain ⟨guards, hguards⟩ := exists_forall₂ fun item hitem =>
      ih item (mem_given.mp hitem).1 (mem_given.mp hitem).2
    obtain rfl | rfl := grouping
    · exact ⟨.all guards, ofStored_all_iff.mpr ⟨_, rfl, hguards⟩⟩
    · exact ⟨.any guards, ofStored_any_iff.mpr ⟨_, rfl, hguards⟩⟩
  | @not child _ ih =>
    by_cases hchild : child = .null
    · exact ⟨.not (.all []), ofStored_not_iff.mpr ⟨child, rfl, .inl ⟨hchild, rfl⟩⟩⟩
    · obtain ⟨guard, hguard⟩ := ih hchild
      exact ⟨.not guard, ofStored_not_iff.mpr ⟨child, rfl, .inr hguard⟩⟩
  | comparison comparing worth =>
    obtain ⟨worth, rfl⟩ := exists_worth_iff.mpr worth
    obtain rfl | rfl := comparing
    · exact ⟨.equals _ _, ofStored_equals_iff.mpr rfl⟩
    · exact ⟨.differs _ _, ofStored_differs_iff.mpr rfl⟩
  | present => exact ⟨.present _, ofStored_present_iff.mpr rfl⟩

/-- The items of a group are readable if children were read from them; the others are absent. -/
theorem readable_of_mem {children : List Guard} {items : List Json}
    (hread : List.Forall₂ (fun child item => ofStored item = .ok child) children (given items))
    (hchild : ∀ child ∈ children, ∀ item, ofStored item = .ok child → Readable item) :
    ∀ item ∈ items, item ≠ .null → Readable item := by
  intro item hitem hthere
  obtain ⟨child, hc, hone⟩ := exists_of_forall₂ hread item (mem_given.mpr ⟨hitem, hthere⟩)
  exact hchild child hc item hone

/-- What is read as a guard is readable. -/
theorem readable_of_ofStored {node : Json} {guard : Guard} (h : ofStored node = .ok guard) :
    Readable node := by
  induction guard generalizing node with
  | all children ih =>
    obtain ⟨items, rfl, hitems⟩ := ofStored_all_iff.mp h
    have grouping : Operator.all.IsGroup := .inl rfl
    exact .group grouping (readable_of_mem hitems fun child hc _ => ih child hc)
  | any children ih =>
    obtain ⟨items, rfl, hitems⟩ := ofStored_any_iff.mp h
    have grouping : Operator.any.IsGroup := .inr rfl
    exact .group grouping (readable_of_mem hitems fun child hc _ => ih child hc)
  | not child ih =>
    obtain ⟨item, rfl, ⟨rfl, -⟩ | hitem⟩ := ofStored_not_iff.mp h
    · exact .not fun there => absurd rfl there
    · exact .not fun _ => ih hitem
  | equals fact value =>
    obtain rfl := ofStored_equals_iff.mp h
    exact .comparison (.inl rfl) (exists_worth_iff.mp ⟨value, rfl⟩)
  | differs fact value =>
    obtain rfl := ofStored_differs_iff.mp h
    exact .comparison (.inr rfl) (exists_worth_iff.mp ⟨value, rfl⟩)
  | present fact =>
    obtain rfl := ofStored_present_iff.mp h
    exact .present

/-- **A stored guard can be read exactly if it is readable.** -/
theorem exists_ofStored_iff_readable {node : Json} :
    (∃ guard, ofStored node = .ok guard) ↔ Readable node :=
  ⟨fun ⟨_, h⟩ => readable_of_ofStored h, Readable.exists_ofStored⟩

/-! ## What validation overlooks -/

theorem Sole.eq_singleton {members : List (String × Json)} {operator : Operator} {body : Json}
    (sole : Sole members operator body) (h : members.length = 1) :
    members = [(operator.key, body)] := by
  obtain ⟨⟨name, found⟩, rfl⟩ := List.length_eq_one_iff.mp h
  have hmem := Json.mem_of_lookup sole.1
  rw [List.mem_singleton] at hmem
  rw [hmem]

/-- What is overlooked in a node with one member is overlooked in what its operator is applied to.
-/
theorem cases_of_overlooked_singleton {operator : Operator} {body : Json}
    (h : Overlooked (.object [(operator.key, body)])) :
    (operator.IsComparison ∧ ∃ fact value, body = .array [.string fact, value] ∧
        ∀ worth : Fact.Value, worth.toJson ≠ value) ∨
      (operator.IsGroup ∧ ∃ children, body = .array children ∧ ∃ child ∈ children, Overlooked child) ∨
      (operator = .not ∧ Overlooked body) := by
  obtain hlen | ⟨comparing, sole, worthless⟩ | ⟨grouping, sole, member, inner⟩ | ⟨sole, inner⟩ := h
  · exact absurd rfl hlen
  · obtain ⟨rfl, rfl⟩ := sole_singleton_iff.mp sole
    exact .inl ⟨comparing, _, _, rfl, worthless⟩
  · obtain ⟨rfl, rfl⟩ := sole_singleton_iff.mp sole
    exact .inr (.inl ⟨grouping, _, rfl, _, member, inner⟩)
  · obtain ⟨rfl, rfl⟩ := sole_singleton_iff.mp sole
    exact .inr (.inr ⟨rfl, inner⟩)

/-- Reading overlooks nothing. -/
theorem Readable.not_overlooked {node : Json} (h : Readable node) : ¬Overlooked node := by
  have hnull : ¬Overlooked .null := nofun
  induction h with
  | group grouping _ ih =>
    intro hover
    obtain ⟨comparing, -⟩ | ⟨-, _, ⟨⟩, child, hchild, inner⟩ | ⟨rfl, -⟩ :=
      cases_of_overlooked_singleton hover
    · exact grouping.not_isComparison comparing
    · exact ih child hchild (fun habsent => hnull (habsent ▸ inner)) inner
    · simp [Operator.IsGroup] at grouping
  | not _ ih =>
    intro hover
    obtain ⟨comparing, -⟩ | ⟨grouping, -⟩ | ⟨-, inner⟩ := cases_of_overlooked_singleton hover
    · simp [Operator.IsComparison] at comparing
    · simp [Operator.IsGroup] at grouping
    · exact ih (fun habsent => hnull (habsent ▸ inner)) inner
  | comparison comparing worth =>
    intro hover
    obtain ⟨-, _, _, ⟨⟩, worthless⟩ | ⟨grouping, -⟩ | ⟨rfl, -⟩ := cases_of_overlooked_singleton hover
    · obtain ⟨found, rfl⟩ := exists_worth_iff.mpr worth
      exact worthless found rfl
    · exact grouping.not_isComparison comparing
    · simp [Operator.IsComparison] at comparing
  | present =>
    intro hover
    obtain ⟨comparing, -⟩ | ⟨grouping, -⟩ | ⟨⟨⟩, -⟩ := cases_of_overlooked_singleton hover
    · simp [Operator.IsComparison] at comparing
    · simp [Operator.IsGroup] at grouping

/-! ## Expressions are what is well formed and readable -/

section Expression

variable {registry : Fact.Registry} {limit depth : Nat}

/-- Expressions of the language are well formed. -/
theorem Expression.wellFormed {node : Json} (h : Expression registry limit depth node) :
    WellFormed registry limit depth node := by
  induction h with
  | absent deep => exact .absent deep
  | group deep grouping _ ih => exact .group deep grouping (sole_singleton_iff.mpr ⟨rfl, rfl⟩) ih
  | not deep _ ih => exact .not deep (sole_singleton_iff.mpr ⟨rfl, rfl⟩) ih
  | comparison deep comparing known =>
    exact .comparison deep comparing (sole_singleton_iff.mpr ⟨rfl, rfl⟩) known
  | present deep known => exact .present deep (sole_singleton_iff.mpr ⟨rfl, rfl⟩) known

/-- Expressions that are there are readable. -/
theorem Expression.readable {node : Json} (h : Expression registry limit depth node)
    (there : node ≠ .null) : Readable node := by
  induction h with
  | absent => exact absurd rfl there
  | group _ grouping _ ih => exact .group grouping ih
  | not _ _ ih => exact .not ih
  | comparison _ comparing => exact .comparison comparing (exists_worth_iff.mp ⟨_, rfl⟩)
  | present => exact .present

theorem Expression.exists_ofStored {node : Json} (h : Expression registry limit depth node)
    (there : node ≠ .null) : ∃ guard, ofStored node = .ok guard :=
  exists_ofStored_iff_readable.mpr (h.readable there)

/-- An expression has nothing in it that the validator would overlook. -/
theorem Expression.not_overlooked {node : Json} (h : Expression registry limit depth node) :
    ¬Overlooked node := by
  by_cases there : node = .null
  · subst there
    nofun
  · exact (h.readable there).not_overlooked

/-- **What is well formed, with nothing overlooked, is an expression.** -/
theorem WellFormed.expression {node : Json} (h : WellFormed registry limit depth node)
    (clean : ¬Overlooked node) : Expression registry limit depth node := by
  induction h with
  | absent deep => exact .absent deep
  | @group _ members _ _ deep grouping sole _ ih =>
    obtain rfl := sole.eq_singleton (not_not.mp fun beside => clean (.surplus beside))
    exact .group deep grouping fun child hc => ih child hc fun inner =>
      clean (.group grouping sole hc inner)
  | @not _ members _ deep sole _ ih =>
    obtain rfl := sole.eq_singleton (not_not.mp fun beside => clean (.surplus beside))
    exact .not deep (ih fun inner => clean (.not sole inner))
  | @comparison _ members _ _ value deep comparing sole known =>
    obtain rfl := sole.eq_singleton (not_not.mp fun beside => clean (.surplus beside))
    by_cases hworth : ∃ worth : Fact.Value, worth.toJson = value
    · obtain ⟨worth, rfl⟩ := hworth
      exact .comparison deep comparing known
    · exact absurd (.operand comparing sole fun worth h => hworth ⟨worth, h⟩) clean
  | @present _ members _ deep sole known =>
    obtain rfl := sole.eq_singleton (not_not.mp fun beside => clean (.surplus beside))
    exact .present deep known

/-- **A well-formed value is an expression unless validation has overlooked something.** -/
theorem WellFormed.expression_iff {node : Json} (h : WellFormed registry limit depth node) :
    Expression registry limit depth node ↔ ¬Overlooked node :=
  ⟨Expression.not_overlooked, h.expression⟩

end Expression

/-- **Expressions are what validates and can be read.** -/
theorem expression_iff {validator : Validator} {registry : Fact.Registry} {depth : Nat} {node : Json}
    (there : node ≠ .null) :
    Expression registry validator.maxDepth depth node ↔
      validator.walk registry depth node = [] ∧ ∃ guard, ofStored node = .ok guard := by
  rw [walk_eq_nil_iff, exists_ofStored_iff_readable]
  constructor
  · intro h
    exact ⟨h.wellFormed, h.readable there⟩
  · rintro ⟨hwell, hread⟩
    exact hwell.expression hread.not_overlooked

end FactGuard.Guard
