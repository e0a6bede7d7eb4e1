import FactGuard.Proofs.Guard.Reading
import FactGuard.Proofs.Guard.Traversal

/-!
# Proofs/Guard/Footprint — the mentions of a guard bound what it depends on

Whatever is stored, `storedMentions` covers every fact that is looked at afterwards: validation asks
the registry about no other (`walk_congr`), the preview calls no other by its label
(`nodeText_congr`), and once the guard is read its meaning depends on the value of no other
(`holds_congr`, `storedMentions_eq`).
-/

namespace FactGuard.Guard

/-! ## Agreement on the mentions -/

/-- Two accounts of facts agree on the given ones. -/
def AgreeOn {α : Type} (facts : List String) (f g : String → α) : Prop :=
  ∀ fact ∈ facts, f fact = g fact

section AgreeOn

variable {α : Type} {f g : String → α}

theorem agreeOn_singleton {fact : String} : AgreeOn [fact] f g ↔ f fact = g fact := by
  simp [AgreeOn]

/-- To agree on the mentions of several items is to agree on those of each. -/
theorem agreeOn_flatMap {β : Type} {mentions : β → List String} {items : List β} :
    AgreeOn (items.flatMap mentions) f g ↔ ∀ item ∈ items, AgreeOn (mentions item) f g := by
  simp only [AgreeOn, List.mem_flatMap, forall_exists_index, and_imp]
  exact ⟨fun h item hitem fact => h fact item hitem, fun h fact item hitem => h item hitem fact⟩

/-- Agreement on a node comes down to agreement on what each of its operators is applied to. -/
theorem agreeOn_object {members : List (String × Json)} :
    AgreeOn (storedMentions (.object members)) f g ↔
      ∀ operand ∈ operands members, AgreeOn (operandMentions operand.1 operand.2) f g := by
  rw [storedMentions_object, agreeOn_flatMap]

/-- Agreement on what children mention is agreement child by child. -/
theorem agreeOn_children {children : List Json} :
    AgreeOn (childMentions children) f g ↔ ∀ child ∈ children, AgreeOn (storedMentions child) f g := by
  rw [childMentions_eq, agreeOn_flatMap]

/-- Agreement on what an operator is applied to is agreement on each guard in it. -/
theorem agreeOn_branch {operator : Operator} {body : Json} {branch : Step × Json}
    (h : AgreeOn (operandMentions operator body) f g)
    (hbranch : branch ∈ storedBranches operator body) : AgreeOn (storedMentions branch.2) f g := by
  obtain ⟨step, child⟩ := branch
  obtain ⟨items, index, rfl, rfl, -, hchild⟩ | ⟨items, index, rfl, rfl, -, hchild⟩ | ⟨rfl, -, rfl⟩ :=
    storedBranches_cases hbranch
  · rw [operandMentions, agreeOn_children] at h
    exact h child (List.mem_of_getElem? hchild)
  · rw [operandMentions, agreeOn_children] at h
    exact h child (List.mem_of_getElem? hchild)
  · rw [operandMentions] at h
    exact h

/-- Duplicates among the facts of a guard do not matter for agreement. -/
theorem agreeOn_factsOfStored_some {node : Json} :
    AgreeOn (factsOfStored (some node)) f g ↔ AgreeOn (storedMentions node) f g := by
  simp only [AgreeOn, factsOfStored, Option.map_some, Option.getD_some, List.mem_eraseDups]

end AgreeOn

/-! ## Validation -/

section Validation

variable {validator : Validator} {registry other : Fact.Registry}

theorem unknownFact_congr {operator : Operator} {fact : String}
    (h : registry.contains fact = other.contains fact) :
    unknownFact registry operator fact = unknownFact other operator fact := by
  rw [unknownFact, unknownFact, h]

theorem pairProblems_congr {operator : Operator} {body : Json}
    (h : AgreeOn (pairMention body) registry.contains other.contains) :
    pairProblems registry operator body = pairProblems other operator body := by
  obtain ⟨fact, value, rfl⟩ | ⟨-, problem, hproblem⟩ := pairProblems_cases operator body
  · rw [pairMention, agreeOn_singleton] at h
    exact unknownFact_congr h
  · rw [hproblem, hproblem]

theorem nameProblems_congr {body : Json}
    (h : AgreeOn (nameMention body) registry.contains other.contains) :
    nameProblems registry body = nameProblems other body := by
  cases body with
  | string fact => exact unknownFact_congr (agreeOn_singleton.mp h)
  | _ => rfl

/-- The problems of a node itself depend on the facts that its operand names. -/
theorem ownProblems_congr {operator : Operator} {body : Json}
    (h : AgreeOn (operandMentions operator body) registry.contains other.contains) :
    ownProblems registry operator body = ownProblems other operator body := by
  cases operator with
  | all | any => cases body <;> rfl
  | not => rfl
  | equals | differs =>
    rw [operandMentions] at h
    exact pairProblems_congr h
  | present =>
    rw [operandMentions] at h
    exact nameProblems_congr h

/-- **Validation asks only about the facts that are mentioned.** -/
theorem walk_congr (depth : Nat) {node : Json}
    (h : AgreeOn (storedMentions node) registry.contains other.contains) :
    validator.walk registry depth node = validator.walk other depth node := by
  induction node using storedBranchInduction generalizing depth with
  | other node hnode => rw [walk_other _ _ _ hnode, walk_other _ _ _ hnode]
  | node members ih =>
    -- The operators alone come from the members; the registry is asked only about their operands.
    have hcheck : ∀ operand ∈ operands members,
        validator.check registry depth operand.1 operand.2 =
          validator.check other depth operand.1 operand.2 := by
      intro operand hmem
      have hoperand := agreeOn_object.mp h operand hmem
      rw [check_eq, check_eq, ownProblems_congr hoperand]
      congr 1
      refine List.flatMap_congr fun branch hbranch => ?_
      rw [ih operand hmem branch hbranch _ (agreeOn_branch hoperand hbranch)]
    rw [walk_object, walk_object, List.flatMap_congr hcheck]

/-- **The problems of a guard depend only on which of its facts are known.** -/
theorem problems_congr {guard : Option Json}
    (h : AgreeOn (factsOfStored guard) registry.contains other.contains) :
    validator.problems registry guard = validator.problems other guard := by
  obtain (rfl | rfl) | ⟨node, rfl, there⟩ := absent_or_some guard
  · rfl
  · rfl
  · rw [problems_some validator registry node, problems_some validator other node]
    exact walk_congr 0 (agreeOn_factsOfStored_some.mp h)

end Validation

/-! ## Preview -/

section Preview

variable {label other : String → String}

/-- The text of a comparison depends on the label of its fact. -/
theorem comparisonText_congr {verb : String} {body : Json}
    (h : AgreeOn (pairMention body) label other) :
    comparisonText label verb body = comparisonText other verb body := by
  fun_cases comparisonText label verb body with
  | case1 fact value =>
    rw [pairMention, agreeOn_singleton] at h
    rw [comparisonText, h]
  | case2 body hpair => rw [comparisonText]; assumption

/-- **The preview calls only facts that are mentioned by their labels.** -/
theorem nodeText_congr (level : Nat) {node : Json} (h : AgreeOn (storedMentions node) label other) :
    nodeText label level node = nodeText other level node := by
  induction node using storedInduction generalizing level with
  | other node hnode => rw [nodeText_other label level hnode, nodeText_other other level hnode]
  | node members hbody hitem =>
    rw [nodeText_object, nodeText_object]
    cases hleading : leading? members with
    | none => rfl
    | some operand =>
      obtain ⟨operator, body⟩ := operand
      -- The preview goes by one operator only, while the mentions cover them all.
      have hmem := List.mem_of_find?_eq_some hleading
      have hoperand := agreeOn_object.mp h _ hmem
      change leadingText label level operator body = leadingText other level operator body
      cases operator with
      | all | any =>
        cases body with
        | array children =>
          rw [operandMentions, agreeOn_children] at hoperand
          rw [leadingText, leadingText, List.map_congr_left fun child hchild =>
            hitem _ _ hmem child hchild _ (hoperand child hchild)]
        | _ => rfl
      | not =>
        rw [operandMentions] at hoperand
        rw [leadingText, leadingText, hbody _ _ hmem _ hoperand]
      | equals | differs =>
        rw [operandMentions] at hoperand
        exact comparisonText_congr hoperand
      | present =>
        rw [operandMentions] at hoperand
        cases body with
        | string fact => rw [leadingText, leadingText, agreeOn_singleton.mp hoperand]
        | _ => rfl

/-- **The preview of a guard depends only on the labels of its facts.** -/
theorem previewStored_congr {registry another : Fact.Registry} {guard : Option Json}
    (h : AgreeOn (factsOfStored guard) registry.label another.label) :
    previewStored registry guard = previewStored another guard := by
  obtain (rfl | rfl) | ⟨node, rfl, there⟩ := absent_or_some guard
  · rfl
  · rfl
  · rw [previewStored_some registry there, previewStored_some another there]
    exact nodeText_congr 0 (agreeOn_factsOfStored_some.mp h)

end Preview

/-! ## Meaning -/

section Meaning

variable {snapshot other : Fact.Snapshot}

/-- **Whether a guard holds depends only on the values of the facts it mentions.** -/
theorem holds_congr {guard : Guard} (h : AgreeOn guard.mentions snapshot.valueOf other.valueOf) :
    guard.holds snapshot = guard.holds other := by
  induction guard with
  | all children ih =>
    rw [mentions, mentionsOf_eq, agreeOn_flatMap] at h
    rw [holds, holds, allHold_eq, allHold_eq]
    exact all_congr_mem fun child hchild => ih child hchild (h child hchild)
  | any children ih =>
    rw [mentions, mentionsOf_eq, agreeOn_flatMap] at h
    rw [holds, holds, anyHolds_eq, anyHolds_eq]
    exact any_congr_mem fun child hchild => ih child hchild (h child hchild)
  | not child ih =>
    rw [mentions] at h
    rw [holds, holds, ih h]
  | equals fact value | differs fact value | present fact =>
    rw [mentions, agreeOn_singleton] at h
    rw [holds, holds, h]

theorem storedMentions_singleton (operator : Operator) (body : Json) :
    storedMentions (.object [(operator.key, body)]) = operandMentions operator body := by
  rw [storedMentions_object, operands_singleton, List.flatMap_singleton]

/-- Absent children of a group mention nothing. -/
theorem childMentions_given (items : List Json) :
    childMentions (given items) = childMentions items := by
  induction items with
  | nil => rfl
  | cons item rest ih =>
    cases item with
    | null =>
      rw [childMentions, ← ih]
      simp [storedMentions, given, Json.isNull]
    | _ => simp only [given, Json.isNull, Bool.not_false, List.filter_cons_of_pos, childMentions, ← ih]

/-- Children that are read mention what the guards mention that they are read as. -/
theorem childMentions_of_forall₂ {children : List Guard} {items : List Json}
    (hread : List.Forall₂ (fun child item => ofStored item = .ok child) children (given items))
    (hchild : ∀ child ∈ children, ∀ item, ofStored item = .ok child →
      storedMentions item = child.mentions) :
    childMentions items = mentionsOf children := by
  rw [← childMentions_given]
  generalize given items = there at hread ⊢
  induction hread with
  | nil => rw [childMentions, mentionsOf]
  | cons hone _ ih =>
    rw [childMentions, mentionsOf, hchild _ List.mem_cons_self _ hone,
      ih fun child hc => hchild child (List.mem_cons_of_mem _ hc)]

/-- **A guard mentions what was mentioned where it was read.** -/
theorem storedMentions_eq {guard : Guard} {node : Json} (h : ofStored node = .ok guard) :
    storedMentions node = guard.mentions := by
  induction guard generalizing node with
  | all children ih =>
    obtain ⟨items, rfl, hitems⟩ := ofStored_all_iff.mp h
    rw [← Operator.key, storedMentions_singleton, operandMentions, mentions]
    exact childMentions_of_forall₂ hitems fun child hchild _ => ih child hchild
  | any children ih =>
    obtain ⟨items, rfl, hitems⟩ := ofStored_any_iff.mp h
    rw [← Operator.key, storedMentions_singleton, operandMentions, mentions]
    exact childMentions_of_forall₂ hitems fun child hchild _ => ih child hchild
  | not child ih =>
    obtain ⟨item, rfl, ⟨rfl, rfl⟩ | hitem⟩ := ofStored_not_iff.mp h
    · rw [← Operator.key, storedMentions_singleton, operandMentions]
      simp [storedMentions, mentions]
    · rw [← Operator.key, storedMentions_singleton, operandMentions, mentions, ih hitem]
  | equals fact value =>
    obtain rfl := ofStored_equals_iff.mp h
    rw [← Operator.key, storedMentions_singleton, operandMentions, pairMention, mentions]
  | differs fact value =>
    obtain rfl := ofStored_differs_iff.mp h
    rw [← Operator.key, storedMentions_singleton, operandMentions, pairMention, mentions]
  | present fact =>
    obtain rfl := ofStored_present_iff.mp h
    rw [← Operator.key, storedMentions_singleton, operandMentions, nameMention, mentions]

end Meaning

end FactGuard.Guard
