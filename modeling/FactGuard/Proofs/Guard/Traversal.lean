import FactGuard.Guard.Mentions
import FactGuard.Guard.Preview
import FactGuard.Guard.Validation

/-!
# Proofs/Guard/Traversal — the three walks over a stored guard, node by node

Validation, the search for mentions and the preview go down a stored value by its operators. Each of
them gets one equation for a node and one for a list of children, and `storedInduction` follows the
way down that they have in common: from a node to what its operators are applied to, and to the
items of it.
-/

namespace FactGuard.Guard

/-- **Induction over stored guards** — a node has what all its operands, and all items of its
operands, have. -/
@[elab_as_elim]
theorem storedInduction {motive : Json → Prop}
    (other : ∀ json, (∀ members, json ≠ .object members) → motive json)
    (node : ∀ members,
      (∀ operator body, (operator, body) ∈ operands members → motive body) →
      (∀ operator items, (operator, .array items) ∈ operands members → ∀ item ∈ items, motive item) →
      motive (.object members)) :
    ∀ json : Json, motive json
  | .object members =>
    node members (fun _ body _ => storedInduction other node body)
      (fun _ _ _ item _ => storedInduction other node item)
  | .null => other .null (by simp)
  | .bool flag => other (.bool flag) (by simp)
  | .number value => other (.number value) (by simp)
  | .string text => other (.string text) (by simp)
  | .array items => other (.array items) (by simp)
termination_by json => sizeOf json
decreasing_by
  · have : sizeOf body < sizeOf members := sizeOf_lt_of_mem_operands ‹(_, body) ∈ operands members›
    simp only [Json.object.sizeOf_spec]
    omega
  · have := sizeOf_lt_of_mem_operands ‹(_, Json.array _) ∈ operands members›
    have := List.sizeOf_lt_of_mem ‹item ∈ _›
    simp only [Json.object.sizeOf_spec, Json.array.sizeOf_spec] at *
    omega

/-- The guards that an operator is applied to, each after the step to it. -/
def storedBranches (operator : Operator) (body : Json) : List (Step × Json) :=
  match operator, body with
  | .all, .array items => items.zipIdx.map fun (item, index) => (.all index, item)
  | .any, .array items => items.zipIdx.map fun (item, index) => (.any index, item)
  | .not, child => [(.not, child)]
  | _, _ => []

/-- A branch leads to an item of a group, or to what is negated. -/
theorem storedBranches_cases {operator : Operator} {body child : Json} {step : Step}
    (h : (step, child) ∈ storedBranches operator body) :
    (∃ items index, operator = .all ∧ body = .array items ∧ step = .all index ∧
        items[index]? = some child) ∨
      (∃ items index, operator = .any ∧ body = .array items ∧ step = .any index ∧
        items[index]? = some child) ∨
      operator = .not ∧ step = .not ∧ child = body := by
  unfold storedBranches at h
  split at h
  case h_1 items =>
    obtain ⟨⟨item, index⟩, hitem, hpair⟩ := List.mem_map.mp h
    obtain ⟨rfl, rfl⟩ := Prod.mk.inj hpair
    exact .inl ⟨items, index, rfl, rfl, rfl, List.mem_zipIdx_iff_getElem?.mp hitem⟩
  case h_2 items =>
    obtain ⟨⟨item, index⟩, hitem, hpair⟩ := List.mem_map.mp h
    obtain ⟨rfl, rfl⟩ := Prod.mk.inj hpair
    exact .inr (.inl ⟨items, index, rfl, rfl, rfl, List.mem_zipIdx_iff_getElem?.mp hitem⟩)
  case h_3 =>
    obtain ⟨rfl, rfl⟩ := Prod.mk.inj (List.mem_singleton.mp h)
    exact .inr (.inr ⟨rfl, rfl, rfl⟩)
  case h_4 => exact absurd h List.not_mem_nil

/-- **Induction along branches** — a node has what all guards below it have. -/
@[elab_as_elim]
theorem storedBranchInduction {motive : Json → Prop}
    (other : ∀ json, (∀ members, json ≠ .object members) → motive json)
    (node : ∀ members, (∀ operand ∈ operands members,
        ∀ branch ∈ storedBranches operand.1 operand.2, motive branch.2) → motive (.object members))
    (json : Json) : motive json := by
  induction json using storedInduction with
  | other json h => exact other json h
  | node members hbody hitem =>
    refine node members ?_
    rintro ⟨operator, body⟩ hmem ⟨step, child⟩ hbranch
    obtain ⟨items, index, rfl, rfl, -, hchild⟩ | ⟨items, index, rfl, rfl, -, hchild⟩ | ⟨rfl, -, rfl⟩ :=
      storedBranches_cases hbranch
    · exact hitem _ items hmem child (List.mem_of_getElem? hchild)
    · exact hitem _ items hmem child (List.mem_of_getElem? hchild)
    · exact hbody _ child hmem

theorem operands_singleton (operator : Operator) (body : Json) :
    operands [(operator.key, body)] = [(operator, body)] := by
  cases operator <;> simp [operands, Operator.list, Operator.key, List.lookup_cons]

/-! ## Validation -/

section Validation

variable (validator : Validator) (registry : Fact.Registry) (depth : Nat)

/-- An object is reported for having no operator, for having several, or not at all. -/
theorem operatorProblems_cases (found : List Operator) :
    operatorProblems found = [] ∨ operatorProblems found = [.here .noOperator] ∨
      operatorProblems found = [.here (.severalOperators found)] := by
  fun_cases operatorProblems found with
  | case1 => exact .inr (.inl rfl)
  | case2 => exact .inl rfl
  | case3 => exact .inr (.inr rfl)

/-- A comparison is of a named fact, or it has a problem whatever the registry knows. -/
theorem pairProblems_cases (operator : Operator) (body : Json) :
    (∃ fact value, body = .array [.string fact, value]) ∨
      (∀ fact value, body ≠ .array [.string fact, value]) ∧
        ∃ problem, ∀ registry, pairProblems registry operator body = [problem] := by
  fun_cases pairProblems .empty operator body with
  | case1 fact value => exact .inl ⟨fact, value, rfl⟩
  | case2 name value hname =>
    refine .inr ⟨fun fact value h => hname fact ?_, .here (.nameNotText operator), fun registry => ?_⟩
    · simp_all
    · rw [pairProblems]
      exact hname
  | case3 body hpair hname =>
    refine .inr ⟨fun fact value => hpair fact value, .here (.notAPair operator), fun registry => ?_⟩
    rw [pairProblems]
    · exact hpair
    · exact hname

/-- A question for presence is about a named fact, or it has a problem whatever the registry knows. -/
theorem nameProblems_cases (body : Json) :
    (∃ fact, body = .string fact) ∨ ∀ registry, nameProblems registry body = [.here .notAName] := by
  cases body with
  | string fact => exact .inl ⟨fact, rfl⟩
  | _ => exact .inr fun _ => rfl

/-- The walk over an object within the limit: its operators, then each operand. -/
theorem walk_object (members : List (String × Json)) :
    validator.walk registry depth (.object members) =
      if validator.maxDepth < depth then [.here (.tooDeep validator.maxDepth)]
      else operatorProblems ((operands members).map Prod.fst) ++
        (operands members).flatMap fun operand =>
          validator.check registry depth operand.1 operand.2 := by
  rw [Validator.walk, List.flatMap_subtype
    (g := fun operand => validator.check registry depth operand.1 operand.2) fun _ _ => rfl,
    List.unattach_attach]

/-- The walk over anything else: only null is let through. -/
theorem walk_other {node : Json} (h : ∀ members, node ≠ .object members) :
    validator.walk registry depth node =
      if validator.maxDepth < depth then [.here (.tooDeep validator.maxDepth)]
      else if node.isNull then [] else [.here .notAnObject] := by
  cases node with
  | object members => exact absurd rfl (h members)
  | _ => simp [Validator.walk, Json.isNull]

/-- Beyond the limit, a node is reported for its depth, whatever it is. -/
theorem walk_of_lt (node : Json) (h : validator.maxDepth < depth) :
    validator.walk registry depth node = [.here (.tooDeep validator.maxDepth)] := by
  cases node with
  | object members => rw [walk_object, if_pos h]
  | _ => rw [walk_other _ _ _ (by simp), if_pos h]

/-- The walk over children, each under the step that leads to it. -/
theorem walkAll_eq (step : Nat → Step) (index : Nat) (children : List Json) :
    validator.walkAll registry depth step index children =
      (children.zipIdx index).flatMap fun child =>
        (validator.walk registry (depth + 1) child.1).map (.under (step child.2)) := by
  induction children generalizing index with
  | nil => rw [Validator.walkAll, List.zipIdx_nil, List.flatMap_nil]
  | cons child rest ih => rw [Validator.walkAll, ih, List.zipIdx_cons, List.flatMap_cons]

/-- The problems of what an operator is applied to, those of the guards in it aside. -/
def ownProblems (registry : Fact.Registry) : Operator → Json → List Problem
  | .all, .array _ => []
  | .any, .array _ => []
  | .all, _ => [.here (.notAList .all)]
  | .any, _ => [.here (.notAList .any)]
  | .not, _ => []
  | .equals, body => pairProblems registry .equals body
  | .differs, body => pairProblems registry .differs body
  | .present, body => nameProblems registry body

/-- **The check of an operand**: its own problems, then those below each branch. -/
theorem check_eq (operator : Operator) (body : Json) :
    validator.check registry depth operator body =
      ownProblems registry operator body ++ (storedBranches operator body).flatMap fun branch =>
        (validator.walk registry (depth + 1) branch.2).map (.under branch.1) := by
  fun_cases ownProblems registry operator body with
  | case1 items | case2 items =>
    rw [Validator.check, walkAll_eq, storedBranches, List.flatMap_map, List.nil_append]
  | case3 body hbody | case4 body hbody =>
    rw [Validator.check, storedBranches, List.flatMap_nil, List.append_nil] <;> simp_all
  | case5 => rw [Validator.check, storedBranches, List.flatMap_singleton, List.nil_append]
  | case6 | case7 | case8 =>
    rw [Validator.check, storedBranches, List.flatMap_nil, List.append_nil] <;> simp_all

theorem walkAll_eq_nil_iff (step : Nat → Step) (index : Nat) (children : List Json) :
    validator.walkAll registry depth step index children = [] ↔
      ∀ child ∈ children, validator.walk registry (depth + 1) child = [] := by
  induction children generalizing index with
  | nil => simp [Validator.walkAll]
  | cons child rest ih => simp [Validator.walkAll, ih]

/-- A guard that is there is walked, and nothing is found in null. -/
theorem problems_some (node : Json) :
    validator.problems registry (some node) = validator.walk registry 0 node := by
  by_cases hnull : node = .null
  · rw [hnull, Validator.problems, walk_other _ _ _ (by simp), if_neg (Nat.not_lt_zero _)]
    rfl
  · rw [Validator.problems]
    exact hnull

end Validation

/-! ## Mentions -/

theorem storedMentions_object (members : List (String × Json)) :
    storedMentions (.object members) =
      (operands members).flatMap fun operand => operandMentions operand.1 operand.2 := by
  rw [storedMentions, List.flatMap_subtype
    (g := fun operand => operandMentions operand.1 operand.2) fun _ _ => rfl, List.unattach_attach]

theorem childMentions_eq (children : List Json) :
    childMentions children = children.flatMap storedMentions := by
  induction children with
  | nil => rw [childMentions, List.flatMap_nil]
  | cons child rest ih => rw [childMentions, ih, List.flatMap_cons]

/-! ## Preview -/

theorem childTexts_eq (label : String → String) (level : Nat) (children : List Json) :
    childTexts label level children = children.map (nodeText label level) := by
  induction children with
  | nil => rw [childTexts, List.map_nil]
  | cons child rest ih => rw [childTexts, ih, List.map_cons]

/-- The preview of what the leading operator of a node is applied to. -/
def leadingText (label : String → String) (level : Nat) : Operator → Json → String
  | .all, .array children => joined level "Y" (children.map (nodeText label (level + 1)))
  | .any, .array children => joined level "O" (children.map (nodeText label (level + 1)))
  | .not, child => "NO " ++ nodeText label (level + 1) child
  | .equals, body => comparisonText label "sea" body
  | .differs, body => comparisonText label "NO sea" body
  | .present, .string fact => label fact ++ " exista"
  | _, _ => unknownText

/-- The text of an object goes by the first operator that is applied to something. -/
theorem nodeText_object (label : String → String) (level : Nat) (members : List (String × Json)) :
    nodeText label level (.object members) =
      match leading? members with
      | some (operator, body) => leadingText label level operator body
      | none => unknownText := by
  rw [nodeText]
  split
  case h_1 h | h_2 h =>
    rw [h, childTexts_eq]
    rfl
  case h_3 h | h_4 h | h_5 h | h_6 h =>
    rw [h]
    rfl
  · cases h : leading? members with
    | none => rfl
    | some operand =>
      obtain ⟨operator, body⟩ := operand
      change unknownText = leadingText label level operator body
      rw [leadingText] <;> simp_all

theorem nodeText_other (label : String → String) (level : Nat) {node : Json}
    (h : ∀ members, node ≠ .object members) : nodeText label level node = unknownText := by
  rw [nodeText]
  exact h

theorem previewStored_some (registry : Fact.Registry) {node : Json} (there : node ≠ .null) :
    previewStored registry (some node) = nodeText registry.label 0 node := by
  rw [previewStored]
  exact there

end FactGuard.Guard
