import FactGuard.Proofs.Guard.RoundTrip
import Mathlib.Data.List.Basic

/-!
# Proofs/Guard/Occurrences — the problems of a guard, occurrence by occurrence

A guard occurs in another one at an address. `occurrences` lists a guard and what occurs in it in
pre-order, and validating a written guard comes down to that list (`walk_toJson_eq`): a condition
within the limit has a problem if it asks about an unknown fact, and so has whatever stands one level
below the limit. Nothing else has one, since a written guard has the shape that validation asks for.
-/

namespace FactGuard.Guard

/-! ## Children -/

/-- The children of a group from the given index on, each after the step to it. -/
def numbered (step : Nat → Step) (index : Nat) (children : List Guard) : List (Step × Guard) :=
  (children.zipIdx index).map fun (child, index) => (step index, child)

/-- The children of a guard from left to right, each after the step to it. -/
def branches : Guard → List (Step × Guard)
  | all children => numbered .all 0 children
  | any children => numbered .any 0 children
  | not child => [(.not, child)]
  | equals _ _ => []
  | differs _ _ => []
  | present _ => []

/-- The child that a step leads to. -/
def child? : Guard → Step → Option Guard
  | all children, .all index => children[index]?
  | any children, .any index => children[index]?
  | not child, .not => some child
  | _, _ => none

/-- The guard at an address. -/
def at? (guard : Guard) (address : List Step) : Option Guard := address.foldlM child? guard

/-- What a condition asks about: its operator and its fact. -/
def question? : Guard → Option (Operator × String)
  | all _ => none
  | any _ => none
  | not _ => none
  | equals fact _ => some (.equals, fact)
  | differs fact _ => some (.differs, fact)
  | present fact => some (.present, fact)

/-- A step comes before another one if it leads to an earlier child of the same group. -/
inductive Step.Before : Step → Step → Prop
  | all {index later : Nat} (h : index < later) : Before (.all index) (.all later)
  | any {index later : Nat} (h : index < later) : Before (.any index) (.any later)

section Branches

variable {guard child : Guard} {children : List Guard}

theorem numbered_cons (step : Nat → Step) (index : Nat) (child : Guard) (rest : List Guard) :
    numbered step index (child :: rest) = (step index, child) :: numbered step (index + 1) rest := by
  rw [numbered, List.zipIdx_cons, List.map_cons]
  rfl

theorem map_snd_numbered (step : Nat → Step) (index : Nat) (children : List Guard) :
    (numbered step index children).map Prod.snd = children := by
  rw [numbered, List.map_map]
  exact List.zipIdx_map_fst index children

theorem forall_mem_numbered (p : Guard → Prop) {step : Nat → Step} {index : Nat} :
    (∀ branch ∈ numbered step index children, p branch.2) ↔ ∀ child ∈ children, p child := by
  rw [← List.forall_mem_map, map_snd_numbered]

/-- Numbered children come in the order of their numbers. -/
theorem pairwise_numbered {before : Step → Step → Prop} {step : Nat → Step}
    (h : ∀ index later, index < later → before (step index) (step later)) (index : Nat)
    (children : List Guard) :
    (numbered step index children).Pairwise fun branch later => before branch.1 later.1 := by
  exact List.pairwise_map.mpr ((pairwise_zipIdx children index).imp fun hlt => h _ _ hlt)

/-- The branches of a node come in the order of their steps. -/
theorem pairwise_branches (guard : Guard) :
    guard.branches.Pairwise fun branch later => branch.1.Before later.1 := by
  cases guard with
  | all children => exact pairwise_numbered (fun _ _ => .all) 0 children
  | any children => exact pairwise_numbered (fun _ _ => .any) 0 children
  | not child => exact List.pairwise_singleton _ _
  | _ => exact .nil

/-- A branch is the child that its step leads to. -/
theorem mem_branches_iff {step : Step} :
    (step, child) ∈ guard.branches ↔ guard.child? step = some child := by
  cases guard <;> cases step <;>
    simp [branches, numbered, child?, List.mem_zipIdx_iff_getElem?, eq_comm]

/-- **Induction along branches** — a guard has what all its children have. -/
@[elab_as_elim]
theorem branchInduction {motive : Guard → Prop}
    (step : ∀ guard : Guard, (∀ branch ∈ guard.branches, motive branch.2) → motive guard)
    (guard : Guard) : motive guard := by
  induction guard with
  | all children ih | any children ih => exact step _ ((forall_mem_numbered motive).mpr ih)
  | not child ih => exact step _ (List.forall_mem_singleton.mpr ih)
  | equals fact value | differs fact value | present fact => exact step _ nofun

end Branches

/-! ## Occurrences -/

/-- A guard at an address. -/
structure Occurrence where
  address : List Step
  node : Guard

/-- An occurrence in a child, seen from the parent. -/
def Occurrence.under (step : Step) (occurrence : Occurrence) : Occurrence :=
  { occurrence with address := step :: occurrence.address }

mutual

/-- **A guard and what occurs in it**, in pre-order. -/
def occurrences : Guard → List Occurrence
  | all children => ⟨[], all children⟩ :: occurrencesBelow .all 0 children
  | any children => ⟨[], any children⟩ :: occurrencesBelow .any 0 children
  | not child => ⟨[], not child⟩ :: (occurrences child).map (.under .not)
  | equals fact value => [⟨[], equals fact value⟩]
  | differs fact value => [⟨[], differs fact value⟩]
  | present fact => [⟨[], present fact⟩]

/-- What occurs in the children of a group, from the given index on. -/
def occurrencesBelow (step : Nat → Step) (index : Nat) : List Guard → List Occurrence
  | [] => []
  | child :: rest =>
    (occurrences child).map (.under (step index)) ++ occurrencesBelow step (index + 1) rest

end

theorem occurrencesBelow_eq (step : Nat → Step) (index : Nat) (children : List Guard) :
    occurrencesBelow step index children =
      (numbered step index children).flatMap fun branch =>
        (occurrences branch.2).map (.under branch.1) := by
  induction children generalizing index with
  | nil => rfl
  | cons child rest ih =>
    rw [occurrencesBelow, ih, numbered_cons, List.flatMap_cons]

/-- The occurrences in a guard: itself, then those below each branch. -/
theorem occurrences_eq (guard : Guard) :
    guard.occurrences = ⟨[], guard⟩ ::
      guard.branches.flatMap fun branch => (occurrences branch.2).map (.under branch.1) := by
  cases guard with
  | all children | any children => rw [occurrences, occurrencesBelow_eq, branches]
  | not child => rw [occurrences, branches, List.flatMap_singleton]
  | _ => simp only [occurrences, branches, List.flatMap_nil]

/-- **A guard occurs exactly where its address leads to it.** -/
theorem mem_occurrences_iff {guard node : Guard} {address : List Step} :
    ⟨address, node⟩ ∈ guard.occurrences ↔ guard.at? address = some node := by
  induction guard using branchInduction generalizing address with
  | _ guard ih =>
    rw [occurrences_eq, List.mem_cons, List.mem_flatMap, at?]
    cases address with
    | nil => simp [Occurrence.under, eq_comm]
    | cons step rest =>
      simp only [Occurrence.mk.injEq, reduceCtorEq, false_and, false_or, List.mem_map,
        Occurrence.under, List.cons.injEq, List.foldlM_cons, Option.bind_eq_bind,
        Option.bind_eq_some_iff]
      constructor
      · rintro ⟨⟨_, child⟩, hbranch, ⟨_, _⟩, hmem, ⟨rfl, rfl⟩, rfl⟩
        exact ⟨child, mem_branches_iff.mp hbranch, (ih _ hbranch).mp hmem⟩
      · rintro ⟨child, hchild, hrest⟩
        have hbranch := mem_branches_iff.mpr hchild
        exact ⟨_, hbranch, ⟨rest, node⟩, (ih _ hbranch).mpr hrest, ⟨rfl, rfl⟩, rfl⟩

theorem map_address_under (step : Step) (occurrences : List Occurrence) :
    (occurrences.map (.under step)).map Occurrence.address =
      (occurrences.map Occurrence.address).map (step :: ·) := by
  rw [List.map_map, List.map_map]
  rfl

/-- **Occurrences are listed from left to right**, each before what occurs in it. -/
theorem pairwise_occurrences (guard : Guard) :
    (guard.occurrences.map Occurrence.address).Pairwise (List.Lex Step.Before) := by
  induction guard using branchInduction with
  | _ guard ih =>
    rw [occurrences_eq, List.map_cons, List.pairwise_cons, List.map_flatMap, List.pairwise_flatMap]
    simp only [map_address_under]
    refine ⟨fun address hmem => ?root, fun branch hbranch => ?within, ?across⟩
    case root =>
      obtain ⟨branch, -, hmem⟩ := List.mem_flatMap.mp hmem
      obtain ⟨inner, -, rfl⟩ := List.mem_map.mp hmem
      exact .nil
    case within => exact List.pairwise_map.mpr ((ih branch hbranch).imp .cons)
    case across =>
      refine (pairwise_branches guard).imp fun hbefore address hmem later hlater => ?_
      obtain ⟨inner, -, rfl⟩ := List.mem_map.mp hmem
      obtain ⟨inner, -, rfl⟩ := List.mem_map.mp hlater
      exact .rel hbefore

/-! ## Depth -/

mutual

/-- How deep a guard is nested: every group and every negation adds a level for its children. -/
def depth : Guard → Nat
  | all children => depthBelow children
  | any children => depthBelow children
  | not child => depth child + 1
  | equals _ _ => 0
  | differs _ _ => 0
  | present _ => 0

/-- How deep the children of a group reach, seen from the group. -/
def depthBelow : List Guard → Nat
  | [] => 0
  | child :: rest => max (depth child + 1) (depthBelow rest)

end

/-- A limit holds below a group if it holds, with one level to spare, for each child. -/
theorem depthBelow_le_iff {children : List Guard} {limit : Nat} :
    depthBelow children ≤ limit ↔ ∀ child ∈ children, child.depth + 1 ≤ limit := by
  induction children with
  | nil => simp [depthBelow]
  | cons child rest ih => rw [depthBelow, Nat.max_le, ih, List.forall_mem_cons]

theorem depth_le_iff {guard : Guard} {limit : Nat} :
    guard.depth ≤ limit ↔ ∀ branch ∈ guard.branches, branch.2.depth + 1 ≤ limit := by
  cases guard with
  | all children | any children =>
    exact depthBelow_le_iff.trans (forall_mem_numbered fun child => child.depth + 1 ≤ limit).symm
  | not child => rw [depth, branches, List.forall_mem_singleton]
  | _ => simp [depth, branches]

/-- The depth bounds the levels on which something occurs. -/
theorem length_address_le_depth {guard : Guard} {occurrence : Occurrence}
    (h : occurrence ∈ guard.occurrences) : occurrence.address.length ≤ guard.depth := by
  induction guard using branchInduction generalizing occurrence with
  | _ guard ih =>
    rw [occurrences_eq, List.mem_cons, List.mem_flatMap] at h
    obtain rfl | ⟨branch, hbranch, hmem⟩ := h
    · exact Nat.zero_le _
    · obtain ⟨inner, hinner, rfl⟩ := List.mem_map.mp hmem
      have hlength := ih branch hbranch hinner
      have hdepth := depth_le_iff.mp (Nat.le_refl guard.depth) branch hbranch
      exact Nat.le_trans (Nat.succ_le_succ hlength) hdepth

/-! ## Problems -/

section Problems

variable {validator : Validator} {registry : Fact.Registry} {guard : Guard} {limit level : Nat}

/-- What is wrong with a condition that asks about an unknown fact. -/
def unknown? (registry : Fact.Registry) (guard : Guard) : Option Cause :=
  match guard.question? with
  | some (operator, fact) =>
    if registry.contains fact then none else some (.unknownFact operator fact)
  | none => none

/-- **What is wrong with a node** on the given level, if anything: within the limit, that it asks
about an unknown fact, and just below the limit, that it is there at all. -/
def cause? (registry : Fact.Registry) (limit level : Nat) (guard : Guard) : Option Cause :=
  if level ≤ limit then unknown? registry guard
  else if level = limit + 1 then some (.tooDeep limit)
  else none

/-- Beyond the level where depth is reported, nothing is. -/
theorem cause?_of_lt (h : limit + 1 < level) : cause? registry limit level guard = none := by
  rw [cause?, if_neg (by omega), if_neg (by omega)]

/-- **The problem of an occurrence** on the given level, if it has one. -/
def Occurrence.problem? (registry : Fact.Registry) (limit level : Nat) (occurrence : Occurrence) :
    Option Problem :=
  (cause? registry limit level occurrence.node).map fun cause => ⟨occurrence.address, cause⟩

/-- The problems of the occurrences in a guard on the given level, in the order of these. -/
def problemsFrom (registry : Fact.Registry) (limit level : Nat) (guard : Guard) : List Problem :=
  guard.occurrences.filterMap fun occurrence =>
    occurrence.problem? registry limit (level + occurrence.address.length)

/-- The problem of an occurrence moves along with it. -/
theorem Occurrence.problem?_under (step : Step) (occurrence : Occurrence) :
    (occurrence.under step).problem? registry limit level =
      (occurrence.problem? registry limit level).map (.under step) := by
  rw [problem?, problem?, Option.map_map]
  rfl

/-- The problems of a guard: its own, then those below each branch. -/
theorem problemsFrom_eq (guard : Guard) :
    problemsFrom registry limit level guard =
      ((cause? registry limit level guard).map .here).toList ++
        guard.branches.flatMap fun branch =>
          (problemsFrom registry limit (level + 1) branch.2).map (.under branch.1) := by
  rw [problemsFrom, List.filterMap_eq_flatMap_toList, occurrences_eq, List.flatMap_cons,
    List.flatMap_assoc]
  congr 1
  refine List.flatMap_congr fun branch _ => ?_
  rw [problemsFrom, List.filterMap_eq_flatMap_toList, List.flatMap_map, List.map_flatMap]
  refine List.flatMap_congr fun occurrence _ => ?_
  rw [Occurrence.problem?_under, Option.toList_map, Nat.add_assoc, Nat.add_comm 1]
  rfl

/-- Below the level where depth is reported, nothing is left to report. -/
theorem problemsFrom_eq_nil_of_lt (h : limit + 1 < level) (guard : Guard) :
    problemsFrom registry limit level guard = [] := by
  refine List.filterMap_eq_nil_iff.mpr fun occurrence _ => ?_
  rw [Occurrence.problem?, cause?_of_lt (by omega), Option.map_none]

/-- Children that were written are walked as the branches that they are. -/
theorem walkAll_toJson (depth index : Nat) (step : Nat → Step) (children : List Guard) :
    validator.walkAll registry depth step index (children.map toJson) =
      (numbered step index children).flatMap fun branch =>
        (validator.walk registry (depth + 1) branch.2.toJson).map (.under branch.1) := by
  rw [walkAll_eq, List.zipIdx_map, numbered, List.flatMap_map, List.flatMap_map]
  rfl

/-- An object with a single operator is checked by that operator, within the limit. -/
theorem walk_singleton (depth : Nat) (operator : Operator) (body : Json) :
    validator.walk registry depth (.object [(operator.key, body)]) =
      if validator.maxDepth < depth then [.here (.tooDeep validator.maxDepth)]
      else validator.check registry depth operator body := by
  rw [walk_object, operands_singleton, List.flatMap_singleton]
  rfl

theorem unknownFact_eq (operator : Operator) (fact : String) :
    unknownFact registry operator fact =
      ((if registry.contains fact then none else some (.unknownFact operator fact)).map
        Problem.here).toList := by
  rw [unknownFact]
  split <;> rfl

/-- **Validating a written guard** asks about its fact if it is a condition, and goes on to its
children. -/
theorem walk_toJson (depth : Nat) (guard : Guard) :
    validator.walk registry depth guard.toJson =
      if validator.maxDepth < depth then [.here (.tooDeep validator.maxDepth)]
      else ((unknown? registry guard).map .here).toList ++ guard.branches.flatMap fun branch =>
        (validator.walk registry (depth + 1) branch.2.toJson).map (.under branch.1) := by
  cases guard with
  | all children =>
    rw [toJson_all, walk_singleton, Validator.check, walkAll_toJson]
    rfl
  | any children =>
    rw [toJson_any, walk_singleton, Validator.check, walkAll_toJson]
    rfl
  | not child =>
    rw [toJson, ← Operator.key, walk_singleton, Validator.check, branches, List.flatMap_singleton]
    rfl
  | equals fact value | differs fact value =>
    rw [toJson, ← Operator.key, walk_singleton, Validator.check, pairProblems, unknownFact_eq,
      branches, List.flatMap_nil, List.append_nil]
    rfl
  | present fact =>
    rw [toJson, ← Operator.key, walk_singleton, Validator.check, nameProblems, unknownFact_eq,
      branches, List.flatMap_nil, List.append_nil]
    rfl

/-- **The problems of a written guard are those of its occurrences**, in the order of these. -/
theorem walk_toJson_eq {depth : Nat} (h : depth ≤ validator.maxDepth + 1) (guard : Guard) :
    validator.walk registry depth guard.toJson =
      problemsFrom registry validator.maxDepth depth guard := by
  induction guard using branchInduction generalizing depth with
  | _ guard ih =>
    rw [walk_toJson, problemsFrom_eq]
    split
    · -- Validation stops here, and what occurs further down has no problem.
      obtain rfl : depth = validator.maxDepth + 1 := by omega
      rw [cause?, if_neg (by omega), if_pos rfl]
      simp [problemsFrom_eq_nil_of_lt]
    · rw [cause?, if_pos (by omega)]
      congr 1
      refine List.flatMap_congr fun branch hbranch => ?_
      rw [ih branch hbranch (by omega)]

/-! ## Validity -/

/-- A node asks for nothing unknown if the fact that it asks for, if any, is known. -/
theorem unknown?_eq_none_iff :
    unknown? registry guard = none ↔
      ∀ question ∈ guard.question?, registry.contains question.2 = true := by
  rw [unknown?]
  cases guard.question? with
  | none => simp
  | some question => simp

/-- A guard mentions its own fact, if it is a condition, and what its children mention. -/
theorem mentions_eq (guard : Guard) :
    guard.mentions = (guard.question?.map Prod.snd).toList ++
      guard.branches.flatMap fun branch => branch.2.mentions := by
  cases guard with
  | all children | any children =>
    have hchildren (step : Nat → Step) : children.flatMap mentions =
        (numbered step 0 children).flatMap fun branch => branch.2.mentions := by
      rw [← List.flatMap_map (Prod.snd : Step × Guard → Guard) mentions, map_snd_numbered]
    rw [mentions, mentionsOf_eq, branches, ← hchildren]
    rfl
  | not child =>
    rw [mentions, branches, List.flatMap_singleton]
    rfl
  | _ => rfl

theorem forall_mem_mentions_iff {p : String → Prop} :
    (∀ fact ∈ guard.mentions, p fact) ↔
      (∀ question ∈ guard.question?, p question.2) ∧
        ∀ branch ∈ guard.branches, ∀ fact ∈ branch.2.mentions, p fact := by
  rw [mentions_eq, List.forall_mem_append, List.forall_mem_flatMap]
  cases guard.question? <;> simp

/-- **A written guard is valid** if it is nested no deeper than the limit and the facts that it
mentions are known. -/
theorem walk_toJson_eq_nil_iff (depth : Nat) (guard : Guard) :
    validator.walk registry depth guard.toJson = [] ↔
      depth + guard.depth ≤ validator.maxDepth ∧
        ∀ fact ∈ guard.mentions, registry.contains fact = true := by
  induction guard using branchInduction generalizing depth with
  | _ guard ih =>
    obtain hdeep | hdepth := Nat.lt_or_ge validator.maxDepth depth
    · rw [walk_toJson, if_pos hdeep]
      refine iff_of_false (List.cons_ne_nil _ _) fun h => ?_
      exact Nat.not_le_of_lt hdeep (Nat.le_trans (Nat.le_add_right _ _) h.1)
    · -- Both conditions on a guard are conditions on its branches, and on its own fact if it has one.
      have hbelow : depth + guard.depth ≤ validator.maxDepth ↔
          ∀ branch ∈ guard.branches, depth + 1 + branch.2.depth ≤ validator.maxDepth := by
        rw [← Nat.le_sub_iff_add_le' hdepth, depth_le_iff]
        exact forall₂_congr fun branch _ => by omega
      have hrest : (∀ branch ∈ guard.branches,
            (validator.walk registry (depth + 1) branch.2.toJson).map (Problem.under branch.1) = []) ↔
          (∀ branch ∈ guard.branches, depth + 1 + branch.2.depth ≤ validator.maxDepth) ∧
            ∀ branch ∈ guard.branches, ∀ fact ∈ branch.2.mentions, registry.contains fact = true := by
        rw [← forall₂_and]
        exact forall₂_congr fun branch hbranch => List.map_eq_nil_iff.trans (ih branch hbranch _)
      rw [walk_toJson, if_neg (Nat.not_lt.mpr hdepth), List.append_eq_nil_iff,
        Option.toList_eq_nil_iff, Option.map_eq_none_iff, unknown?_eq_none_iff,
        List.flatMap_eq_nil_iff, hrest, hbelow, forall_mem_mentions_iff, and_left_comm]

/-- **The validator reports of a written guard what its occurrences are to blame for.** -/
theorem problems_toJson (guard : Guard) :
    validator.problems registry (some guard.toJson) =
      problemsFrom registry validator.maxDepth 0 guard := by
  rw [problems_some, walk_toJson_eq (Nat.zero_le _)]

/-- A written guard has no problems if it is not too deep and all of its facts are known. -/
theorem problems_toJson_eq_nil_iff :
    validator.problems registry (some guard.toJson) = [] ↔
      guard.depth ≤ validator.maxDepth ∧ ∀ fact ∈ guard.facts, registry.contains fact = true := by
  rw [problems_some, walk_toJson_eq_nil_iff, Nat.zero_add, facts]
  simp only [List.mem_eraseDups]

/-- The limit does not matter to a guard that is nested no deeper. -/
theorem problemsFrom_eq_of_depth_le {other : Nat} (h : guard.depth ≤ limit)
    (hother : guard.depth ≤ other) :
    problemsFrom registry limit 0 guard = problemsFrom registry other 0 guard := by
  refine List.filterMap_congr fun occurrence hmem => ?_
  have hlevel := length_address_le_depth hmem
  rw [Nat.zero_add, Occurrence.problem?, Occurrence.problem?, cause?, cause?,
    if_pos (Nat.le_trans hlevel h), if_pos (Nat.le_trans hlevel hother)]

/-- **Validating a guard reports the problems of its occurrences and nothing else.** They are what is
found by going down the guard, in pre-order, and each of them is reported once if it asks about an
unknown fact within the limit or stands one level below the limit. So a guard is valid if and only if
it is nested no deeper than the limit and mentions known facts only, and all limits that leave room
for a guard give the same report. -/
theorem validate_reports_occurrences (registry : Fact.Registry) (limit : Nat) (guard : Guard) :
    (∀ address node, ⟨address, node⟩ ∈ guard.occurrences ↔ guard.at? address = some node) ∧
    (guard.occurrences.map Occurrence.address).Pairwise (List.Lex Step.Before) ∧
    (Validator.validate ⟨limit⟩ registry (some guard)).errors =
      (guard.occurrences.filterMap fun occurrence =>
        occurrence.problem? registry limit occurrence.address.length).map (Problem.report rootPath) ∧
    ((Validator.validate ⟨limit⟩ registry (some guard)).valid = true ↔
      guard.depth ≤ limit ∧ ∀ fact ∈ guard.facts, registry.contains fact = true) ∧
    (guard.depth ≤ limit → ∀ other, guard.depth ≤ other →
      (Validator.validate ⟨limit⟩ registry (some guard)).errors =
        (Validator.validate ⟨other⟩ registry (some guard)).errors) := by
  have herrors (limit : Nat) : (Validator.validate ⟨limit⟩ registry (some guard)).errors =
      (problemsFrom registry limit 0 guard).map (Problem.report rootPath) := by
    have hproblems : Validator.problems ⟨limit⟩ registry (some guard.toJson) =
        problemsFrom registry limit 0 guard := problems_toJson guard
    rw [← hproblems]
    rfl
  refine ⟨fun _ _ => mem_occurrences_iff, pairwise_occurrences guard, ?_, ?_, ?_⟩
  · simp only [herrors, problemsFrom, Nat.zero_add]
  · rw [Validator.validate, Validator.valid_validateStored, List.isEmpty_iff]
    exact problems_toJson_eq_nil_iff
  · intro hlimit other hother
    rw [herrors, herrors, problemsFrom_eq_of_depth_le hlimit hother]

/-- A guard with a condition three levels down and a condition on a fact that is no core fact. -/
def visitGuard : Guard :=
  .all [.not (.any [.present "visit_scheduled"]), .equals "has_contact" (.bool true),
    .differs "vip" (.bool true)]

/-- A node that is too deep hides what is below it, and both limits that suffice show the same. -/
theorem validate_reports_occurrences_visitGuard :
    (Validator.validate ⟨1⟩ .core (some visitGuard)).errors =
      [Problem.mk [.all 0, .not] (.tooDeep 1), .mk [.all 2] (.unknownFact .differs "vip")].map
        (Problem.report rootPath) ∧
    visitGuard.depth ≤ 3 ∧ visitGuard.depth ≤ 64 ∧
    (Validator.validate ⟨3⟩ .core (some visitGuard)).errors =
      (Validator.validate ⟨64⟩ .core (some visitGuard)).errors := by
  obtain ⟨-, -, herrors, -, -⟩ := validate_reports_occurrences .core 1 visitGuard
  obtain ⟨-, -, -, -, hsame⟩ := validate_reports_occurrences .core 3 visitGuard
  have hdepth : visitGuard.depth = 3 := by decide
  refine ⟨herrors.trans (congrArg _ (by decide +kernel)), by omega, by omega, ?_⟩
  exact hsame (by omega) 64 (by omega)

end Problems

end FactGuard.Guard
