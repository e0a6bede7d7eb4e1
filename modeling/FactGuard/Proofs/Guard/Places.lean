import FactGuard.Proofs.Guard.Report
import FactGuard.Proofs.Guard.Traversal
import Mathlib.Data.List.Lex

/-!
# Proofs/Guard/Places — where the problems of a stored guard are

Whatever is stored as a guard, a problem with it stands at a place that is there, and no two problems
stand at one place: they are listed in the order of their places (`pairwise_walk`). A node with
several operators, and a malformed operator beside a good one, are no exceptions, since an operator has
either a problem of its own or guards below it (`ownProblems_cases`).
-/

namespace FactGuard.Guard

/-! ## Order -/

/-- An operator comes before another one if it is looked for first. -/
def Operator.Before (operator later : Operator) : Prop :=
  Operator.list.idxOf operator < Operator.list.idxOf later

instance : DecidableRel Operator.Before := fun _ _ => Nat.decLt _ _

/-- A mark comes before another one if it names an earlier operator or an earlier item. -/
inductive Mark.Before : Mark → Mark → Prop
  | key {operator later : Operator} (h : operator.Before later) : Before (.key operator) (.key later)
  | item {index later : Nat} (h : index < later) : Before (.item index) (.item later)

theorem Mark.Before.irrefl (mark : Mark) : ¬ mark.Before mark := by
  intro h
  cases h with
  | key h => exact Nat.lt_irrefl _ h
  | item h => exact Nat.lt_irrefl _ h

/-- Operands come in the order of the operators. -/
theorem pairwise_operands (members : List (String × Json)) :
    (operands members).Pairwise fun operand later => operand.1.Before later.1 := by
  have hlist : Operator.list.Pairwise Operator.Before := by decide
  refine hlist.filterMap _ fun operator later hbefore operand hoperand other hother => ?_
  obtain ⟨body, -, rfl⟩ := Option.map_eq_some_iff.mp hoperand
  obtain ⟨body, -, rfl⟩ := Option.map_eq_some_iff.mp hother
  exact hbefore

/-- Whatever lies below an earlier branch comes before what lies below a later one. -/
theorem pairwise_storedBranches (operator : Operator) (body : Json) :
    (storedBranches operator body).Pairwise fun branch later =>
      ∀ marks more, List.Lex Mark.Before (branch.1.marks ++ marks) (later.1.marks ++ more) := by
  fun_cases storedBranches operator body with
  | case1 items | case2 items =>
    exact List.pairwise_map.mpr
      ((pairwise_zipIdx items 0).imp fun hlt _ _ => .cons (.rel (.item hlt)))
  | case3 => exact List.pairwise_singleton _ _
  | case4 => exact .nil

/-! ## Places -/

/-- What a mark leads to. -/
def Mark.target? : Json → Mark → Option Json
  | node, .key operator => node.member? operator.key
  | .array items, .item index => items[index]?
  | _, .item _ => none

/-- What stands at a place of a stored guard. -/
def storedAt? (node : Json) (marks : List Mark) : Option Json := marks.foldlM Mark.target? node

/-- The parts of a node that can be to blame, in words. -/
def blamable : List String := ["", ".eq", ".eq[0]", ".neq", ".neq[0]", ".exists", ".all", ".any"]

/-- A cause blames an operator, or a part of what it is applied to. -/
def Cause.Blames (cause : Cause) (operator : Operator) (body : Json) : Prop :=
  cause.place ∈ blamable ∧
    ∃ inner part, cause.marks = .key operator :: inner ∧ storedAt? body inner = some part

section Places

variable {operator : Operator} {body : Json} {members : List (String × Json)}

/-- Marks are followed one part after the other. -/
theorem storedAt?_append (node : Json) (marks more : List Mark) :
    storedAt? node (marks ++ more) = (storedAt? node marks).bind (storedAt? · more) := by
  rw [storedAt?, List.foldlM_append]
  rfl

theorem storedAt?_key (h : (operator, body) ∈ operands members) (marks : List Mark) :
    storedAt? (.object members) (.key operator :: marks) = storedAt? body marks := by
  have htarget : Mark.target? (.object members) (.key operator) = some body := mem_operands.mp h
  rw [storedAt?, List.foldlM_cons, htarget]
  rfl

/-- The marks of a step to a branch are the operator and what leads on to the branch. -/
theorem marks_of_mem_storedBranches {step : Step} {child : Json}
    (h : (step, child) ∈ storedBranches operator body) :
    ∃ inner, step.marks = .key operator :: inner ∧ storedAt? body inner = some child := by
  have hitem {items : List Json} {index : Nat} (hchild : items[index]? = some child) :
      storedAt? (.array items) [.item index] = some child := by
    rw [storedAt?, List.foldlM_cons, Mark.target?, hchild]
    rfl
  obtain ⟨items, index, rfl, rfl, rfl, hchild⟩ | ⟨items, index, rfl, rfl, rfl, hchild⟩ |
    ⟨rfl, rfl, rfl⟩ := storedBranches_cases h
  · exact ⟨[.item index], rfl, hitem hchild⟩
  · exact ⟨[.item index], rfl, hitem hchild⟩
  · exact ⟨[], rfl, rfl⟩

end Places

/-! ## Problems -/

section Problems

variable {validator : Validator} {registry : Fact.Registry} {operator : Operator}

theorem unknownFact_cases (registry : Fact.Registry) (operator : Operator) (fact : String) :
    unknownFact registry operator fact = [] ∨
      unknownFact registry operator fact = [.here (.unknownFact operator fact)] := by
  rw [unknownFact]
  split
  · exact .inl rfl
  · exact .inr rfl

/-- What is wrong with a pair is blamed on the pair or on its first item. -/
theorem pairProblems_blames (hkey : "." ++ operator.key ∈ blamable)
    (hname : "." ++ operator.key ++ "[0]" ∈ blamable) (body : Json) :
    pairProblems registry operator body = [] ∨
      ∃ cause, pairProblems registry operator body = [.here cause] ∧ cause.Blames operator body := by
  fun_cases pairProblems registry operator body with
  | case1 fact value =>
    obtain hknown | hunknown := unknownFact_cases registry operator fact
    · exact .inl hknown
    · exact .inr ⟨.unknownFact operator fact, hunknown, hkey, [], _, rfl, rfl⟩
  | case2 name value =>
    exact .inr ⟨.nameNotText operator, rfl, hname, [.item 0], name, rfl, rfl⟩
  | case3 => exact .inr ⟨.notAPair operator, rfl, hkey, [], _, rfl, rfl⟩

/-- What is wrong with a name is blamed on the name. -/
theorem nameProblems_blames (body : Json) :
    nameProblems registry body = [] ∨
      ∃ cause, nameProblems registry body = [.here cause] ∧ cause.Blames .present body := by
  have hkey : "." ++ Operator.present.key ∈ blamable := by decide
  obtain ⟨fact, rfl⟩ | hname := nameProblems_cases body
  · obtain hknown | hunknown := unknownFact_cases registry .present fact
    · exact .inl hknown
    · exact .inr ⟨.unknownFact .present fact, hunknown, hkey, [], _, rfl, rfl⟩
  · exact .inr ⟨.notAName, hname registry, hkey, [], body, rfl, rfl⟩

/-- **An operator has at most one problem of its own**, which blames the operator or a part of what it
is applied to, and then there are no guards below it. -/
theorem ownProblems_cases (registry : Fact.Registry) (operator : Operator) (body : Json) :
    ownProblems registry operator body = [] ∨
      storedBranches operator body = [] ∧
        ∃ cause, ownProblems registry operator body = [.here cause] ∧ cause.Blames operator body := by
  fun_cases ownProblems registry operator body with
  | case1 | case2 | case5 => exact .inl rfl
  | case3 =>
    have hplace : (Cause.notAList .all).place ∈ blamable := by decide
    exact .inr ⟨by simp_all [storedBranches], .notAList .all, rfl, hplace, [], body, rfl, rfl⟩
  | case4 =>
    have hplace : (Cause.notAList .any).place ∈ blamable := by decide
    exact .inr ⟨by simp_all [storedBranches], .notAList .any, rfl, hplace, [], body, rfl, rfl⟩
  | case6 => exact (pairProblems_blames (by decide) (by decide) body).imp_right (.intro rfl)
  | case7 => exact (pairProblems_blames (by decide) (by decide) body).imp_right (.intro rfl)
  | case8 => exact (nameProblems_blames body).imp_right (.intro rfl)

/-- The operators of a node have at most one problem, which blames the whole node. -/
theorem operatorProblems_blames (found : List Operator) :
    operatorProblems found = [] ∨
      ∃ cause, operatorProblems found = [.here cause] ∧ cause.place = "" ∧ cause.marks = [] := by
  obtain hone | hnone | hseveral := operatorProblems_cases found
  · exact .inl hone
  · exact .inr ⟨.noOperator, hnone, rfl, rfl⟩
  · exact .inr ⟨.severalOperators found, hseveral, rfl, rfl⟩

/-- A problem of what an operator is applied to blames the operator or a part of it, or it is a problem
of a guard below the operator. -/
theorem mem_check_cases {depth : Nat} {body : Json} {problem : Problem}
    (h : problem ∈ validator.check registry depth operator body) :
    (∃ cause, problem = .here cause ∧ cause.Blames operator body) ∨
      ∃ branch ∈ storedBranches operator body,
        ∃ inner ∈ validator.walk registry (depth + 1) branch.2, problem = inner.under branch.1 := by
  rw [check_eq, List.mem_append, List.mem_flatMap] at h
  obtain hown | ⟨branch, hbranch, hbelow⟩ := h
  · obtain hnil | ⟨-, cause, hone, hblames⟩ := ownProblems_cases registry operator body
    · rw [hnil] at hown
      exact absurd hown List.not_mem_nil
    · rw [hone] at hown
      exact .inl ⟨cause, List.mem_singleton.mp hown, hblames⟩
  · obtain ⟨inner, hinner, rfl⟩ := List.mem_map.mp hbelow
    exact .inr ⟨branch, hbranch, inner, hinner, rfl⟩

/-- What an operator is applied to has its problems behind the name of the operator. -/
theorem marks_of_mem_check {depth : Nat} {body : Json} {problem : Problem}
    (h : problem ∈ validator.check registry depth operator body) :
    ∃ marks, problem.marks = .key operator :: marks := by
  obtain ⟨cause, rfl, -, inner, -, hmarks, -⟩ | ⟨⟨step, child⟩, hbranch, inner, -, rfl⟩ :=
    mem_check_cases h
  · exact ⟨inner, hmarks⟩
  · obtain ⟨more, hstep, -⟩ := marks_of_mem_storedBranches hbranch
    rw [marks_under, hstep, List.cons_append]
    exact ⟨more ++ inner.marks, rfl⟩

/-- **A problem of a node** blames the node itself or a part of it, or it is a problem of a guard
below the node. -/
theorem mem_walk_cases {depth : Nat} {node : Json} {problem : Problem}
    (h : problem ∈ validator.walk registry depth node) :
    (∃ cause part, problem = .here cause ∧ cause.place ∈ blamable ∧
        storedAt? node cause.marks = some part) ∨
      ∃ members, node = .object members ∧ ∃ operand ∈ operands members,
        ∃ branch ∈ storedBranches operand.1 operand.2,
          ∃ inner ∈ validator.walk registry (depth + 1) branch.2, problem = inner.under branch.1 := by
  have hwhole {cause : Cause} (hplace : cause.place = "") (hmarks : cause.marks = []) :
      cause.place ∈ blamable ∧ storedAt? node cause.marks = some node := by
    rw [hplace, hmarks]
    exact ⟨List.mem_cons_self, rfl⟩
  by_cases hdeep : validator.maxDepth < depth
  · rw [walk_of_lt _ _ _ _ hdeep] at h
    obtain rfl := List.mem_singleton.mp h
    exact .inl ⟨_, node, rfl, hwhole rfl rfl⟩
  by_cases hobject : ∃ members, node = .object members
  · obtain ⟨members, rfl⟩ := hobject
    rw [walk_object, if_neg hdeep, List.mem_append, List.mem_flatMap] at h
    obtain hshape | ⟨operand, hoperand, hcheck⟩ := h
    · obtain hnil | ⟨cause, hone, hplace, hmarks⟩ :=
        operatorProblems_blames ((operands members).map Prod.fst)
      · rw [hnil] at hshape
        exact absurd hshape List.not_mem_nil
      · rw [hone] at hshape
        obtain rfl := List.mem_singleton.mp hshape
        exact .inl ⟨cause, _, rfl, hwhole hplace hmarks⟩
    · obtain ⟨cause, rfl, hplace, inner, part, hmarks, hpart⟩ | hbelow := mem_check_cases hcheck
      · refine .inl ⟨cause, part, rfl, hplace, ?_⟩
        rw [hmarks, storedAt?_key hoperand, hpart]
      · exact .inr ⟨members, rfl, operand, hoperand, hbelow⟩
  · rw [walk_other _ _ _ (not_exists.mp hobject), if_neg hdeep] at h
    split at h
    · exact absurd h List.not_mem_nil
    · obtain rfl := List.mem_singleton.mp h
      exact .inl ⟨_, node, rfl, hwhole rfl rfl⟩

/-- **The place of a problem is there**, down to the part of the node that is to blame. -/
theorem place_of_mem_walk {depth : Nat} {node : Json} {problem : Problem}
    (h : problem ∈ validator.walk registry depth node) :
    problem.cause.place ∈ blamable ∧
      ∃ found part, storedAt? node (problem.address.flatMap Step.marks) = some found ∧
        storedAt? found problem.cause.marks = some part := by
  induction node using storedBranchInduction generalizing depth problem with
  | other node hother =>
    obtain ⟨cause, part, rfl, hplace, hpart⟩ | ⟨members, rfl, -⟩ := mem_walk_cases h
    · exact ⟨hplace, node, part, rfl, hpart⟩
    · exact absurd rfl (hother members)
  | node members ih =>
    obtain ⟨cause, part, rfl, hplace, hpart⟩ | ⟨_, hsame, operand, hoperand, branch, hbranch, inner,
      hinner, rfl⟩ := mem_walk_cases h
    · exact ⟨hplace, _, part, rfl, hpart⟩
    · obtain rfl := Json.object.inj hsame
      obtain ⟨hplace, found, part, hfound, hpart⟩ := ih operand hoperand branch hbranch hinner
      obtain ⟨more, hstep, hmore⟩ := marks_of_mem_storedBranches hbranch
      refine ⟨hplace, found, part, ?_, hpart⟩
      rw [Problem.under, List.flatMap_cons, storedAt?_append, hstep, storedAt?_key hoperand, hmore]
      exact hfound

/-! ## Places in order -/

/-- If the problems below each branch are in order, so are those of the node. -/
theorem pairwise_check {depth : Nat} {body : Json}
    (hbelow : ∀ branch ∈ storedBranches operator body,
      ((validator.walk registry (depth + 1) branch.2).map Problem.marks).Pairwise
        (List.Lex Mark.Before)) :
    ((validator.check registry depth operator body).map Problem.marks).Pairwise
      (List.Lex Mark.Before) := by
  rw [check_eq]
  obtain hnil | ⟨hbranches, cause, hone, -⟩ := ownProblems_cases registry operator body
  · rw [hnil, List.nil_append, List.pairwise_map, List.pairwise_flatMap]
    refine ⟨fun branch hbranch => ?within, ?across⟩
    case within =>
      refine List.pairwise_map.mpr ((List.pairwise_map.mp (hbelow branch hbranch)).imp ?_)
      intro problem later hlex
      rw [marks_under, marks_under]
      exact hlex.append_left _ _
    case across =>
      refine (pairwise_storedBranches operator body).imp fun hlex problem hmem later hlater => ?_
      obtain ⟨inner, -, rfl⟩ := List.mem_map.mp hmem
      obtain ⟨other, -, rfl⟩ := List.mem_map.mp hlater
      rw [marks_under, marks_under]
      exact hlex inner.marks other.marks
  · rw [hone, hbranches, List.flatMap_nil, List.append_nil]
    exact List.pairwise_singleton _ _

/-- **Problems are listed in the order of their places.** -/
theorem pairwise_walk (depth : Nat) (node : Json) :
    ((validator.walk registry depth node).map Problem.marks).Pairwise (List.Lex Mark.Before) := by
  induction node using storedBranchInduction generalizing depth with
  | other node hother =>
    rw [walk_other _ _ _ hother]
    split
    · exact List.pairwise_singleton _ _
    · split
      · exact .nil
      · exact List.pairwise_singleton _ _
  | node members ih =>
    rw [walk_object]
    split
    · exact List.pairwise_singleton _ _
    · have hoperands : (((operands members).flatMap fun operand =>
          validator.check registry depth operand.1 operand.2).map Problem.marks).Pairwise
            (List.Lex Mark.Before) := by
        rw [List.pairwise_map, List.pairwise_flatMap]
        refine ⟨fun operand hoperand => ?within, ?across⟩
        case within =>
          exact List.pairwise_map.mp (pairwise_check fun branch hbranch => ih operand hoperand branch hbranch _)
        case across =>
          refine (pairwise_operands members).imp fun hbefore problem hmem later hlater => ?_
          obtain ⟨marks, hmarks⟩ := marks_of_mem_check hmem
          obtain ⟨more, hmore⟩ := marks_of_mem_check hlater
          rw [hmarks, hmore]
          exact .rel (.key hbefore)
      obtain hnil | ⟨cause, hone, -, hmarks⟩ :=
        operatorProblems_blames ((operands members).map Prod.fst)
      · rw [hnil, List.nil_append]
        exact hoperands
      · -- The node itself comes first, since its place is a prefix of all the others.
        rw [hone, List.singleton_append, List.map_cons, List.pairwise_cons]
        refine ⟨fun marks hmem => ?_, hoperands⟩
        obtain ⟨problem, hproblem, rfl⟩ := List.mem_map.mp hmem
        obtain ⟨operand, -, hcheck⟩ := List.mem_flatMap.mp hproblem
        obtain ⟨more, hmore⟩ := marks_of_mem_check hcheck
        rw [marks_here, hmarks, hmore]
        exact .nil

/-- No two problems have the same marks. -/
theorem pairwise_marks_ne (validator : Validator) (registry : Fact.Registry) (depth : Nat) (node : Json) :
    (validator.walk registry depth node).Pairwise fun problem later => problem.marks ≠ later.marks := by
  refine (List.pairwise_map.mp (pairwise_walk depth node)).imp fun {problem later} hlex hsame => ?_
  rw [hsame] at hlex
  exact List.lex_irrefl Mark.Before.irrefl later.marks hlex

end Problems

/-- **Every report on a stored guard points to one place, once, in order.** A report is the path of the
guard, the steps to a node in it, the part of the node that is to blame, a colon and a message. Node and
part are there in what is stored, whatever it is; no two problems blame the same part of the same
node, and no two reports are the same, whatever the names of facts put into the messages. The places
ascend, mark by mark, and a place comes before the ones that it is the start of. -/
theorem errors_point_to_places_in_order (validator : Validator) (registry : Fact.Registry)
    (path : String) (node : Json) :
    (validator.validateStored registry path (some node)).errors =
      (validator.problems registry (some node)).map (fun problem =>
        path ++ String.join (problem.address.map Step.text) ++ problem.cause.place ++ ": " ++
          problem.cause.message) ∧
    (∀ problem ∈ validator.problems registry (some node),
      problem.cause.place ∈ blamable ∧
      (∃ found part, storedAt? node (problem.address.flatMap Step.marks) = some found ∧
        storedAt? found problem.cause.marks = some part) ∧
      problem.location path = path ++ String.join (problem.marks.map Mark.text)) ∧
    ((validator.problems registry (some node)).map fun problem =>
      (problem.address, problem.cause.place)).Nodup ∧
    (validator.validateStored registry path (some node)).errors.Nodup ∧
    ((validator.problems registry (some node)).map Problem.marks).Pairwise
      (List.Lex Mark.Before) := by
  have hwalk := problems_some validator registry node
  have hne := pairwise_marks_ne validator registry 0 node
  refine ⟨rfl, fun problem hmem => ?places, ?apart, ?different, hwalk ▸ pairwise_walk 0 node⟩
  case places =>
    rw [hwalk] at hmem
    obtain ⟨hplace, hfound⟩ := place_of_mem_walk hmem
    exact ⟨hplace, hfound, location_eq problem path⟩
  case apart =>
    rw [hwalk]
    refine List.pairwise_map.mpr (hne.imp fun hmarks hsame => hmarks ?_)
    obtain ⟨haddress, hplace⟩ := Prod.mk.inj hsame
    rw [Problem.marks, Problem.marks, haddress, marks_of_place hplace]
  case different =>
    rw [Validator.validateStored, hwalk]
    exact List.pairwise_map.mpr (hne.imp fun hmarks hsame => hmarks (report_inj hsame).1)

/-- A stored guard with several operators at its root and next to nothing in order, which asks about a
fact whose name reads like a report. -/
def tangledGuard : Json :=
  .object [("all", .array [.object [("eq", .array [.string "x\"\nroot.not: ", .null]),
      ("neq", .array [.null, .null])], .null, .object []]),
    ("any", .null), ("exists", .string "x\"\nroot.not: "), ("not", .bool true)]

/-- Names that look like a path or a line of the report do not confuse it. -/
theorem errors_point_to_places_in_order_tangledGuard :
    (Validator.problems ⟨64⟩ .core (some tangledGuard)) =
      [.here (.severalOperators [.all, .any, .not, .present]),
        ⟨[.all 0], .severalOperators [.equals, .differs]⟩,
        ⟨[.all 0], .unknownFact .equals "x\"\nroot.not: "⟩,
        ⟨[.all 0], .nameNotText .differs⟩,
        ⟨[.all 2], .noOperator⟩,
        .here (.notAList .any),
        ⟨[.not], .notAnObject⟩,
        .here (.unknownFact .present "x\"\nroot.not: ")] ∧
    (Validator.validateStored ⟨64⟩ .core "root" (some tangledGuard)).errors.Nodup := by
  obtain ⟨-, -, -, hdistinct, -⟩ := errors_point_to_places_in_order ⟨64⟩ .core "root" tangledGuard
  refine ⟨?_, hdistinct⟩
  decide +kernel

end FactGuard.Guard
