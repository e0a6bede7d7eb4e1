import FactGuard.Proofs.Fact.Merge
import FactGuard.Proofs.Guard.Footprint
import FactGuard.Proofs.Guard.Report

/-!
# Proofs/Guard/Registration — validating against a larger registry

A registry that knows more facts leaves fewer problems: those that say one of the new facts to be
unknown are gone, and all others stay where they were (`walk_of_contains_eq_or`). They are told from
the others by their reports alone (`saysUnknown_report`), since a report gives its message away.
-/

namespace FactGuard.Guard

/-- The fact that a problem says to be unknown. -/
def Problem.unknown? (problem : Problem) : Option String :=
  match problem.cause with
  | .unknownFact _ fact => some fact
  | _ => none

/-- Whether a problem says one of the given facts to be unknown. -/
def Problem.misses (facts : String → Bool) (problem : Problem) : Bool := problem.unknown?.any facts

/-- Whether a report on the guard at `path` says the fact to be unknown: its message, which starts at
the first colon behind the path, is that of an unknown fact. -/
def saysUnknown (path fact report : String) : Bool :=
  (report.toList.drop path.length).dropWhile (· ≠ ':') =
    (": Fact key \"" ++ fact ++ "\" no es válido (no existe en los facts disponibles)").toList

/-! ## Problems -/

section Problems

variable {registry other : Fact.Registry} {more : String → Bool}

/-- A registry that knows more facts no longer misses these, and misses the others as before. -/
theorem unknownFact_of_contains_eq_or
    (h : ∀ fact, other.contains fact = (more fact || registry.contains fact))
    (operator : Operator) (fact : String) :
    unknownFact other operator fact =
      (unknownFact registry operator fact).filter fun problem => !problem.misses more := by
  rw [unknownFact, unknownFact, h]
  cases hknown : registry.contains fact with
  | true => simp
  | false => cases hmore : more fact <;> simp [Problem.misses, Problem.unknown?, Problem.here, hmore]

/-- Of the problems of a node itself, only those with facts that are now known go. -/
theorem ownProblems_of_contains_eq_or
    (h : ∀ fact, other.contains fact = (more fact || registry.contains fact))
    (operator : Operator) (body : Json) :
    ownProblems other operator body =
      (ownProblems registry operator body).filter fun problem => !problem.misses more := by
  have hpair (operator : Operator) : pairProblems other operator body =
      (pairProblems registry operator body).filter fun problem => !problem.misses more := by
    fun_cases pairProblems registry operator body with
    | case1 fact => exact unknownFact_of_contains_eq_or h operator fact
    | case2 name value hname =>
      rw [pairProblems]
      · rfl
      · exact hname
    | case3 body hpair hname =>
      rw [pairProblems]
      · rfl
      · exact hpair
      · exact hname
  have hname : nameProblems other body =
      (nameProblems registry body).filter fun problem => !problem.misses more := by
    obtain ⟨fact, rfl⟩ | hproblem := nameProblems_cases body
    · exact unknownFact_of_contains_eq_or h .present fact
    · rw [hproblem, hproblem]
      rfl
  fun_cases ownProblems registry operator body with
  | case1 | case2 | case5 => rfl
  | case3 body hbody | case4 body hbody =>
    rw [ownProblems]
    · rfl
    · exact hbody
  | case6 => exact hpair .equals
  | case7 => exact hpair .differs
  | case8 => exact hname

/-- **A larger registry leaves the problems that do not miss what it adds**, in their order. -/
theorem walk_of_contains_eq_or {validator : Validator}
    (h : ∀ fact, other.contains fact = (more fact || registry.contains fact))
    (depth : Nat) (node : Json) :
    validator.walk other depth node =
      (validator.walk registry depth node).filter fun problem => !problem.misses more := by
  induction node using storedBranchInduction generalizing depth with
  | other node hother =>
    rw [walk_other _ _ _ hother, walk_other _ _ _ hother]
    split
    · rfl
    · split <;> rfl
  | node members ih =>
    rw [walk_object, walk_object]
    split
    · rfl
    · have hshape (found : List Operator) : operatorProblems found =
          (operatorProblems found).filter fun problem => !problem.misses more := by
        obtain h | h | h := operatorProblems_cases found
        all_goals
          rw [h]
          rfl
      rw [List.filter_append, ← hshape, List.filter_flatMap]
      congr 1
      refine List.flatMap_congr fun operand hoperand => ?_
      rw [check_eq, check_eq, List.filter_append, ← ownProblems_of_contains_eq_or h,
        List.filter_flatMap]
      congr 1
      refine List.flatMap_congr fun branch hbranch => ?_
      rw [List.filter_map, ih operand hoperand branch hbranch]
      rfl

end Problems

/-! ## Reports -/

section Reports

variable {validator : Validator} {registry other : Fact.Registry}

/-- A problem is about an unknown fact if that is its cause. -/
theorem unknown?_eq_some_iff {problem : Problem} {fact : String} :
    problem.unknown? = some fact ↔ ∃ operator, problem.cause = .unknownFact operator fact := by
  rw [Problem.unknown?]
  split
  · next operator found hcause =>
    rw [hcause, Option.some.injEq]
    constructor
    · rintro rfl
      exact ⟨operator, rfl⟩
    · rintro ⟨_, hsame⟩
      exact (Cause.unknownFact.inj hsame).2
  · next hother => exact iff_of_false nofun fun ⟨operator, hcause⟩ => hother operator fact hcause

theorem misses_beq (problem : Problem) (fact : String) :
    problem.misses (fact == ·) = decide (problem.unknown? = some fact) := by
  rw [Problem.misses]
  cases problem.unknown? with
  | none => rfl
  | some found =>
    rw [Option.any_some, Bool.eq_iff_iff, beq_iff_eq, decide_eq_true_iff, Option.some.injEq, eq_comm]

/-- **The report of a problem says which fact is unknown**, if one is. -/
theorem saysUnknown_report (path fact : String) (problem : Problem) :
    saysUnknown path fact (problem.report path) = decide (problem.unknown? = some fact) := by
  have hplace : ∀ c ∈ marksText problem.marks, (decide (c ≠ ':')) = true := by
    intro c hc
    rw [decide_eq_true_iff]
    rintro rfl
    exact colon_notMem_marksText problem.marks hc
  have hmessage : ((problem.report path).toList.drop path.length).dropWhile (· ≠ ':') =
      ':' :: ' ' :: problem.cause.message.toList := by
    rw [toList_report, ← String.length_toList, List.drop_left, List.dropWhile_append_of_pos hplace]
    rfl
  have htext : (": Fact key \"" ++ fact ++
      "\" no es válido (no existe en los facts disponibles)").toList =
        ':' :: ' ' :: (Cause.unknownFact .present fact).message.toList := by
    rw [toList_message_unknownFact, String.toList_append, String.toList_append, List.append_assoc]
    rfl
  have hsame : problem.cause.message = (Cause.unknownFact .present fact).message ↔
      problem.unknown? = some fact := message_eq_unknownFact_iff.trans unknown?_eq_some_iff.symm
  rw [saysUnknown, hmessage, htext, decide_eq_decide, ← hsame]
  simp only [List.cons.injEq, true_and, String.toList_inj]

example : saysUnknown "a: b" "vip"
    "a: b.not.eq: Fact key \"vip\" no es válido (no existe en los facts disponibles)" = true := by
  decide +kernel

/-- Entering a fact removes the problems that say it to be unknown. -/
theorem problems_insert (validator : Validator) (registry : Fact.Registry) (fact : String)
    (info : Fact.Meta) (guard : Option Json) :
    validator.problems (registry.insert fact info) guard =
      (validator.problems registry guard).filter fun problem => problem.unknown? ≠ some fact := by
  cases guard with
  | none => rfl
  | some node =>
    rw [problems_some, problems_some,
      walk_of_contains_eq_or fun other => Fact.Registry.contains_insert registry fact other info]
    refine List.filter_congr fun problem _ => ?_
    rw [misses_beq, decide_not]

/-- What is valid stays valid when the registry grows. -/
theorem problems_eq_nil_of_contains (known : ∀ fact, registry.contains fact = true → other.contains fact = true)
    {guard : Option Json} (h : validator.problems registry guard = []) :
    validator.problems other guard = [] := by
  have hcontains (fact : String) :
      other.contains fact = (other.contains fact || registry.contains fact) := by
    cases hold : registry.contains fact with
    | true => rw [known fact hold, Bool.or_true]
    | false => rw [Bool.or_false]
  cases guard with
  | none => rfl
  | some node =>
    rw [problems_some] at h ⊢
    rw [walk_of_contains_eq_or hcontains, h, List.filter_nil]

end Reports

/-- **Validation is monotone in the registry.** Whatever is stored as a guard, entering a fact removes
the reports that say this fact to be unknown, which are told from all others by their text, and keeps
the rest in order; so nothing changes where the fact had an entry before. A guard that is valid against
the core facts stays valid when definitions are entered, and when more of them are. -/
theorem registering_clears_reports (validator : Validator) (registry : Fact.Registry) (path fact : String)
    (info : Fact.Meta) (guard : Option Json) :
    validator.problems (registry.insert fact info) guard =
      (validator.problems registry guard).filter (fun problem => problem.unknown? ≠ some fact) ∧
    (validator.validateStored (registry.insert fact info) path guard).errors =
      (validator.validateStored registry path guard).errors.filter
        (fun report => !saysUnknown path fact report) ∧
    (registry.contains fact = true →
      validator.validateStored (registry.insert fact info) path guard =
        validator.validateStored registry path guard) ∧
    (∀ definitions,
      (validator.validateStored .core path guard).valid = true →
        (validator.validateStored (.ofDefinitions definitions) path guard).valid = true) ∧
    ∀ definitions more,
      (validator.validateStored (.ofDefinitions definitions) path guard).valid = true →
        (validator.validateStored (.ofDefinitions (definitions ++ more)) path guard).valid = true := by
  have hgrow (earlier : Fact.Registry) (more : List Fact.Definition)
      (hvalid : (validator.validateStored earlier path guard).valid = true) :
      (validator.validateStored (more.foldl Fact.Registry.define earlier) path guard).valid = true := by
    rw [Validator.valid_validateStored, List.isEmpty_iff] at hvalid ⊢
    exact problems_eq_nil_of_contains (fun _ => Fact.Registry.contains_foldl_define) hvalid
  have hproblems := problems_insert validator registry fact info guard
  have herrors (registry : Fact.Registry) : (validator.validateStored registry path guard).errors =
      (validator.problems registry guard).map (Problem.report path) := rfl
  refine ⟨hproblems, ?removed, fun hknown => ?unchanged, hgrow .core, fun definitions more hvalid => ?_⟩
  case removed =>
    rw [herrors, herrors, hproblems, List.filter_map]
    congr 1
    refine List.filter_congr fun problem _ => ?_
    rw [Function.comp_apply, saysUnknown_report, decide_not]
  case unchanged =>
    have hsame : (registry.insert fact info).contains = registry.contains := by
      funext other
      rw [Fact.Registry.contains_insert]
      by_cases heq : fact = other
      · rw [← heq, hknown, Bool.or_true]
      · rw [beq_eq_false_iff_ne.mpr heq, Bool.false_or]
    have hunchanged : validator.problems (registry.insert fact info) guard =
        validator.problems registry guard := problems_congr fun other _ => congrFun hsame other
    rw [Validator.validateStored, hunchanged]
    rfl
  · rw [Fact.Registry.ofDefinitions, List.foldl_append]
    exact hgrow (.ofDefinitions definitions) more hvalid

/-- A stored guard that asks about two facts which are no core facts, and has a malformed condition. -/
def vipLeadGuard : Json :=
  .object [("all", .array [.object [("eq", .array [.string "vip", .bool true])],
    .object [("neq", .array [])], .object [("exists", .string "lead")]])]

/-- Registering the one fact clears its report, and leaves the malformed pair and the other fact. -/
theorem registering_clears_reports_vipLeadGuard :
    Validator.problems ⟨64⟩ .core (some vipLeadGuard) =
      [⟨[.all 0], .unknownFact .equals "vip"⟩, ⟨[.all 1], .notAPair .differs⟩,
        ⟨[.all 2], .unknownFact .present "lead"⟩] ∧
    Validator.problems ⟨64⟩ (.insert .core "vip" (.boolean "El cliente es VIP" "")) (some vipLeadGuard) =
      [⟨[.all 1], .notAPair .differs⟩, ⟨[.all 2], .unknownFact .present "lead"⟩] := by
  have hbefore : Validator.problems ⟨64⟩ .core (some vipLeadGuard) =
      [⟨[.all 0], .unknownFact .equals "vip"⟩, ⟨[.all 1], .notAPair .differs⟩,
        ⟨[.all 2], .unknownFact .present "lead"⟩] := by decide +kernel
  obtain ⟨hafter, -⟩ := registering_clears_reports ⟨64⟩ .core "root" "vip"
    (.boolean "El cliente es VIP" "") (some vipLeadGuard)
  refine ⟨hbefore, hafter.trans ?_⟩
  rw [hbefore]
  decide

end FactGuard.Guard
