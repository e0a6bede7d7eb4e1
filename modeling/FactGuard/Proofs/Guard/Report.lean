import FactGuard.Guard.Problem
import FactGuard.Proofs.Pointwise

/-!
# Proofs/Guard/Report — what a report of a problem tells

The place of a problem is spelled in marks, operators and indices, and no mark is spelled with a
colon. So a report tells its place and its message apart at the first colon behind the path of the
guard, whatever a name of a fact puts into the message (`toList_report`); the marks come apart one by
one (`marksText_inj`), and only a problem with an unknown fact has the message of one
(`message_eq_unknownFact_iff`).
-/

namespace FactGuard.Guard

/-! ## Marks -/

/-- A mark in the spelling of a place. -/
inductive Mark
  | key (operator : Operator)
  | item (index : Nat)
  deriving DecidableEq, Repr

/-- A mark in words. -/
def Mark.text : Mark → String
  | key operator => "." ++ operator.key
  | item index => s!"[{index}]"

/-- The marks of a step. -/
def Step.marks : Step → List Mark
  | all index => [.key .all, .item index]
  | any index => [.key .any, .item index]
  | not => [.key .not]

/-- The marks of the part of the node that is to blame. -/
def Cause.marks : Cause → List Mark
  | tooDeep _ => []
  | notAnObject => []
  | noOperator => []
  | severalOperators _ => []
  | notAPair operator => [.key operator]
  | nameNotText operator => [.key operator, .item 0]
  | notAName => [.key .present]
  | notAList operator => [.key operator]
  | unknownFact operator _ => [.key operator]

/-- **The place of a problem** below the path of the guard: the steps to a node, and a part of it. -/
def Problem.marks (problem : Problem) : List Mark :=
  problem.address.flatMap Step.marks ++ problem.cause.marks

@[simp]
theorem marks_here (cause : Cause) : (Problem.here cause).marks = cause.marks := rfl

@[simp]
theorem marks_under (step : Step) (problem : Problem) :
    (problem.under step).marks = step.marks ++ problem.marks := by
  rw [Problem.marks, Problem.marks, ← List.append_assoc]
  rfl

/-- Marks in words. -/
def marksText (marks : List Mark) : List Char := marks.flatMap fun mark => mark.text.toList

section Marks

variable {mark other : Mark} {marks others : List Mark} {rest more : List Char}

theorem toList_text_key (operator : Operator) :
    (Mark.key operator).text.toList = '.' :: operator.key.toList := by
  simp [Mark.text]

theorem toList_text_item (index : Nat) :
    (Mark.item index).text.toList = '[' :: (Nat.toDigits 10 index ++ [']']) := by
  simp [Mark.text, toString]

/-- A character that is no digit is in no number. -/
theorem notMem_toDigits {c : Char} (hc : c.isDigit = false) (n : Nat) : c ∉ Nat.toDigits 10 n := by
  intro hmem
  have hdigit : c.isDigit = true := Nat.isDigit_of_mem_toDigits (by decide) (by decide) hmem
  rw [hc] at hdigit
  cases hdigit

/-- No key of an operator is the beginning of another. -/
theorem Operator.key_append_inj {operator other : Operator}
    (h : operator.key.toList ++ rest = other.key.toList ++ more) : operator = other ∧ rest = more := by
  cases operator <;> cases other <;> simp_all [key]

/-- The end of a mark is found in whatever follows it. -/
theorem Mark.text_append_inj (h : mark.text.toList ++ rest = other.text.toList ++ more) :
    mark = other ∧ rest = more := by
  cases mark with
  | key operator =>
    cases other with
    | key other =>
      rw [toList_text_key, toList_text_key] at h
      obtain ⟨rfl, hrest⟩ := Operator.key_append_inj (List.cons.inj h).2
      exact ⟨rfl, hrest⟩
    | item index =>
      rw [toList_text_key, toList_text_item] at h
      cases (List.cons.inj h).1
  | item index =>
    cases other with
    | key other =>
      rw [toList_text_key, toList_text_item] at h
      cases (List.cons.inj h).1
    | item later =>
      rw [toList_text_item, toList_text_item, List.cons_append, List.cons_append,
        List.append_assoc, List.append_assoc] at h
      have hbracket (n : Nat) : ']' ∉ Nat.toDigits 10 n := notMem_toDigits rfl n
      obtain ⟨hdigits, hrest⟩ :=
        append_cons_inj_of_first (hbracket index) (hbracket later) (List.cons.inj h).2
      have hindex := congrArg (Nat.ofDigitChars 10 · 0) hdigits
      simp only [Nat.ofDigitChars_ten_toDigits] at hindex
      exact ⟨congrArg _ hindex, hrest⟩

/-- No mark has the colon in it that ends a location. -/
theorem colon_notMem_text (mark : Mark) : ':' ∉ mark.text.toList := by
  cases mark with
  | key operator =>
    rw [toList_text_key]
    cases operator <;> decide
  | item index =>
    have hdigits : ':' ∉ Nat.toDigits 10 index := notMem_toDigits rfl index
    simp [toList_text_item, hdigits]

/-- No colon stands in the spelling of a place. -/
theorem colon_notMem_marksText (marks : List Mark) : ':' ∉ marksText marks := by
  rw [marksText, List.mem_flatMap]
  rintro ⟨mark, -, hmem⟩
  exact colon_notMem_text mark hmem

/-- **The marks of a place are known from its spelling.** -/
theorem marksText_inj (h : marksText marks = marksText others) : marks = others := by
  have hempty : ∀ (mark : Mark) (marks : List Mark), marksText (mark :: marks) ≠ [] := by
    intro mark marks
    cases mark <;> simp [marksText, toList_text_key, toList_text_item]
  induction marks generalizing others with
  | nil =>
    cases others with
    | nil => rfl
    | cons other others => exact absurd h.symm (hempty other others)
  | cons mark marks ih =>
    cases others with
    | nil => exact absurd h (hempty mark marks)
    | cons other others =>
      obtain ⟨rfl, hlater⟩ := Mark.text_append_inj h
      rw [ih hlater]

end Marks

/-! ## Reports -/

section Reports

variable {problem other : Problem} {path : String}

theorem Step.text_eq (step : Step) : step.text = String.join (step.marks.map Mark.text) := by
  cases step <;> simp [text, marks, Mark.text, Operator.key, String.join, ← String.toList_inj, toString]

theorem Cause.place_eq (cause : Cause) : cause.place = String.join (cause.marks.map Mark.text) := by
  cases cause <;> simp [place, marks, Mark.text, String.join, toString, Nat.repr]

theorem toList_join_map_text (marks : List Mark) :
    (String.join (marks.map Mark.text)).toList = marksText marks := by
  rw [String.toList_join, List.flatMap_map, marksText]

/-- A location is the path with the texts of the marks after it. -/
theorem location_eq (problem : Problem) (path : String) :
    problem.location path = path ++ String.join (problem.marks.map Mark.text) := by
  have hsteps (address : List Step) : String.join (address.map Step.text) =
      String.join ((address.flatMap Step.marks).map Mark.text) := by
    rw [← String.toList_inj, toList_join_map_text, String.toList_join, List.flatMap_map, marksText,
      List.flatMap_assoc]
    refine List.flatMap_congr fun step _ => ?_
    rw [Step.text_eq, toList_join_map_text, marksText]
  rw [Problem.location, hsteps, Cause.place_eq, Problem.marks, List.map_append, String.append_assoc,
    String.join_append]

theorem toList_location (problem : Problem) (path : String) :
    (problem.location path).toList = path.toList ++ marksText problem.marks := by
  rw [location_eq, String.toList_append, toList_join_map_text]

/-- **A report is made of the path, the place, a colon and the message.** -/
theorem toList_report (problem : Problem) (path : String) :
    (problem.report path).toList =
      path.toList ++ (marksText problem.marks ++ ':' :: ' ' :: problem.cause.message.toList) := by
  simp [Problem.report, toList_location]

/-- A report tells its place and its message. -/
theorem report_inj (h : problem.report path = other.report path) :
    problem.marks = other.marks ∧ problem.cause.message = other.cause.message := by
  have hchars := congrArg String.toList h
  rw [toList_report, toList_report] at hchars
  obtain ⟨hmarks, hmessage⟩ := append_cons_inj_of_first (colon_notMem_marksText problem.marks)
    (colon_notMem_marksText other.marks) (List.append_cancel_left hchars)
  exact ⟨marksText_inj hmarks, String.toList_inj.mp (List.cons.inj hmessage).2⟩

/-- A part of a node is known from its spelling. -/
theorem marks_of_place {cause other : Cause} (h : cause.place = other.place) :
    cause.marks = other.marks := by
  rw [Cause.place_eq, Cause.place_eq, ← String.toList_inj, toList_join_map_text,
    toList_join_map_text] at h
  exact marksText_inj h

/-- The message about an unknown fact quotes its name as it stands. -/
theorem toList_message_unknownFact (operator : Operator) (fact : String) :
    (Cause.unknownFact operator fact).message.toList =
      "Fact key \"".toList ++
        (fact.toList ++ "\" no es válido (no existe en los facts disponibles)".toList) := by
  change ("Fact key \"" ++ fact ++ "\" no es válido (no existe en los facts disponibles)").toList = _
  rw [String.toList_append, String.toList_append, List.append_assoc]

theorem head?_toList_append {start rest : String} {c : Char} (h : start.toList.head? = some c) :
    (start ++ rest).toList.head? = some c := by
  rw [String.toList_append, List.head?_append, h]
  rfl

/-- Every other message starts with a small letter. -/
theorem head?_message_ne {cause : Cause} (h : ∀ operator fact, cause ≠ .unknownFact operator fact) :
    cause.message.toList.head? ≠ some 'F' := by
  have hsmall {text : String} {c : Char} (hmessage : cause.message = text)
      (hc : text.toList.head? = some c) (hne : c ≠ 'F') : cause.message.toList.head? ≠ some 'F' := by
    rw [hmessage, hc]
    exact fun hsome => hne (Option.some.inj hsome)
  cases cause with
  | tooDeep limit =>
    have hmessage : (Cause.tooDeep limit).message =
        "expression nesting exceeds maximum depth of " ++ toString limit := rfl
    exact hsmall hmessage (head?_toList_append rfl) (by decide : 'e' ≠ 'F')
  | severalOperators found =>
    have hmessage : (Cause.severalOperators found).message =
        "only one operator per expression; found: " ++
          String.intercalate ", " (found.map Operator.key) := rfl
    exact hsmall hmessage (head?_toList_append rfl) (by decide : 'o' ≠ 'F')
  | unknownFact operator fact => exact absurd rfl (h operator fact)
  | notAPair operator =>
    have hmessage : (Cause.notAPair operator).message = "must be an array of [factKey, value]" := rfl
    exact hsmall hmessage rfl (by decide : 'm' ≠ 'F')
  | nameNotText operator =>
    have hmessage : (Cause.nameNotText operator).message = "fact key must be a string" := rfl
    exact hsmall hmessage rfl (by decide : 'f' ≠ 'F')
  | notAList operator =>
    have hmessage : (Cause.notAList operator).message = "must be an array of expressions" := rfl
    exact hsmall hmessage rfl (by decide : 'm' ≠ 'F')
  | notAnObject => exact hsmall rfl rfl (by decide : 'e' ≠ 'F')
  | noOperator | notAName => exact hsmall rfl rfl (by decide : 'm' ≠ 'F')

/-- **Only a problem with an unknown fact has the message of one**, and the message tells the fact. -/
theorem message_eq_unknownFact_iff {cause : Cause} {operator : Operator} {fact : String} :
    cause.message = (Cause.unknownFact operator fact).message ↔
      ∃ found, cause = .unknownFact found fact := by
  constructor
  · intro h
    have hchars := congrArg String.toList h
    rw [toList_message_unknownFact] at hchars
    by_cases hcause : ∃ found other, cause = .unknownFact found other
    · obtain ⟨found, other, rfl⟩ := hcause
      rw [toList_message_unknownFact] at hchars
      have hfact := List.append_cancel_right (List.append_cancel_left hchars)
      exact ⟨found, by rw [String.toList_inj.mp hfact]⟩
    · have hsmall := head?_message_ne fun found other heq => hcause ⟨found, other, heq⟩
      rw [hchars] at hsmall
      exact absurd rfl hsmall
  · rintro ⟨found, rfl⟩
    rfl

end Reports

end FactGuard.Guard
