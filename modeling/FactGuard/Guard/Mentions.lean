import FactGuard.Guard.Document

/-!
# Guard/Mentions — the facts that a stored guard mentions

Facts are found in anything stored as a guard, also where it could not be read as one, so that deleting a
fact can warn about every guard that mentions it.
-/

namespace FactGuard.Guard

/-- The fact that a comparison is applied to. -/
def pairMention : Json → List String
  | .array (.string fact :: _) => [fact]
  | _ => []

/-- The fact whose presence is asked for. -/
def nameMention : Json → List String
  | .string fact => [fact]
  | _ => []

mutual

/-- The facts that a node mentions, operator by operator. -/
def storedMentions (node : Json) : List String :=
  match node with
  | .object members =>
    (operands members).attach.flatMap fun operand => operandMentions operand.1.1 operand.1.2
  | _ => []
termination_by sizeOf node
decreasing_by
  have := sizeOf_lt_of_mem_operands operand.2
  simp only [Json.object.sizeOf_spec]
  omega

/-- The facts in what an operator is applied to. -/
def operandMentions (operator : Operator) (body : Json) : List String :=
  match operator, body with
  | .all, .array children => childMentions children
  | .any, .array children => childMentions children
  | .all, _ => []
  | .any, _ => []
  | .not, child => storedMentions child
  | .equals, body => pairMention body
  | .differs, body => pairMention body
  | .present, body => nameMention body
termination_by sizeOf body + 1

/-- The facts that the children of a group mention. -/
def childMentions (children : List Json) : List String :=
  match children with
  | [] => []
  | child :: rest => storedMentions child ++ childMentions rest
termination_by sizeOf children

end

/-- The facts that a stored guard mentions, each once, in order of first mention. -/
def factsOfStored (guard : Option Json) : List String :=
  ((guard.map storedMentions).getD []).eraseDups

end FactGuard.Guard
