import FactGuard.Fact.Snapshot

/-!
# Guard/Basic — guards and what they mean

A guard is a boolean tree over facts: groups, negations, and conditions on single facts. `Guard.holds`
decides it on the facts of a conversation.
-/

namespace FactGuard

/-- A guard. -/
inductive Guard
  /-- All children hold; an empty group holds. -/
  | all (children : List Guard)
  /-- One of the children holds; an empty group does not hold. -/
  | any (children : List Guard)
  | not (child : Guard)
  /-- The fact is worth the value. -/
  | equals (fact : String) (value : Fact.Value)
  /-- The fact is not worth the value. -/
  | differs (fact : String) (value : Fact.Value)
  /-- The fact is known. -/
  | present (fact : String)
  deriving BEq, Repr, Inhabited

/-- The operators of guards, in the order in which they are looked for. -/
inductive Guard.Operator
  | all
  | any
  | not
  | equals
  | differs
  | present
  deriving DecidableEq, Repr

namespace Guard

/-- The operator at the root of a guard. -/
def operator : Guard → Operator
  | all _ => .all
  | any _ => .any
  | not _ => .not
  | equals _ _ => .equals
  | differs _ _ => .differs
  | present _ => .present

/-- Induction over guards: a group has what all its children have. -/
@[elab_as_elim, induction_eliminator]
theorem induction {motive : Guard → Prop}
    (all : ∀ children, (∀ child ∈ children, motive child) → motive (.all children))
    (any : ∀ children, (∀ child ∈ children, motive child) → motive (.any children))
    (not : ∀ child, motive child → motive (.not child))
    (equals : ∀ fact value, motive (.equals fact value))
    (differs : ∀ fact value, motive (.differs fact value))
    (present : ∀ fact, motive (.present fact)) : ∀ guard : Guard, motive guard
  | .all children => all children fun child _ => induction all any not equals differs present child
  | .any children => any children fun child _ => induction all any not equals differs present child
  | .not child => not child (induction all any not equals differs present child)
  | .equals fact value => equals fact value
  | .differs fact value => differs fact value
  | .present fact => present fact
termination_by guard => sizeOf guard
decreasing_by
  · have := List.sizeOf_lt_of_mem ‹child ∈ children›
    simp only [Guard.all.sizeOf_spec]
    omega
  · have := List.sizeOf_lt_of_mem ‹child ∈ children›
    simp only [Guard.any.sizeOf_spec]
    omega
  · simp only [Guard.not.sizeOf_spec]
    omega

/-! ## Meaning -/

mutual

/-- Whether a guard holds. A missing fact is worth null. -/
def holds (snapshot : Fact.Snapshot) : Guard → Bool
  | all children => allHold snapshot children
  | any children => anyHolds snapshot children
  | not child => !holds snapshot child
  | equals fact value => snapshot.valueOf fact = value
  | differs fact value => snapshot.valueOf fact ≠ value
  | present fact => !(snapshot.valueOf fact).isNull

/-- Whether all of the guards hold. -/
def allHold (snapshot : Fact.Snapshot) : List Guard → Bool
  | [] => true
  | child :: rest => holds snapshot child && allHold snapshot rest

/-- Whether one of the guards holds. -/
def anyHolds (snapshot : Fact.Snapshot) : List Guard → Bool
  | [] => false
  | child :: rest => holds snapshot child || anyHolds snapshot rest

end

/-- The conjunction over children, as one over a list. -/
@[simp]
theorem allHold_eq (snapshot : Fact.Snapshot) (children : List Guard) :
    allHold snapshot children = children.all (holds snapshot) := by
  induction children with
  | nil => rfl
  | cons child rest ih => rw [allHold, ih, List.all_cons]

@[simp]
theorem anyHolds_eq (snapshot : Fact.Snapshot) (children : List Guard) :
    anyHolds snapshot children = children.any (holds snapshot) := by
  induction children with
  | nil => rfl
  | cons child rest ih => rw [anyHolds, ih, List.any_cons]

/-- Whether a guard that may be missing lets something through; a missing guard always does. -/
def permits (guard : Option Guard) (snapshot : Fact.Snapshot) : Bool :=
  match guard with
  | some guard => guard.holds snapshot
  | none => true

/-! ## Conditions and facts -/

mutual

/-- The number of conditions on facts. -/
def conditions : Guard → Nat
  | all children => conditionsOf children
  | any children => conditionsOf children
  | not child => conditions child
  | equals _ _ => 1
  | differs _ _ => 1
  | present _ => 1

/-- The number of conditions in several guards. -/
def conditionsOf : List Guard → Nat
  | [] => 0
  | child :: rest => conditions child + conditionsOf rest

end

mutual

/-- The facts of the conditions, from left to right. -/
def mentions : Guard → List String
  | all children => mentionsOf children
  | any children => mentionsOf children
  | not child => mentions child
  | equals fact _ => [fact]
  | differs fact _ => [fact]
  | present fact => [fact]

/-- The facts of the conditions of several guards. -/
def mentionsOf : List Guard → List String
  | [] => []
  | child :: rest => mentions child ++ mentionsOf rest

end

/-- The conditions of a group are those of its children, added up. -/
@[simp]
theorem conditionsOf_eq (children : List Guard) :
    conditionsOf children = (children.map conditions).foldr (· + ·) 0 := by
  induction children with
  | nil => rfl
  | cons child rest ih => rw [conditionsOf, ih, List.map_cons, List.foldr_cons]

@[simp]
theorem mentionsOf_eq (children : List Guard) : mentionsOf children = children.flatMap mentions := by
  induction children with
  | nil => rfl
  | cons child rest ih => rw [mentionsOf, ih, List.flatMap_cons]

/-- The facts that a guard mentions, each once, in order of first mention. -/
def facts (guard : Guard) : List String := guard.mentions.eraseDups

/-- Whether a guard is a group without children. Only the root is looked at. -/
def isEmptyGroup : Guard → Bool
  | all children => children.isEmpty
  | any children => children.isEmpty
  | _ => false

end Guard

end FactGuard
