import FactGuard.Guard.Basic

/-!
# Guard/Document — guards as documents

A guard is written as an object whose only member is named for its operator. A stored guard may also
hold null where a guard should stand: such a child is absent, so it drops out of a group, and negating
it negates the empty group.
-/

namespace FactGuard

open Json (Refusal)

namespace Guard

/-! ## Operators -/

/-- The operators, in the order in which they are looked for. -/
def Operator.list : List Operator := [.all, .any, .not, .equals, .differs, .present]

/-- The name of an operator in documents. -/
def Operator.key : Operator → String
  | all => "all"
  | any => "any"
  | not => "not"
  | equals => "eq"
  | differs => "neq"
  | present => "exists"

/-- The operator of the given name. -/
def Operator.ofKey? (name : String) : Option Operator :=
  Operator.list.find? fun operator => operator.key = name

/-- How an operator is named in a refusal. -/
def Operator.title : Operator → String
  | all => "All"
  | any => "Any"
  | not => "Not"
  | equals => "Eq"
  | differs => "Neq"
  | present => "Exists"

/-- The operators that occur among the members of an object, each with what it is applied to. -/
def operands (members : List (String × Json)) : List (Operator × Json) :=
  Operator.list.filterMap fun operator => (members.lookup operator.key).map (operator, ·)

/-- The operands of an object are the members with the key of an operator. -/
theorem mem_operands {members : List (String × Json)} {operator : Operator} {body : Json} :
    (operator, body) ∈ operands members ↔ members.lookup operator.key = some body := by
  simp only [operands, List.mem_filterMap, Option.map_eq_some_iff, Prod.mk.injEq]
  constructor
  · rintro ⟨_, _, _, hb, rfl, rfl⟩
    exact hb
  · intro h
    exact ⟨operator, by cases operator <;> simp [Operator.list], body, h, rfl, rfl⟩

/-- An operand is smaller than the members it is among, so a recursion may descend into it. -/
theorem sizeOf_lt_of_mem_operands {members : List (String × Json)} {operand : Operator × Json}
    (h : operand ∈ operands members) : sizeOf operand.2 < sizeOf members :=
  Json.sizeOf_lt_of_lookup (mem_operands.mp h)

/-! ## Writing -/

mutual

/-- A guard as a document. -/
def toJson : Guard → Json
  | all children => .object [("all", .array (toJsonAll children))]
  | any children => .object [("any", .array (toJsonAll children))]
  | not child => .object [("not", toJson child)]
  | equals fact value => .object [("eq", .array [.string fact, value.toJson])]
  | differs fact value => .object [("neq", .array [.string fact, value.toJson])]
  | present fact => .object [("exists", .string fact)]

/-- Several guards as documents. -/
def toJsonAll : List Guard → List Json
  | [] => []
  | child :: rest => toJson child :: toJsonAll rest

end

@[simp]
theorem toJsonAll_eq (children : List Guard) : toJsonAll children = children.map toJson := by
  induction children with
  | nil => rfl
  | cons child rest ih => rw [toJsonAll, ih, List.map_cons]

/-! ## Writing by declaration

A guard can also be written as its declaration says: a variant is named in snake case, one field of it
stands by itself, and several make a list. -/

/-- A name in snake case: small letters, with an underscore before each later capital. -/
def snakeCase (name : String) : String :=
  String.ofList <| name.toList.zipIdx.flatMap fun (c, index) =>
    if 0 < index && c.isUpper then ['_', c.toLower] else [c.toLower]

/-- A variant with its fields, as a document. -/
def variantJson (operator : Operator) (fields : List Json) : Json :=
  let body := match fields with
    | [field] => field
    | fields => .array fields
  .object [(snakeCase operator.title, body)]

mutual

/-- A guard as a document, by its declaration. -/
def derivedJson : Guard → Json
  | all children => variantJson .all [.array (derivedJsonAll children)]
  | any children => variantJson .any [.array (derivedJsonAll children)]
  | not child => variantJson .not [derivedJson child]
  | equals fact value => variantJson .equals [.string fact, value.toJson]
  | differs fact value => variantJson .differs [.string fact, value.toJson]
  | present fact => variantJson .present [.string fact]

/-- Several guards as documents, by their declaration. -/
def derivedJsonAll : List Guard → List Json
  | [] => []
  | child :: rest => derivedJson child :: derivedJsonAll rest

end

@[simp]
theorem derivedJsonAll_eq (children : List Guard) :
    derivedJsonAll children = children.map derivedJson := by
  induction children with
  | nil => rfl
  | cons child rest ih => rw [derivedJsonAll, ih, List.map_cons]

/-! ## Reading -/

/-- The fact and the value that a comparison is applied to. -/
def readPair (operator : Operator) : Json → Except Refusal (String × Fact.Value)
  | .array [] => .error (.wrongKind "null" (variantName operator))
  | .array (fact :: rest) => do
    let fact ← Json.Source.string (.value fact)
    match rest with
    | [] => throw (.wrongLength 1 (variantName operator ++ " with 2 elements"))
    | value :: more => do
      let value ← Fact.Value.read (.value value)
      if !more.isEmpty then throw (.wrongLength (more.length + 2) "fewer elements in array")
      return (fact, value)
  | other => .error (.wrongKind (Json.kindName other) "tuple variant")
where
  variantName (operator : Operator) : String :=
    s!"tuple variant GuardExpression::{operator.title}"

/-- What an operator is applied to, in words. -/
def Operator.payload : Operator → String
  | equals => "tuple variant"
  | differs => "tuple variant"
  | _ => "newtype variant"

/-- The operator of the given name, or the refusal of the name. -/
def Operator.read (name : String) : Except Refusal Operator :=
  match ofKey? name with
  | some operator => .ok operator
  | none => .error (.unknownVariant name (list.map key))

mutual

/-- Reads a guard. Nothing may be absent, and nothing may stand beside the operator. -/
def read : Json → Except Refusal Guard
  | .object [(name, body)] => do
    match ← Operator.read name with
    | .all => all <$> readGroup body
    | .any => any <$> readGroup body
    | .not => not <$> read body
    | .equals => do
      let (fact, value) ← readPair .equals body
      return .equals fact value
    | .differs => do
      let (fact, value) ← readPair .differs body
      return .differs fact value
    | .present => present <$> Json.Source.string (.value body)
  | .object _ => .error (.wrongValue "map" "map with a single key")
  | .string name => do
    let operator ← Operator.read name
    throw (.wrongKind "unit variant" operator.payload)
  | other => .error (.wrongKind (Json.kindName other) "string or map")

/-- Reads the children of a group. -/
def readGroup : Json → Except Refusal (List Guard)
  | .array children => readAll children
  | other => .error (.wrongKind (Json.kindName other) "a sequence")

/-- Reads guards one after the other. -/
def readAll : List Json → Except Refusal (List Guard)
  | [] => .ok []
  | child :: rest => do return (← read child) :: (← readAll rest)

end

/-! ## Absent children -/

mutual

/-- A stored guard without absent children: null drops out of groups, and the negation of null becomes
the negation of the empty group. -/
def withoutAbsent : Json → Json
  | .object members => .object (withoutAbsentMembers members)
  | other => other

/-- The members of a stored guard without absent children. -/
def withoutAbsentMembers : List (String × Json) → List (String × Json)
  | [] => []
  | (name, body) :: rest =>
    let body := match name, body with
      | "all", .array children => .array (withoutAbsentChildren children)
      | "any", .array children => .array (withoutAbsentChildren children)
      | "not", .null => .object [("all", .array [])]
      | "not", child => withoutAbsent child
      | _, body => body
    (name, body) :: withoutAbsentMembers rest

/-- The children of a group that are not absent, without absent children of their own. -/
def withoutAbsentChildren : List Json → List Json
  | [] => []
  | child :: rest =>
    if child.isNull then withoutAbsentChildren rest
    else withoutAbsent child :: withoutAbsentChildren rest

end

/-- Why a stored guard cannot be used. -/
structure Malformed where
  reason : String

/-- The wording of a malformed guard. -/
def Malformed.message (malformed : Malformed) : String :=
  "guard expression is malformed: " ++ malformed.reason

/-- Reads a stored guard, in which children may be absent. -/
def ofStored (stored : Json) : Except Malformed Guard :=
  (read (withoutAbsent stored)).mapError fun refusal => ⟨refusal.message⟩

/-- Reads a stored guard that may itself be absent. -/
def ofStored? : Option Json → Except Malformed (Option Guard)
  | none => .ok none
  | some .null => .ok none
  | some stored => some <$> ofStored stored

end Guard

end FactGuard
