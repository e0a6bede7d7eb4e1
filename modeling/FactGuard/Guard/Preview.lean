import FactGuard.Fact.Registry
import FactGuard.Guard.Document

/-!
# Guard/Preview — guards in Spanish

The preview is shown next to a priority while its guard is edited, so it makes something of every stored
value: a node it cannot read is an unknown condition. Facts go by their labels. The groups inside a guard
stand in parentheses; the group at its root has a line for each child.
-/

namespace FactGuard.Guard

/-- The preview of an absent guard. -/
def unrestrictedText : String := "Sin restricciones (siempre elegible)"

/-- The preview of a node that cannot be read. -/
def unknownText : String := "Condición desconocida"

/-! ## Values -/

/-- A number as people read it: whole doubles lose their fraction, and no exponent is used. -/
def plainNumber : Number → String
  | .whole value => toString value
  | .real value => (Decimal.Layout.plain.write? value).getD "null"

mutual

/-- A value inside a list, bare. -/
def bareText : Json → String
  | .null => "null"
  | .bool true => "true"
  | .bool false => "false"
  | .number value => plainNumber value
  | .string text => text
  | .array items => String.intercalate "," (itemTexts items)
  | .object _ => "[object Object]"

/-- The items of a list; a null item leaves its place empty. -/
def itemTexts : List Json → List String
  | [] => []
  | item :: rest => (if item.isNull then "" else bareText item) :: itemTexts rest

end

/-- The value that a fact is compared with. -/
def valueText : Json → String
  | .null => "nulo"
  | .bool true => "verdadero"
  | .bool false => "falso"
  | .string text => s!"\"{text}\""
  | other => bareText other

/-! ## Guards -/

/-- The operator that a preview goes by: the first one that is applied to something. -/
def leading? (members : List (String × Json)) : Option (Operator × Json) :=
  (operands members).find? fun operand => !operand.2.isNull

theorem sizeOf_lt_of_leading? {members : List (String × Json)} {operator : Operator} {body : Json}
    (h : leading? members = some (operator, body)) : sizeOf body < sizeOf members :=
  sizeOf_lt_of_mem_operands (List.mem_of_find?_eq_some h)

/-- A comparison in words. -/
def comparisonText (label : String → String) (verb : String) : Json → String
  | .array [.string fact, value] => label fact ++ " " ++ verb ++ " " ++ valueText value
  | _ => unknownText

/-- The children of a group, joined at the given level. -/
def joined (level : Nat) (connector : String) (parts : List String) : String :=
  if level = 0 then String.intercalate ("\n✓ " ++ connector ++ " ") parts
  else "(" ++ String.intercalate (" " ++ connector ++ " ") parts ++ ")"

mutual

/-- A node in words; `level` is 0 at the root. -/
def nodeText (label : String → String) (level : Nat) (node : Json) : String :=
  match node with
  | .object members =>
    match h : leading? members with
    | some (.all, .array children) => joined level "Y" (childTexts label (level + 1) children)
    | some (.any, .array children) => joined level "O" (childTexts label (level + 1) children)
    | some (.not, child) => "NO " ++ nodeText label (level + 1) child
    | some (.equals, body) => comparisonText label "sea" body
    | some (.differs, body) => comparisonText label "NO sea" body
    | some (.present, .string fact) => label fact ++ " exista"
    | _ => unknownText
  | _ => unknownText
termination_by sizeOf node
decreasing_by
  all_goals
    have := sizeOf_lt_of_leading? h
    simp_all only [Json.object.sizeOf_spec, Json.array.sizeOf_spec]
    omega

/-- The children of a group in words. -/
def childTexts (label : String → String) (level : Nat) (children : List Json) : List String :=
  match children with
  | [] => []
  | child :: rest => nodeText label level child :: childTexts label level rest
termination_by sizeOf children

end

/-- The preview of a stored guard. -/
def previewStored (registry : Fact.Registry) : Option Json → String
  | none => unrestrictedText
  | some .null => unrestrictedText
  | some node => nodeText registry.label 0 node

/-- The preview of a guard. -/
def preview (registry : Fact.Registry) (guard : Option Guard) : String :=
  previewStored registry (guard.map toJson)

end FactGuard.Guard
