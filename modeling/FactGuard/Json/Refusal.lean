import FactGuard.Json.Draft
import FactGuard.Json.Printer
import FactGuard.Text.Visible

/-!
# Json/Refusal — why a document does not have the wanted shape
-/

namespace FactGuard.Json

/-- Why a document is refused. -/
inductive Refusal
  /-- The text is no document. -/
  | fault (fault : Fault)
  /-- Something of another kind stands where `expected` should. -/
  | wrongKind (found : String) (expected : String)
  /-- Something of the right kind, but not one that is wanted. -/
  | wrongValue (found : String) (expected : String)
  /-- A list has the wrong number of items. -/
  | wrongLength (length : Nat) (expected : String)
  | missingField (name : String)
  | repeatedField (name : String)
  | unknownField (name : String) (known : List String)
  | unknownVariant (name : String) (known : List String)
  /-- A value that no fact can take. -/
  | unsupportedValue (value : Json)

namespace Refusal

/-- Names in backticks: one, two with "or", or a list of them. -/
def alternatives : List String → String
  | [] => ""
  | [name] => s!"`{name}`"
  | [first, second] => s!"`{first}` or `{second}`"
  | names => "one of " ++ String.intercalate ", " (names.map fun name => s!"`{name}`")

/-- The wording of a refusal. -/
def message : Refusal → String
  | .fault problem => problem.message
  | .wrongKind found expected => s!"invalid type: {found}, expected {expected}"
  | .wrongValue found expected => s!"invalid value: {found}, expected {expected}"
  | .wrongLength length expected => s!"invalid length {length}, expected {expected}"
  | .missingField name => s!"missing field `{name}`"
  | .repeatedField name => s!"duplicate field `{name}`"
  | .unknownField name known => s!"unknown field `{name}`, expected " ++ alternatives known
  | .unknownVariant name known => s!"unknown variant `{name}`, expected " ++ alternatives known
  | .unsupportedValue value =>
    "unsupported fact value `" ++ value.text ++ "` (expected a string, a boolean, or null)"

end Refusal

/-- How a number is named in a refusal. -/
def numberName : Number → String
  | .whole value => s!"integer `{value}`"
  | .real value => "floating point `" ++ numberText (.real value) ++ "`"

/-- How a value is named in a refusal. -/
def kindName : Json → String
  | .null => "null"
  | .bool true => "boolean `true`"
  | .bool false => "boolean `false`"
  | .number value => numberName value
  | .string value => "string " ++ Text.visible value
  | .array _ => "sequence"
  | .object _ => "map"

end FactGuard.Json
