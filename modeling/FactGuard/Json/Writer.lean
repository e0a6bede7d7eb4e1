import FactGuard.Json.Basic

/-!
# Json/Writer — members that are written only when there is something to write
-/

namespace FactGuard.Json

/-- A member, if it has a value. -/
def memberOf (name : String) : Option Json → List (String × Json)
  | some value => [(name, value)]
  | none => []

/-- A list member, unless the list is empty. -/
def membersOf (name : String) : List Json → List (String × Json)
  | [] => []
  | items => [(name, .array items)]

/-- A text, or null. -/
def ofText? : Option String → Json
  | some text => .string text
  | none => .null

end FactGuard.Json
