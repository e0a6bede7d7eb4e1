import FactGuard.Json.Source

/-!
# Fact/Value — what a fact can be worth

A fact is worth a text or a boolean, or null while nobody knows it yet.
-/

namespace FactGuard.Fact

open Json (Refusal Source)

/-- The value of a fact. -/
inductive Value
  | null
  | bool (flag : Bool)
  | text (content : String)
  deriving DecidableEq, Repr, Inhabited

namespace Value

/-- Whether a value is still unknown. -/
def isNull : Value → Bool
  | null => true
  | _ => false

/-- A fact value as a document. -/
def toJson : Value → Json
  | null => .null
  | .bool flag => .bool flag
  | .text content => .string content

/-- The fact value that a document holds; numbers, lists and objects are none. -/
def ofJson? : Json → Option Value
  | .null => some null
  | .bool flag => some (.bool flag)
  | .string content => some (.text content)
  | _ => none

/-- Reads a fact value. -/
def read (source : Source) : Except Refusal Value := do
  let json ← source.json
  match ofJson? json with
  | some value => return value
  | none => throw (.unsupportedValue json)

/-- A fact value in the text of a document. -/
def rendered (value : Value) : String := value.toJson.text

/-- **A value is read as it was written.** -/
@[simp]
theorem ofJson?_toJson (value : Value) : ofJson? value.toJson = some value := by
  cases value <;> rfl

theorem toJson_of_ofJson? {json : Json} {value : Value} (h : ofJson? json = some value) :
    value.toJson = json := by
  cases json <;> simp [ofJson?] at h <;> subst h <;> rfl

end Value

end FactGuard.Fact
