import FactGuard.Json.Source

/-!
# Json/Record — typed documents with named fields

A record is written as an object, whose unknown members are passed over, or as the list of its fields
in order, where fields at the end may be left out if they have a default. Reading fills the slots of
`σ` one field at a time.
-/

namespace FactGuard.Json

/-- A field of a record: how its slot is filled. -/
structure Field (σ : Type) where
  name : String
  /-- Whether the field has a value of its own when the list of fields is too short. -/
  hasDefault : Bool
  isFilled : σ → Bool
  fill : Source → σ → Except Refusal σ

/-- The fields of a record. A `closed` record has no other members. -/
structure Record (σ : Type) where
  name : String
  fields : List (Field σ)
  closed : Bool

namespace Record

/-- The length a list of the fields should have, in words. -/
def lengthName (record : Record σ) : String :=
  let count := record.fields.length
  let noun := if count = 1 then "element" else "elements"
  s!"struct {record.name} with {count} {noun}"

/-- The field of the given name. -/
def field? (record : Record σ) (name : String) : Option (Field σ) :=
  record.fields.find? fun field => field.name = name

/-- Takes one member: a known field once, anything else only if it can be passed over. -/
def takeMember (record : Record σ) (name : String) (source : Source) (slots : σ) :
    Except Refusal σ :=
  match record.field? name with
  | some field =>
    if field.isFilled slots then .error (.repeatedField name) else field.fill source slots
  | none =>
    if record.closed then .error (.unknownField name (record.fields.map Field.name))
    else match source with
      | .value _ => .ok slots
      | .text draft => do
        draft.skip.mapError .fault
        return slots

/-- Takes the fields in order from the items of a value. -/
def takeItems (record : Record σ) : List (Field σ) → List Json → σ → Except Refusal σ
  | [], _, slots => .ok slots
  | field :: fields, item :: items, slots => do
    takeItems record fields items (← field.fill (.value item) slots)
  | field :: fields, [], slots =>
    if field.hasDefault then takeItems record fields [] slots
    else .error (.wrongLength (record.fields.length - (fields.length + 1)) record.lengthName)

/-- Takes the fields in order from the items of a draft, and then the bracket. -/
def takeDrafts (record : Record σ) (close : Close) :
    List (Field σ) → List Draft → σ → Except Refusal σ
  | [], [], slots =>
    match close with
    | .unseparated => .error (.fault .trailingText)
    | close => do
      Source.raise close.inList
      return slots
  | [], _ :: _, _ => .error (.fault .trailingText)
  | field :: fields, item :: items, slots => do
    takeDrafts record close fields items (← field.fill (.text item) slots)
  | field :: fields, [], slots => do
    Source.raise close.inList
    if field.hasDefault then takeDrafts record close fields [] slots
    else throw (.wrongLength (record.fields.length - (fields.length + 1)) record.lengthName)

/-- Fills the slots from a source. -/
def read (record : Record σ) (slots : σ) : Source → Except Refusal σ
  | .value (.object members) =>
    members.foldlM (fun slots (name, value) => record.takeMember name (.value value) slots) slots
  | .value (.array items) => do
    let filled ← record.takeItems record.fields items slots
    if record.fields.length < items.length then
      throw (.wrongLength items.length "fewer elements in array")
    return filled
  | .text (.object withinLimit members close) => do
    Source.enter withinLimit
    let filled ← members.foldlM (fun slots (name, draft) => do
      let name ← name.read.mapError .fault
      record.takeMember name (.text draft) slots) slots
    Source.raise close.inObject
    return filled
  | .text (.list withinLimit items close) => do
    Source.enter withinLimit
    record.takeDrafts close record.fields items slots
  | source => .error (source.unexpected ("struct " ++ record.name))

/-- The content of a slot that must be filled. -/
def require (name : String) : Option α → Except Refusal α
  | some value => .ok value
  | none => .error (.missingField name)

end Record

end FactGuard.Json
