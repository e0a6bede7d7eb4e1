import FactGuard.Json.Refusal

/-!
# Json/Source — what a typed document is read from

A typed document is read either from a value or straight from the draft of a text. The two agree on
every well-formed document and differ in what they notice first: a value shows its members in sorted
order, each once; a draft shows them in document order, faults and repetitions included.
-/

namespace FactGuard.Json

/-- What a typed document is read from. -/
inductive Source
  | value (value : Json)
  | text (draft : Draft)

namespace Source

/-- Raises a fault of the text. -/
def raise : Option Fault → Except Refusal Unit
  | none => .ok ()
  | some fault => .error (.fault fault)

/-- Lists and objects beyond the nesting limit are not entered. -/
def enter (withinLimit : Bool) : Except Refusal Unit :=
  if withinLimit then .ok () else .error (.fault .tooDeep)

/-- The refusal of something that is not what was expected. A scalar is read to name it, so a fault in
its spelling comes first. -/
def unexpected (expected : String) : Source → Refusal
  | .value content => .wrongKind (kindName content) expected
  | .text (.null none) => .wrongKind "null" expected
  | .text (.bool flag none) => .wrongKind (kindName (.bool flag)) expected
  | .text (.number spelling) =>
    match spelling.read with
    | .ok n => .wrongKind (numberName n) expected
    | .error fault => .fault fault
  | .text (.string spelling) =>
    match spelling.read with
    | .ok content => .wrongKind (kindName (.string content)) expected
    | .error fault => .fault fault
  | .text (.list _ _ _) => .wrongKind "sequence" expected
  | .text (.object _ _ _) => .wrongKind "map" expected
  | .text (.null (some fault)) => .fault fault
  | .text (.bool _ (some fault)) => .fault fault
  | .text (.broken fault) => .fault fault

/-- Any value. -/
def json : Source → Except Refusal Json
  | .value content => .ok content
  | .text draft => draft.read.mapError .fault

/-- A text. -/
def string : Source → Except Refusal String
  | .value (.string content) => .ok content
  | .text (.string spelling) => spelling.read.mapError .fault
  | source => .error (source.unexpected "a string")

/-- A boolean. -/
def bool : Source → Except Refusal Bool
  | .value (.bool flag) => .ok flag
  | .text (.bool flag none) => .ok flag
  | source => .error (source.unexpected "a boolean")

/-- A natural number. -/
def nat (source : Source) : Except Refusal Nat :=
  match source with
  | .value (.number (.whole n)) => ofInt n
  | .text (.number ⟨.ok (.whole n), _⟩) => ofInt n
  | source => .error (source.unexpected "usize")
where
  ofInt (n : Int) : Except Refusal Nat :=
    if 0 ≤ n then .ok n.toNat else .error (.wrongValue (numberName (.whole n)) "usize")

/-- Nothing but null. -/
def unit : Source → Except Refusal Unit
  | .value .null => .ok ()
  | .text (.null none) => .ok ()
  | source => .error (source.unexpected "unit")

/-- Null, or what `read` takes. -/
def optional (read : Source → Except Refusal α) : Source → Except Refusal (Option α)
  | .value .null => .ok none
  | .text (.null fault) => do
    raise fault
    return none
  | source => some <$> read source

/-- A list of what `read` takes. -/
def list (read : Source → Except Refusal α) : Source → Except Refusal (List α)
  | .value (.array items) => items.mapM fun item => read (.value item)
  | .text (.list withinLimit items close) => do
    enter withinLimit
    let values ← items.mapM fun item => read (.text item)
    raise close.inList
    return values
  | source => .error (source.unexpected "a sequence")

/-- An object with any names, and what `read` takes under each. -/
def table (read : Source → Except Refusal α) : Source → Except Refusal (List (String × α))
  | .value (.object members) => members.mapM fun (name, content) => do
    return (name, ← read (.value content))
  | .text (.object withinLimit members close) => do
    enter withinLimit
    let values ← members.mapM fun (name, draft) => do
      let name ← name.read.mapError .fault
      return (name, ← read (.text draft))
    raise close.inObject
    return values
  | source => .error (source.unexpected "a map")

/-! ## Choices -/

/-- The variant of the given name. -/
def variant (variants : List (String × α)) (name : String) : Except Refusal α :=
  match variants.lookup name with
  | some chosen => .ok chosen
  | none => .error (.unknownVariant name (variants.map Prod.fst))

/-- One of several named variants: its name, or an object with the name as its only member, which
holds null. -/
def choice (variants : List (String × α)) : Source → Except Refusal α
  | .value (.string name) => variant variants name
  | .value (.object [(name, content)]) => do
    let chosen ← variant variants name
    unit (.value content)
    return chosen
  | .value (.object _) => .error (.wrongValue "map" "map with a single key")
  | .value other => .error (unexpected "string or map" (.value other))
  | .text (.string spelling) => do
    let name ← spelling.read.mapError .fault
    variant variants name
  | .text (.object withinLimit members close) => do
    enter withinLimit
    match members with
    | [] => .error (.fault (if close = .closed then .expectedValue else .endInObject))
    | (.stray, _) :: _ => .error (.fault .nameNotText)
    | (.text spelling, content) :: rest =>
      let name ← spelling.read.mapError .fault
      let chosen ← variant variants name
      unit (.text content)
      if !rest.isEmpty then throw (.fault .expectedValue)
      match close with
      | .closed => return chosen
      | .ended => throw (.fault .endInObject)
      | _ => throw (.fault .expectedValue)
  | .text (.broken fault) => .error (.fault fault)
  | .text _ => .error (.fault .expectedValue)

end Source

end FactGuard.Json
