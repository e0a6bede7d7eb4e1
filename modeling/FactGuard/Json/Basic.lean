import FactGuard.Decimal.Literal
import FactGuard.Sorted

/-!
# Json/Basic — document values

A document value is null, a boolean, a number, a text, a list, or an object with named members.
Objects built from documents are *canonical*: their members are sorted by name, and a name that was
written twice keeps its last value, so two equal documents are the same value.
-/

namespace FactGuard

/-- A document value. -/
inductive Json
  | null
  | bool (value : Bool)
  | number (value : Number)
  | string (value : String)
  | array (items : List Json)
  | object (members : List (String × Json))
  deriving BEq, Inhabited

namespace Json

/-- Whether a value is null. -/
def isNull : Json → Bool
  | null => true
  | _ => false

theorem isNull_iff {json : Json} : json.isNull = true ↔ json = .null := by
  cases json <;> simp [isNull]

/-- A natural number as a document value. -/
def nat (n : Nat) : Json := .number (.whole n)

/-- A list of texts as a document value. -/
def strings (texts : List String) : Json := .array (texts.map .string)

/-! ## Members -/

/-- The canonical object with the given members, the last one of a name winning. -/
def ofMembers (members : List (String × Json)) : Json := .object (Sorted.ofList members)

/-- The member of an object with the given name. -/
def member? (name : String) : Json → Option Json
  | .object members => members.lookup name
  | _ => none

/-! ## Induction

Recursion on a value goes through its list items and members, which are smaller than the value. -/

/-- Induction over values: a list has what all its items have, and an object what all its members have. -/
@[elab_as_elim]
theorem induction {motive : Json → Prop} (null : motive .null) (bool : ∀ value, motive (.bool value))
    (number : ∀ value, motive (.number value)) (string : ∀ value, motive (.string value))
    (array : ∀ items, (∀ item ∈ items, motive item) → motive (.array items))
    (object : ∀ members, (∀ member ∈ members, motive member.2) → motive (.object members)) :
    ∀ json : Json, motive json
  | .null => null
  | .bool value => bool value
  | .number value => number value
  | .string value => string value
  | .array items => array items fun item _ => induction null bool number string array object item
  | .object members =>
    object members fun member _ => induction null bool number string array object member.2
termination_by json => sizeOf json
decreasing_by
  · have := List.sizeOf_lt_of_mem ‹item ∈ items›
    simp only [Json.array.sizeOf_spec]
    omega
  · obtain ⟨name, value⟩ := member
    have := List.sizeOf_lt_of_mem ‹(name, value) ∈ members›
    simp only [Json.object.sizeOf_spec, Prod.mk.sizeOf_spec] at this ⊢
    omega

/-- A value is smaller than the members it is among, so a recursion may descend into it. -/
theorem sizeOf_lt_of_mem_members {name : String} {value : Json} {members : List (String × Json)}
    (h : (name, value) ∈ members) : sizeOf value < sizeOf members := by
  have := List.sizeOf_lt_of_mem h
  simp only [Prod.mk.sizeOf_spec] at this
  omega

/-- What is found under a name is a member of that name. -/
theorem mem_of_lookup {name : String} {value : Json} :
    ∀ {members : List (String × Json)}, members.lookup name = some value → (name, value) ∈ members
  | (other, current) :: rest, h => by
    rw [List.lookup_cons] at h
    split at h
    · next heq =>
      obtain rfl := Option.some.inj h
      simp [eq_of_beq heq]
    · exact List.mem_cons_of_mem _ (mem_of_lookup h)

theorem sizeOf_lt_of_lookup {name : String} {value : Json} {members : List (String × Json)}
    (h : members.lookup name = some value) : sizeOf value < sizeOf members :=
  sizeOf_lt_of_mem_members (mem_of_lookup h)

end Json

end FactGuard
