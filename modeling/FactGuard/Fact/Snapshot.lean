import Std.Data.ExtTreeMap
import FactGuard.Fact.Value

/-!
# Fact/Snapshot — the live values of facts in one conversation
-/

namespace FactGuard.Fact

open Json (Refusal Source)

/-- The facts known in a conversation. A fact may be known to be null. -/
structure Snapshot where
  values : Std.ExtTreeMap String Value

namespace Snapshot

/-- Nothing is known. -/
def empty : Snapshot := ⟨∅⟩

instance : Inhabited Snapshot := ⟨empty⟩

/-- Gives a fact a value. -/
def set (snapshot : Snapshot) (fact : String) (value : Value) : Snapshot :=
  ⟨snapshot.values.insert fact value⟩

/-- The value of a fact, if it has one. -/
def get? (snapshot : Snapshot) (fact : String) : Option Value := snapshot.values[fact]?

/-- The value of a fact; a fact that is missing is worth null. -/
def valueOf (snapshot : Snapshot) (fact : String) : Value := (snapshot.get? fact).getD .null

/-- Whether a fact is true. -/
def isTrue (snapshot : Snapshot) (fact : String) : Bool := snapshot.get? fact = some (.bool true)

/-- The facts with their values, sorted by name. -/
def toList (snapshot : Snapshot) : List (String × Value) := snapshot.values.toList

/-- How many facts have a value. -/
def size (snapshot : Snapshot) : Nat := snapshot.values.size

/-- A snapshot as a document. -/
def toJson (snapshot : Snapshot) : Json :=
  .object (snapshot.toList.map fun (fact, value) => (fact, value.toJson))

/-- Reads a snapshot. -/
def read (source : Source) : Except Refusal Snapshot := do
  let entries ← source.table Value.read
  return entries.foldl (fun snapshot (fact, value) => snapshot.set fact value) empty

/-- Setting a fact changes the entry of that fact alone. -/
theorem get?_set (snapshot : Snapshot) (fact other : String) (value : Value) :
    (snapshot.set fact value).get? other = if fact = other then some value else snapshot.get? other := by
  simp [set, get?, Std.ExtTreeMap.getElem?_insert]

theorem valueOf_set (snapshot : Snapshot) (fact other : String) (value : Value) :
    (snapshot.set fact value).valueOf other = if fact = other then value else snapshot.valueOf other := by
  rw [valueOf, get?_set]
  split
  · rfl
  · rfl

/-- Only the flag that is true makes a fact true. -/
theorem isTrue_set (snapshot : Snapshot) (fact other : String) (value : Value) :
    (snapshot.set fact value).isTrue other =
      if fact = other then decide (value = .bool true) else snapshot.isTrue other := by
  rw [isTrue, get?_set]
  split
  · simp
  · rfl

/-- Snapshots are told apart by their entries. -/
theorem ext_get? {s t : Snapshot} (h : ∀ fact, s.get? fact = t.get? fact) : s = t := by
  obtain ⟨s⟩ := s
  obtain ⟨t⟩ := t
  exact congrArg _ (Std.ExtTreeMap.ext_getElem? h)

end Snapshot

end FactGuard.Fact
