import FactGuard.Toml.Basic

/-!
# Toml/Table — tables while a document is read

A table comes about by its header, by a header further down, or by a dotted key. A header may follow
where only deeper headers have named its table; a dotted key may add only to tables of dotted keys. An
array of tables grows by one with each of its headers, and keys that lead into it mean its last table.
-/

namespace FactGuard.Toml

/-- What a key holds while a document is read. -/
inductive Item
  | value (value : Value)
  /-- A table: whether only deeper keys have named it, and whether dotted keys have. -/
  | table (implicit : Bool) (dotted : Bool) (entries : List (String × Item))
  | tables (elements : List (List (String × Item)))

namespace Item

mutual

/-- An item as a finished value. -/
def finish : Item → Value
  | .value content => content
  | .table _ _ entries => .table (finishEntries entries)
  | .tables elements => .array (finishTables elements)

/-- The entries of a table as finished values. -/
def finishEntries : List (String × Item) → List (String × Value)
  | [] => []
  | (key, item) :: rest => (key, finish item) :: finishEntries rest

/-- The tables of an array as finished values. -/
def finishTables : List (List (String × Item)) → List Value
  | [] => []
  | entries :: rest => .table (finishEntries entries) :: finishTables rest

end

/-- Gives a key that is present another item. -/
def replace (key : String) (item : Item) (entries : List (String × Item)) : List (String × Item) :=
  entries.map fun entry => if entry.1 = key then (key, item) else entry

/-- Changes the table at a path below `entries`, making the tables on the way. With `byKey` the path is
that of a dotted key. -/
def atPath (byKey : Bool) (change : Bool → List (String × Item) → Except Fault (List (String × Item))) :
    List String → Bool → List (String × Item) → Except Fault (List (String × Item))
  | [], dotted, entries => change dotted entries
  | key :: path, _, entries =>
    match entries.lookup key with
    | none => do return entries ++ [(key, .table true byKey (← atPath byKey change path byKey []))]
    | some (.value _) => .error (.notATable key)
    | some (.tables elements) => do
      let last ← atPath byKey change path false (elements.getLast?.getD [])
      return replace key (.tables (elements.dropLast ++ [last])) entries
    | some (.table implicit dotted inner) =>
      if byKey && !implicit then .error (.repeatedKey key)
      else do
        let inner ← atPath byKey change path dotted inner
        return replace key (.table implicit dotted inner) entries

/-- Enters a value under a dotted key. -/
def enter (path : List String) (key : String) (value : Value) (entries : List (String × Item)) :
    Except Fault (List (String × Item)) :=
  atPath true (fun dotted table =>
    if dotted = path.isEmpty then .error (.repeatedKey key)
    else match table.lookup key with
      | some _ => .error (.repeatedKey key)
      | none => .ok (table ++ [(key, .value value)])) path false entries

/-- Opens the table of a header. It comes last in the table around it, even where deeper headers have named
it before. -/
def openTable (path : List String) (key : String) (root : List (String × Item)) :
    Except Fault (List (String × Item)) :=
  atPath false (fun _ table =>
    match table.lookup key with
    | none => .ok (table ++ [(key, .table false false [])])
    | some (.table true false inner) =>
      .ok (table.filter (·.1 ≠ key) ++ [(key, .table false false inner)])
    | some _ => .error (.repeatedKey key)) path false root

/-- Opens the next table of an array. -/
def openNext (path : List String) (key : String) (root : List (String × Item)) :
    Except Fault (List (String × Item)) :=
  atPath false (fun _ table =>
    match table.lookup key with
    | none => .ok (table ++ [(key, .tables [[]])])
    | some (.tables elements) => .ok (replace key (.tables (elements ++ [[]])) table)
    | some _ => .error (.repeatedKey key)) path false root

end Item

end FactGuard.Toml
