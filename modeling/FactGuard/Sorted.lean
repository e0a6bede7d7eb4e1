/-!
# Sorted — pairs kept in the order of their names
-/

namespace FactGuard.Sorted

/-- Puts a pair at its place among sorted pairs; an earlier pair of that name gives way. -/
def insert (name : String) (value : α) : List (String × α) → List (String × α)
  | [] => [(name, value)]
  | (other, current) :: rest =>
    if name < other then (name, value) :: (other, current) :: rest
    else if name = other then (name, value) :: rest
    else (other, current) :: insert name value rest

/-- Sorts pairs by name, the last pair of a name winning. -/
def ofList (pairs : List (String × α)) : List (String × α) :=
  pairs.foldl (fun sorted (name, value) => insert name value sorted) []

end FactGuard.Sorted
