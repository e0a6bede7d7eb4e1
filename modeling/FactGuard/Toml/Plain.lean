import FactGuard.Toml.Scan

/-!
# Toml/Plain — documents without tables that stand for dates

A date may be given as a table: one whose first key is reserved for that, over the date as a text. In the
plain form of a document such tables are dates. A document has no plain form if a reserved key holds
anything else, unless it stands in a table after another key.
-/

namespace FactGuard.Toml

/-- The key whose table stands for a date. -/
def dateKey : String := "$__toml_private_datetime"

/-- Whether a text is a date, a time, or both. -/
def isDate (text : String) : Bool :=
  match Scan.datetime?.run text.toList with
  | .ok (true, []) => true
  | _ => false

namespace Value

mutual

/-- The plain form of a value. What follows a date in its table is passed over. -/
def plain? : Value → Option Value
  | .array items => return .array (← plainItems? items)
  | .table entries =>
    match entries.head? with
    | some (key, content) =>
      if key = dateKey then
        match content with
        | .text date => if isDate date then some .datetime else none
        | _ => none
      else return .table (← plainEntries? entries)
    | none => some (.table [])
  | content => some content

/-- The plain forms of the items of an array. -/
def plainItems? : List Value → Option (List Value)
  | [] => some []
  | item :: rest => return (← plain? item) :: (← plainItems? rest)

/-- The entries of a table with the plain forms of their values. -/
def plainEntries? : List (String × Value) → Option (List (String × Value))
  | [] => some []
  | (key, content) :: rest => return (key, ← plain? content) :: (← plainEntries? rest)

end

end Value

end FactGuard.Toml
