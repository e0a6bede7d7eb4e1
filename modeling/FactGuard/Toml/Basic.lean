/-!
# Toml/Basic — values of TOML documents

Settings are texts, whole numbers and booleans in tables. Numbers with a fraction and dates are told
apart from those, but what they are worth is not kept.
-/

namespace FactGuard.Toml

/-- A value of a TOML document. -/
inductive Value
  | text (content : String)
  | integer (value : Int)
  | boolean (value : Bool)
  | float
  | datetime
  | array (items : List Value)
  | table (entries : List (String × Value))
  deriving Inhabited, BEq

/-- Why a text is not a TOML document, or not one with the wanted settings. -/
inductive Fault
  | malformed
  | repeatedKey (key : String)
  /-- A key leads through something that is not a table. -/
  | notATable (key : String)
  | tooDeep
  /-- A setting has the wrong type, or is out of range. -/
  | badSetting (key : String)
  deriving DecidableEq, Repr

/-- The wording of a fault. -/
def Fault.message : Fault → String
  | malformed => "not a TOML document"
  | repeatedKey key => s!"duplicate key `{key}`"
  | notATable key => s!"`{key}` is not a table"
  | tooDeep => "nested too deeply"
  | badSetting key => s!"bad value for `{key}`"

/-- The entry of a table. -/
def Value.entry? (key : String) : Value → Option Value
  | .table entries => entries.lookup key
  | _ => none

end FactGuard.Toml
