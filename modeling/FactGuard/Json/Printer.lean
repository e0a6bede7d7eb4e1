import FactGuard.Json.Basic
import FactGuard.Decimal.Layout

/-!
# Json/Printer — document values as compact text

No blanks are written, members stand in the order in which the object holds them, and a text is
quoted: quotes, backslashes and control characters are escaped, everything else stands as it is.
-/

namespace FactGuard.Json

/-- Two hexadecimal digits, in lower case. -/
def hexPair (n : Nat) : List Char := [Nat.digitChar (n / 16), Nat.digitChar (n % 16)]

/-- One character inside quotes. -/
def escapedChar (c : Char) : List Char :=
  match c with
  | '"' => ['\\', '"']
  | '\\' => ['\\', '\\']
  | '\n' => ['\\', 'n']
  | '\r' => ['\\', 'r']
  | '\t' => ['\\', 't']
  | '\x08' => ['\\', 'b']
  | '\x0c' => ['\\', 'f']
  | c => if c.toNat < 0x20 then '\\' :: 'u' :: '0' :: '0' :: hexPair c.toNat else [c]

/-- A text in quotes. -/
def quoted (s : String) : String := String.ofList ('"' :: s.toList.flatMap escapedChar ++ ['"'])

/-- A number as text. A double that is not finite has no spelling and is written as null. -/
def numberText : Number → String
  | .whole value => toString value
  | .real value => (Decimal.Layout.document.write? value).getD "null"

mutual

/-- A value as compact text. -/
def text : Json → String
  | .null => "null"
  | .bool true => "true"
  | .bool false => "false"
  | .number value => numberText value
  | .string value => quoted value
  | .array items => "[" ++ itemsText items ++ "]"
  | .object members => "\x7b" ++ membersText members ++ "\x7d"

/-- The items of a list, with commas between them. -/
def itemsText : List Json → String
  | [] => ""
  | [item] => text item
  | item :: rest => text item ++ "," ++ itemsText rest

/-- The members of an object, with commas between them. -/
def membersText : List (String × Json) → String
  | [] => ""
  | [(name, value)] => quoted name ++ ":" ++ text value
  | (name, value) :: rest => quoted name ++ ":" ++ text value ++ "," ++ membersText rest

end

end FactGuard.Json
