import FactGuard.Text.Invisible

/-!
# Text/Visible — texts quoted so that every character can be seen

Messages quote a text with its quotes and backslashes escaped, and every invisible character written by
its number.
-/

namespace FactGuard.Text

/-- A character beyond the common escapes, by its number. -/
def numbered (c : Char) : List Char :=
  '\\' :: 'u' :: '\x7b' :: Nat.toDigits 16 c.toNat ++ ['\x7d']

/-- One character of a quoted text. -/
def visibleChar (c : Char) : List Char :=
  match c with
  | '"' => ['\\', '"']
  | '\\' => ['\\', '\\']
  | '\n' => ['\\', 'n']
  | '\r' => ['\\', 'r']
  | '\t' => ['\\', 't']
  | '\x00' => ['\\', '0']
  | c => if isInvisible c then numbered c else [c]

/-- A text in quotes with every character visible. -/
def visible (s : String) : String :=
  String.ofList ('"' :: s.toList.flatMap visibleChar ++ ['"'])

end FactGuard.Text
