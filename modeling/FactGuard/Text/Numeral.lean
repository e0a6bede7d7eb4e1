/-!
# Text/Numeral — natural numbers as people type them

A numeral is one or more ASCII digits, with an optional plus sign before them; zeros at the front do
not matter.
-/

namespace FactGuard.Text

/-- The value of a run of digits. -/
def digitsValue (cs : List Char) : Nat := cs.foldl (fun n c => n * 10 + (c.toNat - '0'.toNat)) 0

/-- The digits of a numeral: what is left when one plus sign is taken off. -/
def unsignedDigits : List Char → List Char
  | '+' :: cs => cs
  | cs => cs

/-- Reads a numeral. -/
def numeral? (cs : List Char) : Option Nat :=
  let digits := unsignedDigits cs
  if digits ≠ [] ∧ digits.all Char.isDigit then some (digitsValue digits) else none

/-- Reads a numeral whose value fills no more than 64 bits. -/
def word? (cs : List Char) : Option Nat := (numeral? cs).filter (· < Nat.pow 2 64)

end FactGuard.Text
