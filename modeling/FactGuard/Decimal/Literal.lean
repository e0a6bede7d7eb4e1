/-!
# Decimal/Literal — the value of a number as it is spelled in a document

A literal is a sign, digits, and possibly a fraction and an exponent. A whole number in 64-bit range
keeps its exact value. Every other literal becomes a double: its digits are gathered into a 64-bit
significand, as many as fit, and the significand is scaled by a power of ten in one rounding step
(more than one only outside `10^±308`).
-/

namespace FactGuard

/-- A number: a whole number in 64-bit range, or a double. The two kinds are never equal. -/
inductive Number
  | whole (value : Int)
  | real (value : Float)
  deriving BEq, Inhabited

namespace Decimal

/-- A number as spelled: its parts hold digits only. -/
structure Literal where
  negative : Bool
  whole : List Nat
  fraction : Option (List Nat)
  /-- The sign (`true` for minus) and the digits of the exponent. -/
  exponent : Option (Bool × List Nat)

namespace Literal

/-- The largest significand. -/
def limit : Nat := Nat.pow 2 64 - 1

/-- The largest exponent that can be spelled without leaving the range of numbers. -/
def exponentLimit : Nat := Nat.pow 2 31 - 1

/-- Reads digits into the significand while they fit; gives what was gathered and the rest. -/
def gather : Nat → List Nat → Nat × List Nat
  | significand, [] => (significand, [])
  | significand, d :: ds =>
    if limit < significand * 10 + d then (significand, d :: ds)
    else gather (significand * 10 + d) ds

/-- A natural number from its digits. -/
def natural (ds : List Nat) : Nat := ds.foldl (fun n d => n * 10 + d) 0

/-- The double nearest to `10^n`. -/
def powerOfTen (n : Nat) : Float := Float.ofScientific 1 false n

/-- `significand · 10^exponent`, or nothing if that is too large. Very small numbers take the
exponent in steps of 308. -/
def scale (x : Float) (exponent : Int) : Nat → Option Float
  | 0 => some x
  | fuel + 1 =>
    if exponent.natAbs ≤ 308 then
      if 0 ≤ exponent then
        let y := x * powerOfTen exponent.natAbs
        if y.isInf then none else some y
      else some (x / powerOfTen exponent.natAbs)
    else if x == 0 then some x
    else if 0 ≤ exponent then none
    else scale (x / powerOfTen 308) (exponent + 308) fuel

/-- The digits of the literal as significand and power of ten: digits that do not fit count as
zeros before the point and are dropped after it. -/
def gathered (l : Literal) : Nat × Int :=
  let (significand, beyond) := gather 0 l.whole
  let digits := l.fraction.getD []
  let (all, dropped) := gather significand digits
  (all, (beyond.length : Int) - ((digits.length - dropped.length : Nat) : Int))

/-- The literal as a double, or nothing if it is out of range. -/
def real? (l : Literal) : Option Float :=
  let (significand, shift) := l.gathered
  let signed (x : Float) : Float := if l.negative then -x else x
  let start := (UInt64.ofNat significand).toFloat
  match l.exponent with
  | none => (scale start shift 4).map signed
  | some (minus, digits) =>
    let exponent := natural digits
    if exponentLimit < exponent then
      if significand != 0 && !minus then none else some (signed 0)
    else
      (scale start (if minus then shift - exponent else shift + exponent) 4).map signed

/-- The value of a literal, or nothing if it is out of range. Minus zero is a double. -/
def value? (l : Literal) : Option Number :=
  let magnitude := natural l.whole
  if l.fraction.isNone && l.exponent.isNone && magnitude ≤ limit then
    if !l.negative then some (.whole magnitude)
    else if 0 < magnitude && magnitude ≤ Nat.pow 2 63 then some (.whole (-magnitude))
    else l.real?.map .real
  else l.real?.map .real

end Literal

end Decimal

end FactGuard
