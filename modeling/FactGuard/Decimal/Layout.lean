import FactGuard.Decimal.Shortest

/-!
# Decimal/Layout — how a double is written out

The digits come from `Decimal/Shortest`; a `Layout` holds the choices a written form makes about
them: which exponents are written positionally, whether a whole number keeps its `.0`, and where a
tie between two shortest decimals goes.
-/

namespace FactGuard.Decimal

/-- The choices of one written form of numbers. -/
structure Layout where
  tie : Tie
  /-- The decimal exponents that are written without an `e`; `none` means all of them. -/
  positional : Option (Int × Int)
  /-- Whether a whole number ends in `.0`. -/
  keepsPoint : Bool
  deriving Repr

/-- Documents write the exponents -5 to 15 positionally and keep the point of a whole number. -/
def Layout.document : Layout := ⟨.toEven, some (-5, 15), true⟩

/-- Text for people never uses an exponent, and drops the point of a whole number. -/
def Layout.plain : Layout := ⟨.up, none, false⟩

namespace Digits

/-- Digits as text. -/
def chars (digits : List Nat) : List Char := digits.map Nat.digitChar

/-- Positional form: all digits, with zeros up to the decimal point or after it. -/
def positional (keepsPoint : Bool) (d : Digits) : List Char :=
  let count := (d.digits.length : Int)
  if d.point ≤ 0 then
    '0' :: '.' :: List.replicate (-d.point).toNat '0' ++ chars d.digits
  else if count ≤ d.point then
    chars d.digits ++ List.replicate (d.point - count).toNat '0' ++
      (if keepsPoint then ['.', '0'] else [])
  else
    chars (d.digits.take d.point.toNat) ++ '.' :: chars (d.digits.drop d.point.toNat)

/-- Exponent form: one digit before the point, and the exponent with its sign. -/
def scientific (d : Digits) : List Char :=
  let exponent := d.point - 1
  let sign := if exponent < 0 then '-' else '+'
  let fraction := match d.digits.drop 1 with
    | [] => []
    | rest => '.' :: chars rest
  chars (d.digits.take 1) ++ fraction ++ 'e' :: sign :: Nat.toDigits 10 exponent.natAbs

end Digits

namespace Layout

/-- The magnitude of a finite double in the given layout. -/
def digits (layout : Layout) (d : Digits) : List Char :=
  match layout.positional with
  | none => d.positional layout.keepsPoint
  | some (least, greatest) =>
    if least ≤ d.point - 1 && d.point - 1 ≤ greatest then d.positional layout.keepsPoint
    else d.scientific

/-- A finite double as text; a double that is not finite has no written form here. -/
def write? (layout : Layout) (x : Float) : Option String :=
  let sign := if isNegative x then "-" else ""
  match magnitude x with
  | .zero => some (sign ++ (if layout.keepsPoint then "0.0" else "0"))
  | .finite b => some (sign ++ String.ofList (layout.digits (b.shortest layout.tie)))
  | .unbounded => none

end Layout

end FactGuard.Decimal
