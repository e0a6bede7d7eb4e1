/-!
# Decimal/Shortest — the fewest decimal digits that read back as the same double

A finite double stands for an exact binary number `m · 2^q`, and reading a decimal gives it back
exactly when the decimal lies between its two midpoints (the midpoints themselves included iff `m`
is even). `Binary.shortest` tries one digit, two digits, … and on each decimal grid looks at the two
neighbours of the value, in exact arithmetic on natural numbers.
-/

namespace FactGuard.Decimal

/-- Which neighbour wins when the value lies exactly between two decimals. -/
inductive Tie
  | toEven
  | up
  deriving DecidableEq, Repr

/-- A positive binary number `mantissa · 2^exponent`. `closeBelow` holds where the next smaller
double is only half a step away. -/
structure Binary where
  mantissa : Nat
  exponent : Int
  closeBelow : Bool
  deriving Repr

/-- A positive decimal `0.d₁d₂… · 10^point`, with no zero at its end. -/
structure Digits where
  digits : List Nat
  point : Int
  deriving Repr, DecidableEq

/-- What a double is: its sign, and its magnitude if that is finite. -/
inductive Magnitude
  | zero
  | finite (value : Binary)
  | unbounded

/-- The sign of a double. -/
def isNegative (x : Float) : Bool := x.toBits.toNat / Nat.pow 2 63 == 1

/-- The magnitude of a double, from its binary64 fields. -/
def magnitude (x : Float) : Magnitude :=
  let bits := x.toBits.toNat
  let implicit := Nat.pow 2 52
  let fraction := bits % implicit
  let biased := bits / implicit % 2048
  if biased = 2047 then .unbounded
  else if biased = 0 then
    if fraction = 0 then .zero else .finite ⟨fraction, -1074, false⟩
  else .finite ⟨implicit + fraction, Int.ofNat biased - 1075, fraction == 0 && decide (1 < biased)⟩

namespace Binary

/-- The value and its two midpoints as numerators over one denominator: lower, value, upper. -/
def scaled (b : Binary) : Nat × Nat × Nat × Nat :=
  let lower := 4 * b.mantissa - (if b.closeBelow then 1 else 2)
  let value := 4 * b.mantissa
  let upper := 4 * b.mantissa + 2
  if 0 ≤ b.exponent then
    let step := Nat.pow 2 b.exponent.toNat
    (lower * step, value * step, upper * step, 4)
  else (lower, value, upper, 4 * Nat.pow 2 (-b.exponent).toNat)

/-- The number of digits before the decimal point: the `k` with `10^(k-1) ≤ num/den < 10^k`. -/
def pointOf (num den : Nat) : Int :=
  if den ≤ num then ((Nat.toDigits 10 (num / den)).length : Int)
  else
    let zeros := (Nat.toDigits 10 (den / num)).length - 1
    if num * Nat.pow 10 zeros = den then 1 - zeros else -zeros

/-- The neighbour of `value/den` on the grid of step `10^step` that reads back, if there is one. -/
def onGrid (tie : Tie) (b : Binary) (step : Int) : Option Nat :=
  let (lower, value, upper, den) := b.scaled
  let up := Nat.pow 10 (-step).toNat
  let unit := den * Nat.pow 10 step.toNat
  let readsBack (d : Nat) : Bool :=
    if b.mantissa % 2 = 0 then lower * up ≤ d * unit && d * unit ≤ upper * up
    else lower * up < d * unit && d * unit < upper * up
  let below := value * up / unit
  let above := below + 1
  let gapBelow := value * up - below * unit
  let gapAbove := above * unit - value * up
  let nearer :=
    if gapBelow < gapAbove then below
    else if gapAbove < gapBelow then above
    else match tie with
      | .up => above
      | .toEven => if below % 2 = 0 then below else above
  let other := if nearer = below then above else below
  if readsBack nearer && 0 < nearer then some nearer
  else if readsBack other && 0 < other then some other
  else none

/-- The digits of a natural number, most significant first, without the zeros at its end. -/
def significant (n : Nat) : List Nat :=
  ((Nat.toDigits 10 n).reverse.dropWhile (· == '0')).reverse.map fun c => c.toNat - '0'.toNat

/-- Tries `count`, `count + 1`, … digits, `fuel` times; seventeen digits always suffice. -/
def search (tie : Tie) (b : Binary) (point : Int) : Nat → Nat → Digits
  | 0, _ => ⟨[], point⟩
  | fuel + 1, count =>
    let step := point - count
    match b.onGrid tie step with
    | some d => ⟨significant d, (Nat.toDigits 10 d).length + step⟩
    | none => search tie b point fuel (count + 1)

/-- The shortest decimal that reads back as `b`, and of several the nearest to it. -/
def shortest (tie : Tie) (b : Binary) : Digits :=
  let (_, value, _, den) := b.scaled
  b.search tie (pointOf value den) 17 1

end Binary

end FactGuard.Decimal
