import ValueShape.Number.Double

/-!
# Shortest decimals

`shortestDecimal m q` is the decimal that a double `m · 2 ^ q` is written with: of all decimals that
read back as the same double, one with the fewest digits, and of those the nearest to the double.

The decimals that read back fill the interval between the midpoints to the two neighbouring doubles;
its ends belong to it exactly when `m` is even, because a tie goes to the even neighbour.  The gap
below a power of two is half the gap above it, except at the bottom of the range.  For 1, 2, … 17
digits in turn, only the two neighbours of the double on that decimal grid have to be tried: if any
point of the grid lies in the interval, then one of them does.
-/

set_option autoImplicit false

namespace ValueShape

/-- The decimal `digits · 10 ^ exponent`. -/
structure Decimal where
  /-- The significant digits, as one number. -/
  digits : Nat
  /-- The power of ten. -/
  exponent : Int
deriving DecidableEq, Repr

/-- The number of decimal digits of `n`, which is one for zero. -/
def digitCount (n : Nat) : Nat := (Nat.toDigits 10 n).length

/-- The position of the decimal point relative to the leading digit of `num / den`: the number `p`
with `10 ^ (p - 1) ≤ num / den < 10 ^ p`. -/
def leadingPosition (num den : Nat) : Int :=
  if den ≤ num then digitCount (num / den)
  else
    let k := digitCount (den / num) - 1
    if den ≤ num * Nat.pow 10 k then 1 - k else -k

/-- The reals that read back as a given double, as fractions over one denominator. -/
structure Interval where
  /-- Numerator of the double itself. -/
  value : Nat
  /-- Numerator of the lower end. -/
  low : Nat
  /-- Numerator of the upper end. -/
  high : Nat
  /-- The common denominator. -/
  den : Nat
  /-- Whether the ends belong to the interval. -/
  closed : Bool

/-- The interval of the double `m · 2 ^ q`. -/
def Interval.ofDouble (m : Nat) (q : Int) : Interval :=
  let up := Nat.pow 2 q.toNat
  let below := if m = Nat.pow 2 52 ∧ q ≠ -1074 then 1 else 2
  { value := 4 * m * up
    low := (4 * m - below) * up
    high := (4 * m + 2) * up
    den := 4 * Nat.pow 2 (-q).toNat
    closed := m % 2 == 0 }

/-- The multiple of `10 ^ e` nearest to the value among those in the interval, as a factor. -/
def Interval.nearestMultiple? (i : Interval) (e : Int) : Option Nat :=
  let up := Nat.pow 10 (-e).toNat
  let unit := i.den * Nat.pow 10 e.toNat
  let value := i.value * up
  let inside := fun d : Nat =>
    if i.closed then i.low * up ≤ d * unit && d * unit ≤ i.high * up
    else i.low * up < d * unit && d * unit < i.high * up
  let d := value / unit
  match inside d, inside (d + 1) with
  | true, true =>
    let below := value - d * unit
    let above := (d + 1) * unit - value
    some (if below < above || (below == above && d % 2 == 0) then d else d + 1)
  | true, false => some d
  | false, true => some (d + 1)
  | false, false => none

/-- Moves the zeros at the end of the digits into the exponent, at most `fuel` of them. -/
def Decimal.trim : Nat → Decimal → Decimal
  | 0, d => d
  | fuel + 1, d =>
    if d.digits ≠ 0 ∧ d.digits % 10 = 0 then trim fuel ⟨d.digits / 10, d.exponent + 1⟩ else d

/-- The decimal that the double `m · 2 ^ q` is written with, for `m ≠ 0`.  Seventeen digits always
suffice. -/
def shortestDecimal (m : Nat) (q : Int) : Decimal :=
  let i := Interval.ofDouble m q
  let p := leadingPosition i.value i.den
  let found := (List.range 17).findSome? fun n : Nat =>
    let e := p - (n + 1)
    (i.nearestMultiple? e).map fun d => (⟨d, e⟩ : Decimal)
  (found.getD ⟨0, 0⟩).trim 20

end ValueShape
