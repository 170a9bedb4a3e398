/-!
# Doubles

A floating-point number is kept as the 64 bits of its IEEE 754 double, and everything about it is
computed from those bits in exact integer arithmetic.

* `Double.decode` reads the bits as a sign and a magnitude `m · 2 ^ q`, an infinity or a NaN.
* `Double.eq` is numeric equality: the two zeros are equal, and a NaN equals nothing.
* `Double.toInt?` is the integer a double stands for, when it stands for one; it decides equality
  between doubles and integers without rounding.
* `Double.nearest?` is the double nearest to a fraction, and `Double.ofInt?` the one nearest to an
  integer.  A tie goes to the even mantissa.
* `Double.intLessEq` and `Double.intGreaterEq` compare integers with doubles, again without
  rounding.
-/

set_option autoImplicit false

namespace ValueShape

/-- What the bits of a double say. -/
inductive Double
  /-- Not a number. -/
  | nan
  /-- An infinity, negative or positive. -/
  | infinite (negative : Bool)
  /-- The number `± mantissa · 2 ^ exponent`. -/
  | finite (negative : Bool) (mantissa : Nat) (exponent : Int)
deriving DecidableEq, Repr

namespace Double

/-- The sign bit. -/
def signBit (bits : UInt64) : Bool := bits.toNat / Nat.pow 2 63 == 1

/-- The eleven exponent bits. -/
def exponentBits (bits : UInt64) : Nat := bits.toNat / Nat.pow 2 52 % Nat.pow 2 11

/-- The fifty-two fraction bits. -/
def fractionBits (bits : UInt64) : Nat := bits.toNat % Nat.pow 2 52

/-- The number that the bits stand for.  An exponent field of zero means a subnormal number, which
has no hidden leading bit. -/
def decode (bits : UInt64) : Double :=
  if exponentBits bits = 0x7ff then
    if fractionBits bits = 0 then .infinite (signBit bits) else .nan
  else if exponentBits bits = 0 then .finite (signBit bits) (fractionBits bits) (-1074)
  else .finite (signBit bits) (Nat.pow 2 52 + fractionBits bits) (exponentBits bits - 1075)

/-- Whether the bits are those of a NaN. -/
def isNaN (bits : UInt64) : Bool := decode bits == .nan

/-- Whether the bits are those of a zero of either sign. -/
def isZero (bits : UInt64) : Bool := bits.toNat % Nat.pow 2 63 == 0

/-- Numeric equality.  A finite number other than zero has one representation only. -/
def eq (a b : UInt64) : Bool :=
  !isNaN a && !isNaN b && (a == b || (isZero a && isZero b))

/-- The integer that a double is equal to, if any. -/
def toInt? (bits : UInt64) : Option Int :=
  match decode bits with
  | .finite negative m q =>
    let signed := fun n : Nat => if negative then -(n : Int) else (n : Int)
    if 0 ≤ q then some (signed (m * Nat.pow 2 q.toNat))
    else if m % Nat.pow 2 (-q).toNat = 0 then some (signed (m / Nat.pow 2 (-q).toNat))
    else none
  | _ => none

/-! ## Rounding

All rounding goes back to one quotient of natural numbers, in other modules as well. -/

/-- The quotient of two natural numbers, rounded to the nearest one; a tie goes to the even one. -/
def roundQuotient (num den : Nat) : Nat :=
  let floor := num / den
  let twice := 2 * (num % den)
  if den < twice || (twice == den && floor % 2 == 1) then floor + 1 else floor

/-- The quotient of `num` by `den · 2 ^ q`, rounded. -/
def scaledQuotient (num den : Nat) (q : Int) : Nat :=
  roundQuotient (num * Nat.pow 2 (-q).toNat) (den * Nat.pow 2 q.toNat)

/-- The sign bit of a double, as a number to add to its other bits. -/
def signPart (negative : Bool) : Nat := if negative then Nat.pow 2 63 else 0

/-- The zero of the given sign. -/
def zero (negative : Bool) : UInt64 := UInt64.ofNat (signPart negative)

/-- The infinity of the given sign. -/
def infinity (negative : Bool) : UInt64 := UInt64.ofNat (signPart negative + 0x7ff * Nat.pow 2 52)

/-- The NaN that texts stand for. -/
def quietNaN : UInt64 := UInt64.ofNat (0x7ff * Nat.pow 2 52 + Nat.pow 2 51)

/-- The double nearest to `± num / den`; nothing if that is beyond the finite ones.  Mantissas have
53 bits, fewer if the exponent would fall below that of the subnormal numbers. -/
def nearest? (negative : Bool) (num den : Nat) : Option UInt64 :=
  if num == 0 then some (zero negative)
  else
    let low : Int := max ((num.log2 : Int) - den.log2 - 53) (-1074)
    let q := if scaledQuotient num den low < Nat.pow 2 53 then low else low + 1
    let bits := scaledQuotient num den q + (q + 1074).toNat * Nat.pow 2 52
    if bits < 0x7ff * Nat.pow 2 52 then some (UInt64.ofNat (signPart negative + bits)) else none

/-- The double nearest to an integer, unless it is too large. -/
def ofInt? (n : Int) : Option UInt64 := nearest? (decide (n < 0)) n.natAbs 1

/-! ## Order -/

/-- A finite number as a fraction. -/
def fraction (negative : Bool) (m : Nat) (q : Int) : Int × Nat :=
  let num : Int := m * Nat.pow 2 q.toNat
  (if negative then -num else num, Nat.pow 2 (-q).toNat)

/-- Whether an integer is at most a double. -/
def intLessEq (n : Int) (bits : UInt64) : Bool :=
  match decode bits with
  | .nan => false
  | .infinite negative => !negative
  | .finite negative m q =>
    let (num, den) := fraction negative m q
    decide (n * den ≤ num)

/-- Whether an integer is at least a double. -/
def intGreaterEq (n : Int) (bits : UInt64) : Bool :=
  match decode bits with
  | .nan => false
  | .infinite negative => negative
  | .finite negative m q =>
    let (num, den) := fraction negative m q
    decide (num ≤ n * den)

/-! ## Laws -/

theorem eq_comm (a b : UInt64) : eq a b = eq b a := by
  simp only [eq, BEq.comm (a := a) (b := b), Bool.and_comm (isZero a), Bool.and_comm (!isNaN a)]

theorem eq_self_iff (a : UInt64) : eq a a = true ↔ isNaN a = false := by
  simp [eq]

end Double

end ValueShape
