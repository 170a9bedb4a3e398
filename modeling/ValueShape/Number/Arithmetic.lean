import ValueShape.Number.Numeral

/-!
# Arithmetic

Calculating with integers and doubles.

* `Double.combine` carries out an operation on doubles.  An operand that is no number is passed on.
* `Double.remainder` and `Double.divMod` divide such that the remainder has the sign of the divisor,
  and `Double.power?` raises to a power, unless that is beyond the finite doubles.
* `Double.ofQuotient?` is the double nearest to the quotient of two integers.
* `Double.rounded?` is the double nearest to a double that is rounded to some decimal places, and
  `Double.roundedInt` the integer next to it; a tie goes to the even one.
* `Double.writeHex` and `Double.readHex` are the hexadecimal form of a double.
-/

set_option autoImplicit false

namespace ValueShape

/-! ## Integers -/

/-- Whether an integer is odd. -/
def isOddInt (n : Int) : Bool := n.natAbs % 2 == 1

/-- `base ^ exponent` modulo `modulus`, by the bits of the exponent, of which `fuel` are looked at. -/
def powerModulo (modulus : Nat) : Nat → Nat → Nat → Nat
  | 0, _, _ => 1 % modulus
  | fuel + 1, base, exponent =>
    if exponent = 0 then 1 % modulus
    else
      let half := powerModulo modulus fuel (base * base % modulus) (exponent / 2)
      if exponent % 2 = 1 then base * half % modulus else half

/-- The greatest common divisor of two natural numbers, and the factor of the first one that leads
to it modulo the second; `fuel` bounds the steps. -/
def gcdFactor : Nat → Nat → Nat → Int → Int → Nat × Int
  | 0, a, _, x, _ => (a, x)
  | fuel + 1, a, b, x, y =>
    if b = 0 then (a, x) else gcdFactor fuel b (a % b) y (x - (a / b : Nat) * y)

/-- What an integer has to be multiplied by to give one modulo `modulus`, if there is such a
number. -/
def inverseModulo? (a modulus : Nat) : Option Nat :=
  let (d, x) := gcdFactor (modulus.log2 * 2 + 8) (a % modulus) modulus 1 0
  if d = 1 then some (x % modulus).toNat else none

/-- An integer rounded to a multiple of a power of ten; a tie goes to the even one. -/
def roundedToPower (n : Int) (places : Nat) : Int :=
  let unit := Nat.pow 10 places
  let magnitude := Double.roundQuotient n.natAbs unit * unit
  if n < 0 then -(magnitude : Int) else magnitude

namespace Double

/-! ## Doubles

A NaN among the operands is passed on.  Where there is none, a result that is no number is always
the same one. -/

/-- The bit that tells a NaN that is passed on in silence. -/
def quietBit : UInt64 := UInt64.ofNat (Nat.pow 2 51)

/-- The NaN that operations without a result give. -/
def indefinite : UInt64 := UInt64.ofNat (Nat.pow 2 63) ||| quietNaN

/-- An operation on doubles. -/
def combine (f : Float → Float → Float) (a b : UInt64) : UInt64 :=
  if isNaN a then a ||| quietBit
  else if isNaN b then b ||| quietBit
  else
    let result := (f (Float.ofBits a) (Float.ofBits b)).toBits
    if isNaN result then indefinite else result

/-- A double with the other sign. -/
def negated (a : UInt64) : UInt64 := a ^^^ UInt64.ofNat (Nat.pow 2 63)

/-- A double without its sign. -/
def magnitude (a : UInt64) : UInt64 := if signBit a then negated a else a

/-- A double with the sign of another one. -/
def withSign (a sign : UInt64) : UInt64 :=
  if signBit a == signBit sign then a else negated a

/-- Whether a double is infinite. -/
def isInfinite (a : UInt64) : Bool := decode a == .infinite (signBit a)

/-- A finite double as a fraction; others are zero. -/
def toFraction (a : UInt64) : Int × Nat :=
  match decode a with
  | .finite negative m q => fraction negative m q
  | _ => (0, 1)

/-- The integer part of a finite double, below it. -/
def floorInt (a : UInt64) : Int :=
  let (num, den) := toFraction a
  num.fdiv den

/-- The integer next to a finite double; a tie goes to the even one. -/
def roundedInt (a : UInt64) : Int :=
  let (num, den) := toFraction a
  let magnitude := roundQuotient num.natAbs den
  if num < 0 then -(magnitude : Int) else magnitude

/-- The double with the value of a fraction, which is finite; zero gets the given sign. -/
def ofFraction (negative : Bool) (num den : Nat) : UInt64 :=
  if num = 0 then zero negative
  else (nearest? negative num den).getD (infinity negative)

/-- The double nearest to the quotient of two integers, of which the second is not zero. -/
def ofQuotient? (a b : Int) : Option UInt64 :=
  if a = 0 then some (zero (b < 0))
  else nearest? ((a < 0) != (b < 0)) a.natAbs b.natAbs

/-- What remains of a double after division by another one that is not zero, with the sign of the
dividend. -/
def truncatedRemainder (a b : UInt64) : UInt64 :=
  if isNaN a then a ||| quietBit
  else if isNaN b then b ||| quietBit
  else if isInfinite a then indefinite
  else if isInfinite b then a
  else
    let (m, k) := toFraction a
    let (n, l) := toFraction b
    ofFraction (signBit a) (m.natAbs * l % (n.natAbs * k)) (k * l)

/-- What remains after division, with the sign of the divisor. -/
def remainder (a b : UInt64) : UInt64 :=
  let r := truncatedRemainder a b
  if isZero r then zero (signBit b)
  else if signBit r != signBit b && !isNaN r then combine (· + ·) r b
  else r

/-- The whole number of times that a divisor goes into a double, and what remains. -/
def divMod (a b : UInt64) : UInt64 × UInt64 :=
  let r := truncatedRemainder a b
  let quotient := combine (· / ·) (combine (· - ·) a r) b
  let one := (ofInt? 1).getD 0
  let opposed := !isZero r && !isNaN r && signBit r != signBit b
  let quotient := if opposed then combine (· - ·) quotient one else quotient
  let whole :=
    if isZero quotient then zero (signBit (combine (· / ·) a b))
    else if isNaN quotient || isInfinite quotient then quotient
    else
      let below := (Float.ofBits quotient).floor
      if Float.ofBits quotient - below > 0.5 then (below + 1.0).toBits else below.toBits
  (whole, remainder a b)

/-- Whether a double is an odd integer. -/
def isOdd (a : UInt64) : Bool := (toInt? a).any isOddInt

/-- The double one. -/
def one : UInt64 := (ofInt? 1).getD 0

/-- A double to the power of another one, unless that is too large.  A negative base needs a whole
exponent, and the base zero an exponent that is not negative. -/
def power? (a b : UInt64) : Option UInt64 :=
  if isZero b then some one
  else if isNaN a then some a
  else if isNaN b then some (if eq a one then one else b)
  else if isInfinite b then
    let base := magnitude a
    let grows := Float.ofBits base > 1.0
    if eq base one then some one
    else some (if grows == !signBit b then magnitude b else zero false)
  else if isInfinite a then
    some (if signBit b then (if isOdd b then zero (signBit a) else zero false)
      else if isOdd b then a else magnitude a)
  else if isZero a then some (if isOdd b then a else zero false)
  else
    let base := magnitude a
    let result := if eq base one then one else combine Float.pow base b
    if isInfinite result then none
    else some (if signBit a && isOdd b then negated result else result)

/-! ## Rounding -/

/-- A finite double rounded to so many decimal places, unless the result is too large. -/
def rounded? (a : UInt64) (places : Int) : Option UInt64 :=
  if 330 < places then some a
  else if places < -310 then some (zero (signBit a))
  else
    let (num, den) := toFraction a
    let (up, down) := if 0 ≤ places then (Nat.pow 10 places.toNat, 1)
      else (1, Nat.pow 10 (-places).toNat)
    let digits := roundQuotient (num.natAbs * up) (den * down)
    if digits = 0 then some (zero (signBit a)) else nearest? (signBit a) (digits * down) up

/-! ## Hexadecimal form -/

/-- The hexadecimal form of a double. -/
def writeHex (a : UInt64) : List Char :=
  let sign := if signBit a then ['-'] else []
  let power := fun (e : Int) => (if e < 0 then "p-" else "p+") ++ e.natAbs.repr
  let fractionText := String.ofList <| (Nat.toDigits 16 (fractionBits a)).leftpad 13 '0'
  match decode a with
  | .nan => "nan".toList
  | .infinite negative => (if negative then "-inf" else "inf").toList
  | .finite .. =>
    sign ++ (if isZero a then "0x0.0p+0"
      else if exponentBits a = 0 then "0x0." ++ fractionText ++ power (-1022)
      else "0x1." ++ fractionText ++ power ((exponentBits a : Int) - 1023)).toList

/-- Why characters are not the hexadecimal form of a double. -/
inductive HexFault
  /-- They do not have that form. -/
  | malformed
  /-- The double would be too large. -/
  | tooLarge
deriving DecidableEq, Repr

/-- The hexadecimal digits at the front of characters. -/
def hexDigitsOf (cs : List Char) : List Char := cs.takeWhile fun c => (hexDigit? c).isSome

/-- The exponent at the end of a hexadecimal form. -/
def readHexExponent? : List Char → Option Int
  | [] => some 0
  | c :: cs =>
    if c != 'p' && c != 'P' then none
    else
      let (negative, cs) := splitSign cs
      if cs.isEmpty || !cs.all isPlainDigit then none
      else some (if negative then -(digitsValue 0 cs : Int) else digitsValue 0 cs)

/-- The double that hexadecimal digits write. -/
def readHexDigits (negative : Bool) (cs : List Char) : Except HexFault UInt64 := do
  let cs := match cs with
    | '0' :: 'x' :: rest | '0' :: 'X' :: rest => rest
    | cs => cs
  let whole := hexDigitsOf cs
  let rest := cs.drop whole.length
  let (part, rest) := match rest with
    | '.' :: rest => (hexDigitsOf rest, rest.drop (hexDigitsOf rest).length)
    | rest => ([], rest)
  if whole.isEmpty && part.isEmpty then throw .malformed
  match readHexExponent? rest with
  | none => throw .malformed
  | some e =>
    let value := (whole ++ part).foldl (fun n c => n * 16 + (hexDigit? c).getD 0) 0
    let e := e - 4 * part.length
    if value = 0 || e + value.log2 < -1080 then return zero negative
    if 1100 < e + value.log2 then throw .tooLarge
    match (if 0 ≤ e then nearest? negative (value * Nat.pow 2 e.toNat) 1
        else nearest? negative value (Nat.pow 2 (-e).toNat)) with
    | some bits => return bits
    | none => throw .tooLarge

/-- The double that characters are the hexadecimal form of. -/
def readHex (cs : List Char) : Except HexFault UInt64 :=
  let isSpace := fun (c : Char) => c == ' ' || (9 ≤ c.toNat && c.toNat ≤ 13)
  let cs := (((cs.dropWhile isSpace).reverse.dropWhile isSpace).reverse)
  let (negative, digits) := splitSign cs
  let word := String.ofList (digits.map Char.toLower)
  if word == "inf" || word == "infinity" then .ok (infinity negative)
  else if word == "nan" then .ok (if negative then negated quietNaN else quietNaN)
  else readHexDigits negative digits

/-! ## Laws -/

theorem magnitude_idem (a : UInt64) (h : signBit a = false) : magnitude a = a := by
  simp [magnitude, h]

theorem withSign_self (a : UInt64) : withSign a a = a := by simp [withSign]

end Double

end ValueShape
