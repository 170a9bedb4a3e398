import ValueShape.Conduct.Convert
import ValueShape.Member.Arity
import ValueShape.Member.Bytes
import ValueShape.Number.Arithmetic

/-!
# Methods of numbers

`Run.callOfInt`, `Run.callOfDouble` and `Run.callOfComplex` carry out the methods of numbers, apart
from those for which a conversion, a comparison or a hash is asked.

* An integer knows how to calculate with integers only, and a double with integers and doubles.  What
  a number does not know it leaves to the other operand.
* The name of an operation tells whether the object is its first operand or its second one.
-/

set_option autoImplicit false

namespace ValueShape

/-- An integer of a number of bits, from an operation on the bits of two integers. -/
def bitwise (op : Nat → Nat → Nat) (a b : Int) : Int :=
  let width := max a.natAbs.log2 b.natAbs.log2 + 2
  let bits := fun (n : Int) => (n % (Nat.pow 2 width : Nat)).toNat
  Int.bmod (op (bits a) (bits b)) (Nat.pow 2 width)

namespace Run

/-! ## Results -/

/-- The integer that the object of a call is, as a plain one. -/
def plainInteger (c : MemberCall) (n : Int) : Run Value :=
  match c.self with
  | .scalar (.kind .int) id (.int n) => return .scalar (.kind .int) id (.int n)
  | _ => newInt n

/-- The double that the object of a call is, as a plain one. -/
def plainDouble (c : MemberCall) (bits : UInt64) : Run Value :=
  match c.self with
  | .scalar (.kind .float) id (.float bits) => return .scalar (.kind .float) id (.float bits)
  | _ => newDouble bits

/-- The failure of dividing by zero. -/
def divisionFailure (text : String) : Run Value := throw (.divisionByZero text)

/-- The failure of a power that is beyond all doubles. -/
def powerTooLarge : Failure := .tooLarge "(34, 'Numerical result out of range')"

/-- The text about zero with a negative exponent. -/
def zeroPowerText : String := "0.0 cannot be raised to a negative power"

/-- The text about a number by which an integer cannot be divided. -/
def intDivisionText : String := "integer division or modulo by zero"

/-! ## Complex numbers -/

/-- The sum, difference or product of two parts. -/
def addDoubles (a b : UInt64) : UInt64 := Double.combine (· + ·) a b

@[inherit_doc addDoubles]
def subDoubles (a b : UInt64) : UInt64 := Double.combine (· - ·) a b

@[inherit_doc addDoubles]
def mulDoubles (a b : UInt64) : UInt64 := Double.combine (· * ·) a b

/-- The quotient of two parts. -/
def divDoubles (a b : UInt64) : UInt64 := Double.combine (· / ·) a b

/-- The product of two complex numbers. -/
def complexProduct (a b : UInt64 × UInt64) : UInt64 × UInt64 :=
  (subDoubles (mulDoubles a.1 b.1) (mulDoubles a.2 b.2),
    addDoubles (mulDoubles a.1 b.2) (mulDoubles a.2 b.1))

/-- The quotient of two complex numbers, of which the second is not zero. -/
def complexQuotient (a b : UInt64 × UInt64) : UInt64 × UInt64 :=
  let larger := Float.ofBits (Double.magnitude b.1) ≥ Float.ofBits (Double.magnitude b.2)
  if Double.isNaN b.1 || Double.isNaN b.2 then (Double.quietNaN, Double.quietNaN)
  else if larger then
    let ratio := divDoubles b.2 b.1
    let denominator := addDoubles b.1 (mulDoubles b.2 ratio)
    (divDoubles (addDoubles a.1 (mulDoubles a.2 ratio)) denominator,
      divDoubles (subDoubles a.2 (mulDoubles a.1 ratio)) denominator)
  else
    let ratio := divDoubles b.1 b.2
    let denominator := addDoubles (mulDoubles b.1 ratio) b.2
    (divDoubles (addDoubles (mulDoubles a.1 ratio) a.2) denominator,
      divDoubles (subDoubles (mulDoubles a.2 ratio) a.1) denominator)

/-- A complex number to a positive power, by the bits of the exponent, of which `fuel` are looked
at; `square` is the number to the power of two to the number of bits seen. -/
def complexPowerUpTo : Nat → UInt64 × UInt64 → UInt64 × UInt64 → Nat → UInt64 × UInt64
  | 0, result, _, _ => result
  | fuel + 1, result, square, n =>
    if n = 0 then result
    else
      let result := if n % 2 = 1 then complexProduct result square else result
      complexPowerUpTo fuel result (complexProduct square square) (n / 2)

/-- The complex number one. -/
def complexOne : UInt64 × UInt64 := (Double.one, Double.zero false)

/-- The absolute value of a complex number. -/
def complexMagnitude (a : UInt64 × UInt64) : UInt64 :=
  let x := Float.ofBits (Double.magnitude a.1)
  let y := Float.ofBits (Double.magnitude a.2)
  let (small, large) := if x < y then (x, y) else (y, x)
  if Double.isInfinite a.1 || Double.isInfinite a.2 then Double.infinity false
  else if Double.isNaN a.1 || Double.isNaN a.2 then Double.quietNaN
  else if large == 0.0 then Double.zero false
  else
    let ratio := small / large
    (large * (1.0 + ratio * ratio).sqrt).toBits

/-- A complex number to the power of another one. -/
def complexPower (a b : UInt64 × UInt64) : Run Value := do
  let failZero := divisionFailure "0.0 to a negative or complex power"
  let isZero := Double.isZero a.1 && Double.isZero a.2
  match Double.toInt? b.1, Double.isZero b.2 with
  | some n, true =>
    if n.natAbs ≤ 100 then
      if n < 0 && isZero then failZero
      else
        let p := complexPowerUpTo 8 complexOne a n.natAbs
        let (re, im) := if n < 0 then complexQuotient complexOne p else p
        newComplex re im
    else general failZero isZero
  | _, _ => general failZero isZero
where
  /-- The power by way of the logarithm. -/
  general (failZero : Run Value) (isZero : Bool) : Run Value := do
    if Double.isZero b.1 && Double.isZero b.2 then return ← newComplex Double.one (Double.zero false)
    if isZero then
      if !Double.isZero b.2 || Double.signBit b.1 then return ← failZero
      return ← newComplex (Double.zero false) (Double.zero false)
    let size := Float.ofBits (complexMagnitude a)
    let angle := Float.atan2 (Float.ofBits a.2) (Float.ofBits a.1)
    let (x, y) := (Float.ofBits b.1, Float.ofBits b.2)
    let length := Float.pow size x
    let phase := angle * x
    let (length, phase) :=
      if y == 0.0 then (length, phase)
      else (length / Float.exp (angle * y), phase + y * Float.log size)
    let (re, im) := ((length * phase.cos).toBits, (length * phase.sin).toBits)
    if Double.isInfinite re || Double.isInfinite im then
      throw (.tooLarge "complex exponentiation")
    newComplex re im

/-- The complex number that an operand is, if it is a number. -/
def complexOperand? (v : Value) : Run (Option (UInt64 × UInt64)) := do
  match v.numeric? with
  | some (.complex re im) => return some (re, im)
  | some (.double bits) => return some (bits, Double.zero false)
  | some (.int n) => do return some (← intToDouble n, Double.zero false)
  | none => return none

/-- An operation on two complex numbers. -/
def complexOperation (name : String) (a b : UInt64 × UInt64) (modulus : Option Value) :
    Run Value := do
  let result := fun (c : UInt64 × UInt64) => newComplex c.1 c.2
  match name with
  | "__add__" => result (addDoubles a.1 b.1, addDoubles a.2 b.2)
  | "__sub__" => result (subDoubles a.1 b.1, subDoubles a.2 b.2)
  | "__mul__" => result (complexProduct a b)
  | "__truediv__" =>
    if Double.isZero b.1 && Double.isZero b.2 then divisionFailure "complex division by zero"
    else result (complexQuotient a b)
  | "__pow__" =>
    if (modulus.filter fun m => !m.identical .null).isSome then throw (.badValue "complex modulo")
    complexPower a b
  | _ => return .unanswered

/-! ## Doubles -/

/-- A double to the power of another one. -/
def doublePower (a b : UInt64) : Run Value := do
  if Double.isZero a && Double.signBit b && !Double.isZero b && !Double.isNaN b then
    return ← divisionFailure zeroPowerText
  let isComplex := Double.signBit a && !Double.isZero a && !Double.isNaN a &&
    !Double.isInfinite a && (Double.toInt? b).isNone && !Double.isNaN b && !Double.isInfinite b
  if isComplex then complexPower (a, Double.zero false) (b, Double.zero false)
  else match Double.power? a b with
    | some bits => newDouble bits
    | none => throw powerTooLarge

/-- An operation on two doubles. -/
def doubleOperation (name : String) (a b : UInt64) (modulus : Option Value) : Run Value := do
  match name with
  | "__add__" => newDouble (addDoubles a b)
  | "__sub__" => newDouble (subDoubles a b)
  | "__mul__" => newDouble (mulDoubles a b)
  | "__truediv__" =>
    if Double.isZero b then divisionFailure "float division by zero"
    else newDouble (divDoubles a b)
  | "__floordiv__" =>
    if Double.isZero b then divisionFailure "float floor division by zero"
    else newDouble (Double.divMod a b).1
  | "__mod__" =>
    if Double.isZero b then divisionFailure "float modulo"
    else newDouble (Double.remainder a b)
  | "__divmod__" =>
    if Double.isZero b then divisionFailure "float divmod()"
    else
      let (quotient, rest) := Double.divMod a b
      tuple [← newDouble quotient, ← newDouble rest]
  | "__pow__" =>
    if (modulus.filter fun m => !m.identical .null).isSome then
      throw (.badType "pow() 3rd argument not allowed unless all arguments are integers")
    doublePower a b
  | _ => return .unanswered

/-- The double that an operand is, if it is a double or an integer. -/
def doubleOperand? (v : Value) : Run (Option UInt64) := do
  match v.numeric? with
  | some (.double bits) => return some bits
  | some (.int n) => some <$> intToDouble n
  | _ => return none

/-- A finite double as a fraction in lowest terms. -/
def doubleRatio (bits : UInt64) : Run Value := do
  match Double.decode bits with
  | .nan => throw (.badValue "cannot convert NaN to integer ratio")
  | .infinite _ => throw (.tooLarge "cannot convert Infinity to integer ratio")
  | .finite .. =>
    let (num, den) := Double.toFraction bits
    let divisor := Nat.gcd num.natAbs den
    tuple [← newInt (num / divisor), ← newInt (den / divisor : Nat)]

/-- An integer made of a double, which has to be finite. -/
def finiteInt (bits : UInt64) (f : UInt64 → Int) : Run Value := do
  discard (truncate bits)
  newInt (f bits)

/-- A double rounded to so many decimal places, or to an integer. -/
def roundDouble (c : MemberCall) (bits : UInt64) : Run Value := do
  match c.arguments with
  | [] | [.null] => finiteInt bits Double.roundedInt
  | x :: _ =>
    let places ← asIndex x
    match Double.decode bits with
    | .finite .. =>
      match Double.rounded? bits places with
      | some rounded => newDouble rounded
      | none => throw (.tooLarge "rounded value too large to represent")
    | _ => plainDouble c bits

/-- The double that a text is the hexadecimal form of. -/
def doubleFromHex (v : Value) : Run UInt64 := do
  match v.text? with
  | none => throw (.badType "bad argument type for built-in operation")
  | some s =>
    match Double.readHex s.toList with
    | .ok bits => return bits
    | .error .malformed => throw (.badValue "invalid hexadecimal floating-point string")
    | .error .tooLarge =>
      throw (.tooLarge "hexadecimal value too large to represent as a float")

/-- Carries out a method of doubles. -/
def callOfDouble (c : MemberCall) (bits : UInt64) : Run Value := do
  let below := fun (a : UInt64) => Double.floorInt a
  match c.name, c.arguments with
  | "conjugate", _ | "__pos__", _ | "__float__", _ => plainDouble c bits
  | "__int__", _ | "__trunc__", _ => do newInt (← truncate bits)
  | "__neg__", _ => newDouble (Double.negated bits)
  | "__abs__", _ => newDouble (Double.magnitude bits)
  | "is_integer", _ => return .bool (Double.toInt? bits).isSome
  | "as_integer_ratio", _ => doubleRatio bits
  | "hex", _ => identified (.text (String.ofList (Double.writeHex bits)))
  | "__floor__", _ => finiteInt bits below
  | "__ceil__", _ => finiteInt bits fun a => -below (Double.negated a)
  | "__round__", _ => roundDouble c bits
  | "__getnewargs__", _ => do tuple [← newDouble bits]
  | "__sizeof__", _ => newInt 24
  | name, w :: rest => do
    match mirroredOperation? name, ← doubleOperand? w with
    | _, none => return .unanswered
    | some name, some other => doubleOperation name other bits rest.head?
    | none, some other => doubleOperation name bits other rest.head?
  | _, [] => return .null

/-- Carries out a method of complex numbers. -/
def callOfComplex (c : MemberCall) (a : UInt64 × UInt64) : Run Value := do
  match c.name, c.arguments with
  | "conjugate", _ => newComplex a.1 (Double.negated a.2)
  | "__neg__", _ => newComplex (Double.negated a.1) (Double.negated a.2)
  | "__pos__", _ | "__complex__", _ =>
    match c.self with
    | .complex (.kind .complex) .. => return c.self
    | _ => newComplex a.1 a.2
  | "__abs__", _ => newDouble (complexMagnitude a)
  | "__getnewargs__", _ => do tuple [← newDouble a.1, ← newDouble a.2]
  | "__sizeof__", _ => newInt 32
  | name, w :: rest => do
    match mirroredOperation? name, ← complexOperand? w with
    | _, none => return .unanswered
    | some name, some b => complexOperation name b a rest.head?
    | none, some b => complexOperation name a b rest.head?
  | _, [] => return .null

/-! ## Integers -/

/-- An integer with its bits moved to the left. -/
def shiftLeft (a b : Int) : Run Value := do
  if b < 0 then throw (.badValue "negative shift count")
  if a = 0 then return ← newInt 0
  if maxListLength ≤ b.toNat then throw (.tooLarge "too many digits in integer")
  newInt (a * Nat.pow 2 b.toNat)

/-- An integer with its bits moved to the right. -/
def shiftRight (a b : Int) : Run Value := do
  if b < 0 then throw (.badValue "negative shift count")
  let far := decide ((a.natAbs.log2 : Int) + 1 < b)
  newInt (if far then (if a < 0 then -1 else 0) else a.fdiv (Nat.pow 2 b.toNat))

/-- An integer to the power of another one, modulo a third one. -/
def powerMod (a b m : Int) : Run Value := do
  if m = 0 then throw (.badValue "pow() 3rd argument cannot be 0")
  let modulus := m.natAbs
  let base ← if 0 ≤ b then pure (a % modulus).toNat
    else match inverseModulo? (a % modulus).toNat modulus with
      | some n => pure n
      | none => throw (.badValue "base is not invertible for the given modulus")
  let result : Int := powerModulo modulus (b.natAbs.log2 + 1) base b.natAbs
  newInt (if m < 0 && result != 0 then result + m else result)

/-- An integer to the power of another one. -/
def intPower (a b : Int) (modulus : Option Value) : Run Value := do
  match modulus.filter fun m => !m.identical .null with
  | some m =>
    match m.numeric? with
    | some (.int m) => powerMod a b m
    | _ => return .unanswered
  | none =>
    if b < 0 then doublePower (← intToDouble a) (← intToDouble b)
    else if a.natAbs ≤ 1 then
      newInt (if b = 0 || a = 1 then 1 else if a = 0 then 0 else if isOddInt b then -1 else 1)
    else if maxListLength ≤ b.toNat then throw .noMemory
    else newInt (a.pow b.toNat)

/-- An operation on two integers. -/
def intOperation (name : String) (a b : Int) (modulus : Option Value) : Run Value := do
  match name with
  | "__add__" => newInt (a + b)
  | "__sub__" => newInt (a - b)
  | "__mul__" => newInt (a * b)
  | "__floordiv__" => if b = 0 then divisionFailure intDivisionText else newInt (a.fdiv b)
  | "__mod__" => if b = 0 then divisionFailure "integer modulo by zero" else newInt (a.fmod b)
  | "__divmod__" =>
    if b = 0 then divisionFailure intDivisionText
    else tuple [← newInt (a.fdiv b), ← newInt (a.fmod b)]
  | "__truediv__" =>
    if b = 0 then divisionFailure "division by zero"
    else match Double.ofQuotient? a b with
      | some bits => newDouble bits
      | none => throw (.tooLarge "integer division result too large for a float")
  | "__pow__" => intPower a b modulus
  | "__lshift__" => shiftLeft a b
  | "__rshift__" => shiftRight a b
  | "__and__" => newInt (bitwise Nat.land a b)
  | "__or__" => newInt (bitwise Nat.lor a b)
  | "__xor__" => newInt (bitwise Nat.xor a b)
  | _ => return .unanswered

/-- Whether an argument names the order of bytes that begins with the lowest one. -/
def isLittleEndian (c : MemberCall) (v : Value) : Run Bool := do
  match v.text? with
  | some "little" => return true
  | some "big" => return false
  | some _ => throw (.badValue "byteorder must be either 'little' or 'big'")
  | none =>
    throw (.badType (c.name ++ "() argument 'byteorder' must be str, not " ++
      (← argumentTypeName v)))

/-- The bytes of an integer. -/
def intToBytes (c : MemberCall) (n : Int) : Run Value := do
  if 2 < c.arguments.length then
    throw (.badArguments ("to_bytes() takes at most 2 positional arguments (" ++
      c.arguments.length.repr ++ " given)"))
  let length ← (c.arguments[0]?).elim (pure 1) indexOf
  let little ← (c.arguments[1]?).elim (pure false) (isLittleEndian c)
  if length < 0 then throw (.badValue "length argument must be non-negative")
  if n < 0 then throw (.tooLarge "can't convert negative int to unsigned")
  if n.natAbs != 0 && 8 * length ≤ n.natAbs.log2 then throw (.tooLarge "int too big to convert")
  let bs := littleEndian length.toNat n.natAbs
  identified (.scalar (.kind .bytes) unidentified (.bytes (if little then bs else bs.reverse)))

/-- The integer that bytes are. -/
def intFromBytes (c : MemberCall) : Run Int := do
  match c.arguments with
  | [] => throw (.badArguments "from_bytes() missing required argument 'bytes' (pos 1)")
  | v :: rest =>
    let little ← (rest.head?).elim (pure false) (isLittleEndian c)
    let bs ← if (v.index?).isSome || v.text?.isSome then
        throw (.badType ("cannot convert '" ++ Failure.briefly ((← heap).qualifiedTypeName v) ++
          "' object to bytes"))
      else toBytes .bytes "bytes must be in range(0, 256)" v
    return (if little then bs.reverse else bs).foldl (fun (n : Int) b => n * 256 + b.toNat) 0

/-- An integer rounded to a multiple of a power of ten. -/
def roundInt (c : MemberCall) (n : Int) : Run Value := do
  match c.arguments with
  | [] => plainInteger c n
  | x :: _ =>
    let places ← asIndex x
    if 0 ≤ places then plainInteger c n else newInt (roundedToPower n (min places.natAbs 100000))

/-- The number of bits of an integer. -/
def bitLength (n : Int) : Nat := if n = 0 then 0 else n.natAbs.log2 + 1

/-- The number of bits of a natural number that are set, of which `fuel` are looked at. -/
def bitCount : Nat → Nat → Nat
  | 0, _ => 0
  | fuel + 1, n => n % 2 + bitCount fuel (n / 2)

/-- Carries out a method of integers. -/
def callOfInt (c : MemberCall) (n : Int) : Run Value := do
  match c.name, c.arguments with
  | "conjugate", _ | "__pos__", _ | "__floor__", _ | "__ceil__", _ | "__trunc__", _ | "__int__", _
  | "__index__", _ => plainInteger c n
  | "__float__", _ => do newDouble (← intToDouble n)
  | "__neg__", _ => newInt (-n)
  | "__abs__", _ => if 0 ≤ n then plainInteger c n else newInt (-n)
  | "__invert__", _ => newInt (-n - 1)
  | "bit_length", _ => newInt (bitLength n)
  | "bit_count", _ => newInt (bitCount (bitLength n) n.natAbs)
  | "as_integer_ratio", _ => do tuple [← plainInteger c n, .int 1]
  | "__round__", _ => roundInt c n
  | "to_bytes", _ => intToBytes c n
  | "__getnewargs__", _ => do tuple [← newInt n]
  | "__sizeof__", _ => newInt (24 + 4 * ((bitLength n + 29) / 30))
  | name, w :: rest => do
    match mirroredOperation? name, w.numeric? with
    | some name, some (.int m) => intOperation name m n rest.head?
    | none, some (.int m) => intOperation name n m rest.head?
    | _, _ => return .unanswered
  | _, [] => return .null

/-- Carries out a method of truth values, which calculate with each other. -/
def callOfBool (c : MemberCall) (b : Bool) : Run Value := do
  match (mirroredOperation? c.name).getD c.name, c.arguments with
  | "__and__", [.bool b'] => return .bool (b && b')
  | "__or__", [.bool b'] => return .bool (b || b')
  | "__xor__", [.bool b'] => return .bool (b != b')
  | _, _ => callOfInt c (if b then 1 else 0)

/-- Carries out a method of numbers. -/
def callOfNumber (c : MemberCall) : Run Value := do
  match c.owner, c.self, c.self.numeric? with
  | .bool, .bool b, _ => callOfBool c b
  | _, _, some (.int n) => callOfInt c n
  | _, _, some (.double bits) => callOfDouble c bits
  | _, _, some (.complex re im) => callOfComplex c (re, im)
  | _, _, none => return .null

end Run

end ValueShape
