import ValueShape.Conduct.Search
import ValueShape.Conduct.Writing
import ValueShape.Number.Numeral

/-!
# Conversions

The numbers and the bytes that a value of another kind stands for.

* `Run.toInt`, `Run.toDouble` and `Run.toComplex` convert numbers into each other, read the numbers
  that texts write, and ask the class of any other value.
* `Run.toBytes` makes bytes from a length, from other bytes, or from the integers that a value
  yields.
-/

set_option autoImplicit false

namespace ValueShape

namespace Run

/-! ## Integers -/

/-- The most characters of a numeral that a message shows. -/
def maxShownNumeral : Nat := 200

/-- The characters that bytes stand for in a numeral, in which no byte beyond ASCII has a place. -/
def byteChars (bs : List UInt8) : List Char :=
  bs.map fun b => if b < 0x80 then Char.ofNat b.toNat else '\x00'

/-- The integer that characters write; `shown` is the written form of what they come from. -/
def numeralInt (shown : Run String) (cs : List Char) : Run Int := do
  let length := (leadingDigits cs).length
  if maxNumeralDigits < length then throw (.tooLongNumeral length)
  match readInt? cs with
  | some n => return n
  | none =>
    throw (.badValue ("invalid literal for int() with base 10: " ++
      String.ofList ((← shown).toList.take maxShownNumeral)))

/-- The integer part of a double. -/
def truncate (bits : UInt64) : Run Int := do
  match Double.decode bits with
  | .nan => throw (.badValue "cannot convert float NaN to integer")
  | .infinite _ => throw (.tooLarge "cannot convert float infinity to integer")
  | .finite negative m q =>
    let n := if 0 ≤ q then m * Nat.pow 2 q.toNat else m / Nat.pow 2 (-q).toNat
    return if negative then -(n : Int) else n

/-- The integer that a method gives. -/
def intGiven (method : Method) (expected : String) (result : Value) : Run Int := do
  match result.index? with
  | some n => return n
  | none => throw (.wrongResult method.name expected ((← heap).qualifiedTypeName result))

/-- The integer that a method for the integer part gives. -/
def truncationGiven (result : Value) : Run Int := do
  match ← asIndex? result with
  | some n => return n
  | none =>
    throw (.wrongResult Method.truncation.name "Integral" ((← heap).qualifiedTypeName result))

/-- The integer that a value without a method for it converts to: one that it can be used as, one
that it is cut to, or one that it writes. -/
def plainInt (v : Value) : Run Int := do
  match ← asIndex? v with
  | some n => return n
  | none =>
    let h ← heap
    match h.slot? .truncation v, v.text?, h.bytes? v with
    | some (.assigned method), _, _ => do truncationGiven (← callBound method v [])
    | _, some s, _ => numeralInt (written v) s.toList
    | _, none, some bs =>
      numeralInt (return String.ofList (quoteBytes (bs.take maxShownNumeral))) (byteChars bs)
    | _, _, _ =>
      throw (.badType ("int() argument must be a string, a bytes-like object or a real number, " ++
        "not '" ++ Failure.briefly (h.qualifiedTypeName v) ++ "'"))

/-- The integer that a value converts to. -/
def toInt (v : Value) : Run Int := do
  match (← heap).slot? .toInt v, v.numeric? with
  | some (.assigned method), _ => do intGiven .toInt "int" (← callBound method v [])
  | some (.native _), some (.int n) => return n
  | some (.native _), some (.double bits) => truncate bits
  | _, _ => plainInt v

/-! ## Doubles -/

/-- The double that is nearest to an integer. -/
def intToDouble (n : Int) : Run UInt64 := do
  match Double.ofInt? n with
  | some bits => return bits
  | none => throw (.tooLarge "int too large to convert to float")

/-- The double that a method gives. -/
def doubleGiven (v result : Value) : Run UInt64 := do
  let h ← heap
  match result with
  | .scalar _ _ (.float bits) => return bits
  | result =>
    throw (.badType (Failure.mostBriefly (h.qualifiedTypeName v) ++ "." ++ Method.toFloat.name ++
      " returned non-float (type " ++ Failure.mostBriefly (h.qualifiedTypeName result) ++ ")"))

/-- The double that a value converts to as a number, if it does. -/
def numberToDouble? (v : Value) : Run (Option UInt64) := do
  match (← heap).slot? .toFloat v, v.numeric? with
  | some (.assigned method), _ => some <$> (do doubleGiven v (← callBound method v []))
  | some (.native _), some (.int n) => some <$> intToDouble n
  | some (.native _), some (.double bits) => return some bits
  | _, _ =>
    match ← asIndex? v with
    | some n => some <$> intToDouble n
    | none => return none

/-- The double that a value converts to. -/
def toDouble (v : Value) : Run UInt64 := do
  let read := fun (cs : List Char) => do
    match readDouble? cs with
    | some bits => return bits
    | none => throw (.badValue ("could not convert string to float: " ++ (← written v)))
  match ← numberToDouble? v, v.text?, (← heap).bytes? v with
  | some bits, _, _ => return bits
  | none, some s, _ => read s.toList
  | none, none, some bs => read (byteChars bs)
  | none, none, none =>
    throw (.badType ("float() argument must be a string or a real number, not '" ++
      Failure.briefly ((← heap).qualifiedTypeName v) ++ "'"))

/-! ## Complex numbers -/

/-- The complex number that a text writes. -/
def readComplex (v : Value) (s : String) : Run (UInt64 × UInt64) := do
  match readComplex? s.toList with
  | some c => return c
  | none =>
    if hasStrayUnderscore s.toList then
      throw (.badValue ("could not convert string to complex: " ++ (← written v)))
    throw (.badValue "complex() arg is a malformed string")

/-- The complex number that a value converts to. -/
def toComplex (v : Value) : Run (UInt64 × UInt64) := do
  let h ← heap
  match v.text?, h.slot? .toComplex v, v with
  | some s, _, _ => readComplex v s
  | none, some (.assigned method), _ =>
    match ← callBound method v [] with
    | .complex _ _ re im => return (re, im)
    | result =>
      throw (.wrongResult Method.toComplex.name "complex" ((← heap).qualifiedTypeName result))
  | none, _, .complex _ _ re im => return (re, im)
  | none, _, _ =>
    match ← numberToDouble? v with
    | some bits => return (bits, Double.zero false)
    | none =>
      throw (.badType ("complex() first argument must be a string or a number, not '" ++
        Failure.briefly (h.qualifiedTypeName v) ++ "'"))

/-! ## Bytes -/

/-- The byte that a value stands for; `outOfRange` is the text about an integer that is too small or
too large. -/
def requireByte (outOfRange : String) (v : Value) : Run UInt8 := do
  let n ← asIndex v
  if 0 ≤ n && n < 256 then return UInt8.ofNat n.toNat
  throw (.badValue outOfRange)

/-- The bytes of a given number, all of them zero. -/
def zeroBytes (typeName : String) (n : Int) : Run (List UInt8) := do
  if !(-(maxIndex : Int) ≤ n && n < maxIndex) then throw (.tooLarge (Failure.unfitIndex typeName))
  if n < 0 then throw (.badValue "negative count")
  if maxListLength ≤ n.toNat then throw .noMemory
  return List.replicate n.toNat 0

/-- The bytes that a value yields one by one.  Bytes that do not change are asked for their number
before. -/
def yieldedBytes (made : Kind) (outOfRange : String) (v : Value) : Run (List UInt8) := do
  match ← recovering Failure.isOfType (cursor v) with
  | none =>
    throw (.badType ("cannot convert '" ++
      Failure.briefly ((← heap).qualifiedTypeName v) ++ "' object to " ++ made.name))
  | some c =>
    if made == .bytes then reserve v
    each (fun _ item => requireByte outOfRange item) c

/-- The bytes that a method gives, as a value. -/
def bytesGiven (method v : Value) : Run Value := do
  let result ← callBound method v []
  if result.bytes?.isSome then return result
  throw (.wrongResult Method.toBytes.name "bytes" ((← heap).qualifiedTypeName result))

/-- The bytes that a value converts to.  `made` is the kind of bytes to be made, and `outOfRange`
the text about an integer that is not a byte. -/
def toBytes (made : Kind) (outOfRange : String) (v : Value) : Run (List UInt8) := do
  let h ← heap
  match made, h.slot? .toBytes v with
  | .bytes, some (.native _) => return (h.bytes? v).getD []
  | .bytes, some (.assigned method) => do return ((← bytesGiven method v).bytes?).getD []
  | _, _ =>
    if v.text?.isSome then throw (.badType "string argument without an encoding")
    match ← recovering Failure.isOfType (asIndex? v) with
    | some (some n) => zeroBytes (h.qualifiedTypeName v) n
    | _ =>
      match h.bytes? v with
      | some bs => return bs
      | none => yieldedBytes made outOfRange v

end Run

end ValueShape
