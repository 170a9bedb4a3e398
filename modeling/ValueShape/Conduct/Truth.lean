import ValueShape.Conduct.Attribute

/-!
# Length and truth

How long a value is, whether it counts as true, and whether two values count as equal.

* `Run.asIndex?` is the integer that a value can be used as, and `Run.size` the number of elements
  of a collection.
* `Run.truth` is the truth value of a value: null, absence, zero and empty collections are false,
  unless the class has a method of its own for that.
* `Run.equal` is the truth of a comparison, and `Run.equivalent` is what containers ask of their
  parts: sameness or equality.
-/

set_option autoImplicit false

namespace ValueShape

/-- The bound of indices and lengths. -/
def maxIndex : Nat := Nat.pow 2 63

/-- The integer that a number is.  Truth values are zero and one. -/
def Value.index? : Value → Option Int
  | .bool b => some (if b then 1 else 0)
  | v => v.int?

/-- A number, as far as comparisons are concerned. -/
inductive Numeric
  | int (n : Int)
  | double (bits : UInt64)
  | complex (re im : UInt64)
deriving DecidableEq, Repr

/-- Whether a number is other than zero. -/
def Numeric.isNonzero : Numeric → Bool
  | int n => n != 0
  | double bits => !Double.isZero bits
  | complex re im => !(Double.isZero re && Double.isZero im)

/-- The number that a value is.  The truth values are zero and one. -/
def Value.numeric? : Value → Option Numeric
  | .bool b => some (.int (if b then 1 else 0))
  | .scalar _ _ (.int n) => some (.int n)
  | .scalar _ _ (.float bits) => some (.double bits)
  | .complex _ _ re im => some (.complex re im)
  | _ => none

namespace Failure

/-- The text about a value that cannot stand for an integer. -/
def noInteger (typeName : String) : String :=
  "'" ++ briefly typeName ++ "' object cannot be interpreted as an integer"

/-- The failure of a method that gives a value of the wrong class. -/
def wrongResult (method expected typeName : String) : Failure :=
  .badType (method ++ " returned non-" ++ expected ++ " (type " ++ briefly typeName ++ ")")

end Failure

namespace Run

/-! ## Integers -/

/-- The integer that a value can be used as, if there is one. -/
def asIndex? (v : Value) : Run (Option Int) := do
  match v.index? with
  | some n => return some n
  | none =>
    match (← heap).slot? .index v with
    | some (.assigned method) =>
      let result ← callBound method v []
      match result.index? with
      | some n => return some n
      | none =>
        throw (.wrongResult Method.index.name "int" ((← heap).qualifiedTypeName result))
    | _ => return none

/-- The integer that a value can be used as. -/
def asIndex (v : Value) : Run Int := do
  match ← asIndex? v with
  | some n => return n
  | none => throw (.badType (Failure.noInteger ((← heap).qualifiedTypeName v)))

/-! ## Length -/

/-- The length that a method gives. -/
def lengthGiven (result : Value) : Run Nat := do
  let n ← asIndex result
  if n < 0 then throw (.badValue (Method.length.name ++ "() should return >= 0"))
  if maxIndex ≤ n.toNat then throw (.tooLarge (Failure.unfitIndex Kind.int.name))
  return n.toNat

/-- The mapping of the caller's own making that a value is supposed to be. -/
def requireForeign (v : Value) : Run Foreign := do
  let h ← heap
  match h.foreign? v with
  | some m => return m
  | none => throw (.noAttribute (h.ownerText v) entriesAttribute)

/-- The number of elements of a collection, by the method of a kind.  An abstract kind knows of no
elements. -/
def nativeSize (k : Kind) (v : Value) : Run Nat := do
  if k.isAbstract then return 0
  if k == .foreign then return (← requireForeign v).entries.length
  let n := (← heap).count v
  if n < maxIndex then return n
  throw (.tooLarge "Python int too large to convert to C ssize_t")

/-- The number of elements of a collection. -/
def size : Value → Run Nat
  | .view _ source => size source
  | v => do
    let h ← heap
    match h.slot? .length v with
    | some (.assigned method) => do lengthGiven (← callBound method v [])
    | some (.native k) => nativeSize k v
    | none => throw (.notSized (h.qualifiedTypeName v))

/-! ## Truth

A method for the truth value comes first, and then the length.  Where there is neither, a value
counts as true. -/

/-- The truth value of a value whose kind has one. -/
def nativeTruth (h : Heap) (k : Kind) (v : Value) : Bool :=
  match k, v.numeric? with
  | .undefined, _ | .null, _ => false
  | .range, _ => h.count v != 0
  | _, n => n.all Numeric.isNonzero

/-- The truth value of a value. -/
def truth (v : Value) : Run Bool := do
  match v with
  | .null => return false
  | .bool b => return b
  | v =>
    let h ← heap
    match h.slot? .truth v, h.slot? .length v with
    | some (.assigned method), _ =>
      match ← callBound method v [] with
      | .bool b => return b
      | result =>
        throw (.badType (Method.truth.name ++ " should return bool, returned " ++
          (← heap).qualifiedTypeName result))
    | some (.native k), _ => return nativeTruth h k v
    | none, some _ => return (← size v) != 0
    | none, none => return true

@[simp] theorem truth_null : truth .null = (return false) := rfl

@[simp] theorem truth_bool (b : Bool) : truth (.bool b) = (return b) := rfl

/-! ## Equality -/

/-- Whether a comparison of two values for equality gives a true value. -/
def equal (v w : Value) : Run Bool := do truth (← compare v w)

/-- Whether two parts of containers count as the same. -/
def equivalent (v w : Value) : Run Bool := do
  if v.identical w then return true
  equal v w

end Run

end ValueShape
