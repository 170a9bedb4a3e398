import ValueShape.Build.Basic
import ValueShape.Outline.Inspect

/-!
# Sequence combinators

Predicates about lists and tuples.

* `Build.array` accepts a sequence of any length, all of whose elements satisfy one predicate.
* `Build.tuple` has one predicate per position.  With a rest predicate the sequence may go on, and
  what goes on is given to the rest predicate as a whole.
* `Build.uniformTuple` has a fixed length and one predicate for all positions.  Its product asks a
  `tuple_of` product, which is built first and registered as well.
* `Build.parameters` is for argument lists: optional predicates at the end may go without an
  argument.
* `TupleNaming` tells the plain tuples from the readonly ones, which accept the same values under
  another name.
-/

set_option autoImplicit false

namespace ValueShape

/-- The two namings of a tuple shape. -/
inductive TupleNaming
  /-- An ordinary tuple. -/
  | plain
  /-- A tuple that must not be reassigned. -/
  | readonly
deriving DecidableEq, Repr

/-- The operation that builds tuples of this naming. -/
def TupleNaming.tupleOf : TupleNaming → Operation
  | plain => .tupleOf
  | readonly => .readonlyTupleOf

/-- The operation that builds uniform tuples of this naming. -/
def TupleNaming.uniformTupleOf : TupleNaming → Operation
  | plain => .uniformTupleOf
  | readonly => .readonlyUniformTupleOf

namespace Build

open Run

/-- Accepts a list or tuple whose every element satisfies `item`. -/
def array (item : Value) : Run Value := do
  let factory := Operation.arrayOf.name
  requireCallable factory "pred" item
  product factory [item] (← callName factory [item]) (.array item)

/-- The arguments that a product with positions and a rest is registered with. -/
def positionalArgs (head : List Value) (rest : Option Value) : Run (List Value) := do
  return (← Run.tuple head) :: rest.toList

/-- Accepts a list or tuple position by position, for positions that can be called. -/
def checkedTuple (factory : String) (head : List Value) (rest : Option Value) : Run Value := do
  let args ← positionalArgs head rest
  product factory args (← listName factory head rest) (.tuple head rest)

/-- Accepts a list or tuple position by position. -/
def tuple (naming : TupleNaming) (preds : Value) (rest : Option Value) : Run Value := do
  let factory := naming.tupleOf.name
  let head ← requireCallables factory "preds" preds
  rest.forM (requireCallable factory "rest")
  checkedTuple factory head rest

/-- The length that a value stands for.  Truth values and negative integers stand for none. -/
def requireLength (factory : String) (n : Value) : Run Nat := do
  let refuse := do
    throw (.refusal factory ("n must be a non-negative int, got " ++ (← shown n)))
  let isNumber ← if ← isOfKind n .bool then pure false else isOfKind n .int
  match n.int?.filter fun _ => isNumber with
  | some length => if ← isNegative n length then refuse else return length.toNat
  | none => refuse

/-- What the class of a number makes of repeating a list with one element, if it has a method for
that. -/
def repeated? (n item : Value) : Run (Option Value) := do
  let h ← heap
  match h.hook? (h.classOf n) "__rmul__" with
  | some method =>
    let result ← callBound method n [← Run.list [item]]
    return if result.identical .unanswered then none else some result
  | none => return none

/-- Accepts a list or tuple of exactly `n` elements, each satisfying `item`. -/
def uniformTuple (naming : TupleNaming) (n item : Value) : Run Value := do
  let factory := naming.uniformTupleOf.name
  let length ← requireLength factory n
  requireCallable factory "pred" item
  let inner ← match ← repeated? n item with
    | some preds => tuple .plain preds none
    | none =>
      if maxIndex ≤ length then
        throw (.tooLarge (Failure.unfitIndex ((← heap).qualifiedTypeName n)))
      if maxListLength ≤ length then throw .noMemory
      checkedTuple Operation.tupleOf.name (List.replicate length item) none
  productBy factory [n, item] (← callName factory [n, item]) (.bool false)
    (.bool false) inner

/-- The number of arguments that cannot be left out: up to the last predicate without the optional
facet.  The predicates are given from the last one on. -/
def requiredCount : List Value → Run Nat
  | [] => return 0
  | pred :: preds => do
    if ← truth (← isOptional pred) then requiredCount preds else return preds.length + 1

/-- Accepts an argument list. -/
def parameters (preds : Value) (rest : Option Value) : Run Value := do
  let factory := Operation.parametersOf.name
  let head ← requireCallables factory "preds" preds
  rest.forM (requireCallable factory "rest")
  let required ← requiredCount head.reverse
  let args ← positionalArgs head rest
  product factory args (← listName factory head rest) (.parameters head required rest)

end Build

end ValueShape
