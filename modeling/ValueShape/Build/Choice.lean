import ValueShape.Build.Basic

/-!
# Choice combinators

Predicates that combine others about the same value, and predicates that compare a value with given
ones.

* `Build.oneOf` accepts what one of its members accepts, `Build.allOf` what all of them accept.
* `Build.literal` and `Build.literals` accept literals, which are primitive values.
* `Build.instanceOf` accepts the objects of a class.
-/

set_option autoImplicit false

namespace ValueShape

namespace Build

open Run

/-- Accepts what one of the members accepts. -/
def oneOf (preds : Value) : Run Value := do
  let factory := Operation.oneOf.name
  let members ← requireCallables factory "preds" preds
  let args ← Run.tuple members
  product factory [args] (← listName factory members none) (.oneOf members)

/-- Accepts what all members accept. -/
def allOf (preds : Value) : Run Value := do
  let factory := Operation.allOf.name
  let members ← requireCallables factory "preds" preds
  let args ← Run.tuple members
  product factory [args] (← listName factory members none) (.allOf members)

/-- Accepts one literal. -/
def literal (literal : Value) : Run Value := do
  let factory := Operation.literalOf.name
  if !(← isPrimitive literal) then
    throw (.refusal factory ("literal must be a primitive, got " ++ (← shownClass literal)))
  product factory [literal] (← callName factory [literal]) (.literal literal)

/-- Refuses the first value, counted from `index`, that is no primitive. -/
def requirePrimitives (factory : String) : Nat → List Value → Run Unit
  | _, [] => return ()
  | index, v :: vs => do
    if !(← isPrimitive v) then
      throw (.refusal factory
        ("values[" ++ index.repr ++ "] must be a primitive, got " ++ (← shownClass v)))
    requirePrimitives factory (index + 1) vs

/-- Accepts any of the literals in a sequence or set. -/
def literals (values : Value) : Run Value := do
  let factory := Operation.literalOneOf.name
  let isSuitable ← if ← isTextual values then pure false
    else isOfAnyKind values [.sequence, .setLike]
  if !isSuitable then
    throw (.refusal factory
      ("values must be a sequence or set of primitives, got " ++ (← shownClass values)))
  let args ← toTuple values
  let literals := ((← heap).contained? args).getD []
  requirePrimitives factory 0 literals
  product factory [args] (← listName factory literals none) (.literals literals)

/-- Accepts the objects of a class. -/
def instanceOf (cls : Value) : Run Value := do
  let factory := Operation.instanceOf.name
  let isClass ← isOfKind cls .kind
  match cls.class?.filter fun _ => isClass with
  | some c => product factory [cls] (← callName factory [cls]) (.instanceOf c)
  | none => throw (.refusal factory ("cls must be a class, got " ++ (← shownClass cls)))

end Build

end ValueShape
