import ValueShape.Build.Basic

/-!
# Assertions

Operations that turn the verdict of a predicate into a value or a failure.

* `Ask.demand` fails unless the value satisfies the predicate, and `Ask.ensure` returns the
  value as well.
* `Ask.maybe` returns the value, or null.
-/

set_option autoImplicit false

namespace ValueShape

namespace Ask

open Run

/-- Whether a callable accepts a value: its answer counts by its truth value. -/
def satisfies (pred x : Value) : Run Bool := do truth (← call pred [x])

/-- The failure of a value that does not satisfy a predicate, with the text of the caller or one
that names both. -/
def assertionFailure (x pred message : Value) : Run Failure := do
  let rendered ← renderValue .default x
  let name ← displayName pred
  let text ← match message with
    | .null => do
      let name ← formatted name
      pure ("expected a value that satisfies " ++ name ++ ", got " ++ (← formatted rendered))
    | message => do pure ((← plainForm message).text?.getD "")
  return .assertion text rendered name

/-- Fails unless a value satisfies a predicate, on behalf of an operation. -/
def demandFor (operation : Operation) (x pred message : Value) : Run Unit := do
  Build.requireCallable operation.name "pred" pred
  if !(← satisfies pred x) then throw (← assertionFailure x pred message)

/-- Fails unless the value satisfies the predicate. -/
def demand (x pred message : Value) : Run Value := do
  demandFor .demand x pred message
  return .null

/-- The value itself, if it satisfies the predicate; a failure otherwise. -/
def ensure (x pred message : Value) : Run Value := do
  demandFor .ensure x pred message
  return x

/-- The value itself, if it satisfies the predicate; null otherwise. -/
def maybe (x pred : Value) : Run Value := do
  Build.requireCallable Operation.maybe.name "pred" pred
  return if ← satisfies pred x then x else .null

end Ask

end ValueShape
