import ValueShape.Build.Basic

/-!
# Predicates of the caller

What a caller adds to the library: predicates, and combinators that build them.

* `Build.custom` wraps a callable in a predicate, with a name and facets of the caller's choice.
  Nothing is registered for it.
* `Build.customProduct` registers it as well, under a factory name of the caller's choice.
* `Build.requireFor` and `Build.requireAllFor` check arguments on behalf of any factory.
* `Build.attachValue` registers metadata for a value of the caller's choice.
-/

set_option autoImplicit false

namespace ValueShape

namespace Build

open Run

/-! ## New predicates

What a caller can do without the factories: make a predicate by hand, with facets, and with metadata
of its own. -/

/-- A predicate of the caller's own making.  The facets count by their truth values. -/
def custom (check name optional readonly : Value) : Run Value := do
  if !(← heap).isCallable check then
    throw (.refusal "Predicate" ("check must be callable, got " ++ (← shownClass check)))
  match name.name?, ← isName name with
  | some name, true => wrap check name optional readonly
  | _, _ => throw (.refusal "Predicate" "name must be a non-empty string")

/-- The name of a product of a factory of the caller's own. -/
def customName (factory : Value) (args : List Value) : Run Value := do
  let shown ← formatted factory
  ownText (← callName shown args)

/-- A predicate of the caller's own making, registered as the product of a factory of the caller's
own.  Null in place of the name stands for one that shows the arguments. -/
def customProduct (factory args check name optional readonly : Value) : Run Value := do
  let args ← toTuple args
  let name ← match name with
    | .null => do customName factory (((← heap).contained? args).getD [])
    | name => pure name
  let pred ← custom check name optional readonly
  attach pred (← newMetadata (.kind .metadata) factory args)
  return pred

/-! ## Arguments -/

/-- Refuses a value that cannot be called, on behalf of a factory and under a label of the caller's
own. -/
def requireFor (factory v label : Value) : Run Value := do
  if (← heap).isCallable v then return v
  let label ← formatted label
  refuse factory (label ++ " must be a predicate, got " ++ (← shownClass v))

/-- The callables in a sequence, as a tuple, on behalf of a factory and under a label of the
caller's own. -/
def requireAllFor (factory values label : Value) : Run Value := do
  let isSuitable ← if ← isOfKind values .sequence then (! ·) <$> isTextual values else pure false
  if !isSuitable then
    let label ← formatted label
    refuse factory (label ++ " must be a sequence of predicates, got " ++ (← shownClass values))
  let check := fun (index : Nat) item => do
    requireFor factory item (.text ((← formatted label) ++ "[" ++ index.repr ++ "]"))
  Run.tuple (← each check (← cursor values))

/-! ## Metadata -/

/-- Attaches metadata to a value. -/
def attachValue (v metadata : Value) : Run Value := do
  attach v metadata
  return v

end Build

end ValueShape
