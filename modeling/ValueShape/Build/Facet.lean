import ValueShape.Build.Basic

/-!
# Modifiers

The three operations on the facets of a predicate.

* `Build.optional` and `Build.readonly` add a facet and keep the other one.  They return a
  predicate that has the facet already as it is.
* `Build.required` takes the optional facet off again, by returning what the predicate was built
  around.  Under a readonly layer it takes the optional layer out from underneath.
* Each of them writes its decision to the log.  Facets and the register decide; the predicate itself
  is never asked.
-/

set_option autoImplicit false

namespace ValueShape

namespace Build

open Run

/-- Writes the decision of a modifier to the log. -/
def logDecision (m : Modifier) (o : Outcome) (pred : Value) : Run Unit := do
  log (.modified m o (← displayName pred))

/-- A predicate that also accepts the absent value. -/
def optional (pred : Value) : Run Value := do
  let factory := Modifier.optional.name
  requireCallable factory "pred" pred
  if ← truth (← isOptional pred) then
    logDecision .optional .noop pred
    return pred
  let readonly ← isReadonly pred
  let name ← callName factory [pred]
  let wrapped ←
    productBy factory [pred] name (.bool true) readonly (.rule (← fresh) (.optional pred))
  logDecision .optional .wrap pred
  return wrapped

/-- A predicate for a place that must not be reassigned.  It accepts the same values. -/
def readonly (pred : Value) : Run Value := do
  let factory := Modifier.readonly.name
  requireCallable factory "pred" pred
  if ← truth (← isReadonly pred) then
    logDecision .readonly .noop pred
    return pred
  let optional ← isOptional pred
  let name ← callName factory [pred]
  let wrapped ← productBy factory [pred] name optional (.bool true) pred
  logDecision .readonly .wrap pred
  return wrapped

/-- What a predicate was built around, by its metadata. -/
def wrappedBy (metadata : Value) : Run Value := do
  item (← readAttribute metadata argumentsAttribute) (.int 0)

/-- Whether metadata names a modifier. -/
def isNamed (metadata : Value) (m : Modifier) : Run Bool := do
  equal (← factoryOf metadata) (.keptText m.name)

/-- The modifier that metadata names, if it is one that adds the optional facet or keeps it. -/
def wrapper? (metadata : Value) : Run (Option Modifier) := do
  if ← isNamed metadata .optional then return some .optional
  if ← isNamed metadata .readonly then return some .readonly
  return none

/-- Takes the optional facet off a predicate with fewer than `fuel` readonly layers. -/
def requiredUpTo : Nat → Value → Run Value
  | 0, _ => throw .tooDeep
  | fuel + 1, pred => do
    let factory := Modifier.required.name
    requireCallable factory "pred" pred
    if !(← truth (← isOptional pred)) then
      logDecision .required .noop pred
      return pred
    let metadata? ← metadata? pred
    let modifier? ← match metadata? with
      | some metadata => wrapper? metadata
      | none => pure none
    match metadata?, modifier? with
    | some metadata, some m =>
      logDecision .required .unwrap pred
      let inner ← wrappedBy metadata
      if m == .optional then return inner
      readonly (← requiredUpTo fuel inner)
    | _, _ =>
      throw (.refusal factory
        ("cannot unwrap optional predicate " ++ (← shown (← displayName pred)) ++
          ": it was not produced by make_optional"))

/-- Takes the optional facet off a predicate.  The readonly layers around it have an entry in the
register each, so there are no more of them than entries. -/
def required (pred : Value) : Run Value := do
  requiredUpTo ((← get).register.length + 1) pred

end Build

end ValueShape
