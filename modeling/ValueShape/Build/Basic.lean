import ValueShape.Outline.Unfold
import ValueShape.Provenance

/-!
# Building predicates

What all combinators have in common: they check their arguments, give the result a name that shows
the same arguments, and register which combinator was called with them.

* `Build.requireCallable` and `Build.requireCallables` accept what can serve as a predicate, and
  refuse everything else on behalf of a factory.
* `Build.isOptional` and `Build.isReadonly` are what a predicate says about its facets.
* `Build.callName` is the name of a product whose arguments are shown one by one, `Build.listName`
  that of a product whose predicates are shown as a list.
* `Build.product` makes the predicate and registers it; `Build.productBy` does so for a predicate
  that leaves the decision to another callable.  The register tells the arguments as they
  were at that moment.
-/

set_option autoImplicit false

namespace ValueShape

namespace Build

open Run

/-! ## Arguments -/

/-- Refuses a value that cannot be called, on behalf of a factory. -/
def requireCallable (factory label : String) (v : Value) : Run Unit := do
  if !(← heap).isCallable v then
    throw (.refusal factory (label ++ " must be a predicate, got " ++ (← shownClass v)))

/-- The callables in a sequence.  A text is not a sequence of callables, even if it is empty. -/
def requireCallables (factory label : String) (v : Value) : Run (List Value) := do
  let isSuitable ← if ← isOfKind v .sequence then (! ·) <$> isTextual v else pure false
  if !isSuitable then
    throw (.refusal factory
      (label ++ " must be a sequence of predicates, got " ++ (← shownClass v)))
  let check := fun (index : Nat) item => do
    requireCallable factory (label ++ "[" ++ index.repr ++ "]") item
    return item
  each check (← cursor v)

/-! ## Facets -/

/-- What a predicate says about one of its facets.  Other values have none. -/
def facetOf (facet : String) (v : Value) : Run Value := do
  if ← isOfKind v .predicate then readAttribute v facet else return .bool false

/-- What a value says about the optional facet. -/
def isOptional (v : Value) : Run Value := facetOf Modifier.optional.name v

/-- What a value says about the readonly facet. -/
def isReadonly (v : Value) : Run Value := facetOf Modifier.readonly.name v

/-! ## Names

The name of a product is put together from renderings of its arguments, under the limits that hold
inside names. -/

/-- The rendering of a value inside a name. -/
def rendering (v : Value) : Run Rendering :=
  unfold RenderOptions.default.threshold RenderOptions.default.maxDepth [] v

/-- The rendering of several values as a list inside a name. -/
def listRendering (vs : List Value) : Run Rendering := do
  let line := RenderOptions.default.threshold
  closed (.known line) .list (← vs.mapM (unfold line (RenderOptions.default.maxDepth - 1) []))

/-- An outline inside a name. -/
def layoutName (o : Outline) : List Char := o.layout RenderOptions.default.threshold

/-- The text of a rendering inside a name. -/
def embeddedText (r : Rendering) : Run String := do
  return String.ofList (layoutName (← embedded r))

/-- Arguments one by one, as they stand in a name.  They are yielded by a generator. -/
def argumentTexts (args : List Value) : Run String := do
  let items ← joinable 0 (← yielded (args.mapM rendering))
  return String.ofList (oneLine (items.map layoutName))

/-- The name of a call, with its arguments one by one. -/
def callName (factory : String) (args : List Value) : Run String := do
  return factory ++ "(" ++ (← argumentTexts args) ++ ")"

/-- The name of a call with a list of predicates and perhaps one more predicate. -/
def listName (factory : String) (preds : List Value) (rest : Option Value) : Run String := do
  let list ← listRendering preds
  let shown ← embeddedText list
  match rest with
  | none => return factory ++ "(" ++ shown ++ ")"
  | some r => return factory ++ "(" ++ shown ++ ", " ++ (← embeddedText (← rendering r)) ++ ")"

/-! ## Products

All factories end here.  A predicate is made first, and registered then with a record of what it was
made from. -/

/-- A new predicate that is decided by a callable.  The facets count by their truth values. -/
def wrap (decider : Value) (name : Name) (optional readonly : Value) : Run Value := do
  let id ← fresh
  let pred := fun facets => Value.predicate id name facets decider
  storeField (pred .none) "_check" decider
  storeField (pred .none) "_name" (.ofName name)
  let optional ← truth optional
  storeField (pred .none) "_optional" (.bool optional)
  let readonly ← truth readonly
  storeField (pred .none) "_readonly" (.bool readonly)
  return pred ⟨optional, readonly⟩

/-- A predicate with the given name and facets that is decided by a callable, registered as the
product of a factory. -/
def productBy (factory : String) (args : List Value) (name : String) (optional readonly : Value)
    (decider : Value) : Run Value := do
  let args ← Run.tuple args
  let pred ← wrap decider ⟨name, .kind .text, ← fresh⟩ optional readonly
  attach pred (← newMetadata (.kind .metadata) (.keptText factory) args)
  return pred

/-- A predicate with the given name and check but no facets, registered as the product of a
factory. -/
def product (factory : String) (args : List Value) (name : String) (check : Rule) : Run Value := do
  productBy factory args name (.bool false) (.bool false) (.rule (← fresh) check)

end Build

end ValueShape
