import ValueShape.Build.Facet
import ValueShape.Build.Mapping

/-!
# Derived shapes

Predicates that are derived from an `object_of` product, by its metadata.

* `Build.partialObject` makes every field optional, and `Build.requiredObject` takes one optional
  layer off every field.
* `Build.pickFields` keeps the fields of the given names, `Build.omitFields` the others.  Both
  refuse names that the product does not have, whatever their order and however often they are
  given.
* `Build.strictObject` makes the product strict.  All the others keep its strictness.
-/

set_option autoImplicit false

namespace ValueShape

namespace Build

open Run

/-- The metadata of an `object_of` product. -/
def objectMetadata (factory : String) (pred : Value) : Run Value := do
  let refuse := do
    throw (.refusal factory ((← shown (← displayName pred)) ++ " was not produced by " ++
      Operation.objectOf.name))
  match ← metadata? pred with
  | none => refuse
  | some metadata =>
    if ← differ (← factoryOf metadata) (.keptText Operation.objectOf.name) then refuse
    else return metadata

/-- The descriptor and the strictness that an `object_of` product is registered with. -/
def objectParts (factory : String) (pred : Value) : Run (Value × Bool) := do
  let metadata ← objectMetadata factory pred
  let (descriptor, options) ← unpackTwo (← readAttribute metadata argumentsAttribute)
  return (descriptor, ← truth (← item options (.keptText strictKey)))

/-- The `object_of` product of some of the entries of a descriptor: those for which `change` gives a
predicate, which takes the place of the one in the entry. -/
def changedObject (change : Value → Value → Run (Option Value)) (descriptor : Value)
    (strict : Bool) : Run Value := do
  let step := fun (es : List Entry) entry => do
    let (key, pred) ← unpackTwo entry
    match ← change key pred with
    | some pred => do insertEntry (← keyed key) pred es
    | none => return es
  let es ← fold step [] (← openListing (← listing .items descriptor))
  object (← alloc (.kind .dict) (.dict es)) (.bool strict)

/-- The product with every field modified. -/
def modifiedObject (factory : String) (modify : Value → Run Value) (pred : Value) :
    Run Value := do
  let (descriptor, strict) ← objectParts factory pred
  changedObject (fun _ field => some <$> modify field) descriptor strict

/-- The product with every field optional. -/
def partialObject (pred : Value) : Run Value :=
  modifiedObject Operation.partialOf.name optional pred

/-- The product with one optional layer taken off every field. -/
def requiredObject (pred : Value) : Run Value :=
  modifiedObject Operation.requiredOf.name required pred

/-- The names that do not occur in a descriptor, as texts.  A generator yields them. -/
def unknownNames (descriptor : Value) : List Value → Run (List Value)
  | [] => return []
  | key :: keys => do
    if ← contains descriptor key then unknownNames descriptor keys
    else
      let name ← plainForm key
      return name :: (← unknownNames descriptor keys)

/-- The distinct names among keys, all of which occur in a descriptor. -/
def requireKnown (factory : String) (descriptor keys : Value) : Run (List (Key Value)) := do
  if ← isOfAnyKind keys [.text, .bytes] then
    throw (.refusal factory "keys must be an iterable of strings, not a string")
  let selected ← toMembers keys
  let unknown ← yielded (unknownNames descriptor (selected.map (·.value)))
  if unknown.isEmpty then return selected
  let names := (← sorted unknown).map fun name => name.text?.getD ""
  throw (.refusal factory ("unknown keys: " ++ ", ".intercalate names))

/-- The product with the selected fields, or with the others. -/
def selectedObject (factory : String) (keep : Bool) (pred keys : Value) : Run Value := do
  let (descriptor, strict) ← objectParts factory pred
  let selected ← requireKnown factory descriptor keys
  let select := fun key field => do
    return if (← containsMember selected key) == keep then some field else none
  changedObject select descriptor strict

/-- The product with the fields of the given names. -/
def pickFields (pred keys : Value) : Run Value :=
  selectedObject Operation.pickOf.name true pred keys

/-- The product without the fields of the given names. -/
def omitFields (pred keys : Value) : Run Value :=
  selectedObject Operation.omitOf.name false pred keys

/-- The product in strict form. -/
def strictObject (pred : Value) : Run Value := do
  let (descriptor, _) ← objectParts Operation.strictOf.name pred
  object descriptor (.bool true)

end Build

end ValueShape
