import ValueShape.Build.Basic

/-!
# Mapping combinators

Predicates about mappings.

* `Build.record` accepts a mapping of any keys, all of whose values satisfy one predicate.
* `Build.object` has one predicate per field.  A field that is missing from a mapping is checked as
  the absent value.  A strict product accepts no other keys.
* A descriptor may list a field more than once.  The product asks the fields as they were listed,
  and is registered with the mapping that they amount to.
-/

set_option autoImplicit false

namespace ValueShape

/-- The key under which strictness is registered. -/
def strictKey : String := "strict"

/-- Fields as the entries of a mapping. -/
def fieldEntries (fields : List (Name × Value)) : List (Value × Value) :=
  fields.map fun field => (.ofName field.1, field.2)

namespace Build

open Run

/-- Accepts a mapping whose every value satisfies `item`. -/
def record (item : Value) : Run Value := do
  let factory := Operation.recordOf.name
  requireCallable factory "pred" item
  product factory [item] (← callName factory [item]) (.record item)

/-- The field that an entry describes.  The key has to be a text and the value a callable. -/
def requireField (factory : String) (entry : Value) : Run (Name × Value) := do
  let (key, pred) ← unpackTwo entry
  let isText ← isOfKind key .text
  match key.name?.filter fun _ => isText with
  | none =>
    throw (.refusal factory ("descriptor keys must be strings, got " ++ (← shownClass key)))
  | some name =>
    requireCallable factory ("descriptor[" ++ (← shown key) ++ "]") pred
    return (name, pred)

/-- The fields that a mapping describes. -/
def requireFields (factory : String) (descriptor : Value) : Run (List (Name × Value)) := do
  if !(← isOfKind descriptor .mapping) then
    throw (.refusal factory ("descriptor must be a mapping, got " ++ (← shownClass descriptor)))
  let entries ← openListing (← listing .items descriptor)
  each (fun _ entry => requireField factory entry) entries

/-- Accepts a mapping whose fields satisfy their predicates, for fields that can be called. -/
def objectOfFields (fields : List (Name × Value)) (strict : Bool) : Run Value := do
  let factory := Operation.objectOf.name
  let recorded ← newView (fieldEntries fields)
  let options ← newView [(.keptText strictKey, .bool strict)]
  let allowed ← toMembers recorded
  let shown ← embeddedText (← rendering recorded)
  let name := factory ++ "(" ++ shown ++ (if strict then ", strict=True" else "") ++ ")"
  product factory [recorded, options] name
    (.object fields (if strict then some allowed else none))

/-- Accepts a mapping whose fields satisfy the predicates of a descriptor. -/
def object (descriptor strict : Value) : Run Value := do
  let fields ← requireFields Operation.objectOf.name descriptor
  match strict, ← isOfKind strict .bool with
  | .bool strict, _ => objectOfFields fields strict
  | _, _ => throw (.refusal Operation.objectOf.name "strict must be a bool")

end Build

end ValueShape
