import ValueShape.Outline.Unfold
import ValueShape.Provenance

/-!
# Inspection

Rendering on request, under limits of the caller's choice.

* `Run.newOptions` makes rendering options out of two natural numbers.
* `Run.inspect` renders a value.  The rendering of a class, of a callable or of an object without
  parts is a name, the very same value.
* Any value may serve as options.  Its attributes are asked for when they are needed: the greatest
  depth at each container, the line limit when the items of a container have been rendered.  Only
  the limits of ordinary options are known from the beginning: `Heap.renderOptions?`.
-/

set_option autoImplicit false

namespace ValueShape

/-! ## Comparing with limits

A limit can be a value of any class, with a comparison of its own.  So it is asked, and may answer
differently each time. -/

/-- The failure of comparing an integer with a value that cannot be ordered. -/
def Failure.notOrdered (relation typeName : String) : Failure :=
  .badType ("'" ++ relation ++ "' not supported between instances of 'int' and '" ++
    moreBriefly typeName ++ "'")

/-- The limits that rendering options of the library set, unless their class has changed what its
objects say about them, or a limit has a class of its own that compares it in another way. -/
def Heap.renderOptions? (h : Heap) (options : Value) : Option RenderOptions := do
  let isField := fun (field : String) =>
    (h.inherited? (h.classOf options) field).any Heap.isField &&
      (h.slot? .readAttribute options).isNone
  let isPlain := fun (limit : Value) => (h.provider? .atMost limit).isSome &&
    (h.provider? .atLeast limit).isSome
  match options with
  | .options _ _ threshold maxDepth =>
    if isField "threshold" && isField "max_depth" && isPlain threshold && isPlain maxDepth then
      return ⟨.upTo (← threshold.int?.bind Int.toNat?), ← maxDepth.int?.bind Int.toNat?⟩
    else none
  | _ => none

namespace Run

/-- Whether an integer stands in a relation to a limit.  The class of the limit may have a method
for the converse relation. -/
def relates (relation : String) (converse : Method) (holds : Ordering → Bool) (n : Int)
    (limit : Value) : Run Bool := do
  let h ← heap
  match h.slot? converse limit, limit.numeric?.bind (Numeric.int n).compare? with
  | some (.assigned method), _ => do truth (← callBound method limit [← identified (.int n)])
  | _, some order => return order.any holds
  | _, none => throw (.notOrdered relation (h.qualifiedTypeName limit))

/-- Whether an integer is less than zero, by the method of its class. -/
def isNegative (v : Value) (n : Int) : Run Bool := do
  match (← heap).slot? .less v with
  | some (.assigned method) => do truth (← callBound method v [← identified (.int 0)])
  | _ => return n < 0

/-! ## Options -/

/-- The name of the attribute of options that tells how long a line may be. -/
def thresholdAttribute : String := "threshold"

/-- The name of the attribute of options that tells the greatest depth. -/
def depthAttribute : String := "max_depth"

/-- Refuses a rendering limit that is not a natural number. -/
def requireLimit (options : Value) (limit : String) : Run Unit := do
  let v ← readAttribute options limit
  let isNumber ← if ← isOfKind v .bool then pure false else isOfKind v .int
  match v.int?.filter fun _ => isNumber with
  | some n => if ← isNegative v n then refuse v
  | none => refuse v
where
  /-- Refuses a limit. -/
  refuse (v : Value) : Run Unit := do throw (.badLimit limit (← shown v))

/-- New rendering options. -/
def newOptions (cls : Class) (threshold maxDepth : Value) : Run Value := do
  let options := Value.options cls (← fresh) threshold maxDepth
  storeField options thresholdAttribute threshold
  storeField options depthAttribute maxDepth
  requireLimit options thresholdAttribute
  requireLimit options depthAttribute
  return options

/-! ## Rendering -/

/-- The limits that any value sets, which is asked for them again and again. -/
def limitsOf (options : Value) : Limits where
  line := .never
  isCut depth := do
    let limit ← readAttribute options depthAttribute
    relates ">=" .atMost (·.isGE) depth limit
  close o := do
    let limit ← readAttribute options thresholdAttribute
    let isShort ← relates "<=" .atLeast (·.isLE) (o.line .always).length limit
    return .leaf (o.layout (if isShort then .always else .never))

/-- The rendering of a value under options, which default to those of names. -/
def inspect (v options : Value) : Run Value := do
  let h ← heap
  match options, h.renderOptions? options with
  | .null, _ => renderValue .default v
  | _, some o => renderValue o v
  | options, none => do
    renderingValue .never (← unfoldWith (limitsOf options) h.bound [] v)

end Run

end ValueShape
