import ValueShape.Creation
import ValueShape.Conduct.Writing

/-!
# Taking objects apart

How an object is copied whose class has methods of its own that take part in it.

* A `Reduction` is what an object is taken apart into: how to make another one, the arguments for
  that, the state that is put into it afterwards, and the elements and entries that are added to it.
* `Run.reduction` takes an object apart by the methods of its class, and `Run.rebuild` puts a copy
  together from the parts, each of which is copied before.
* `Heap.takesPart` tells the objects that have to be copied in this way.  All others can be copied
  part by part.
-/

set_option autoImplicit false

namespace ValueShape

/-- The copies made so far, each after the value that it is a copy of. -/
abbrev Copies := List (Value × Value)

/-- What is put into a new object. -/
inductive ObjectState
  /-- Nothing. -/
  | none
  /-- Attributes. -/
  | attributes (own : List (String × Value))
  /-- What a method gives for this purpose. -/
  | given (v : Value)

/-- What an object is taken apart into. -/
structure Reduction where
  /-- How another object is made from arguments. -/
  make : List Value → Run Value
  /-- The arguments. -/
  arguments : List Value
  /-- What is put into the object. -/
  state : ObjectState
  /-- What is added to its elements. -/
  items : Option Cursor
  /-- The pairs that are added to its entries. -/
  entries : Option Cursor

namespace Heap

/-- The names of the methods that take part in copying an object. -/
def copyHooks : List String :=
  ["__copy__", "__deepcopy__", "__reduce_ex__", "__reduce__", "__getstate__", "__setstate__",
    "__getnewargs__", "__getnewargs_ex__", "__new__", "__init__", "__iter__", "items", "append",
    "__setitem__", "__getattr__", "__getattribute__"]

/-- Whether an object has methods of its own that take part in copying it. -/
def takesPart (h : Heap) (v : Value) : Bool :=
  match v with
  | .ofClass _ => false
  | v => copyHooks.any fun name =>
      (h.hook? (h.classOf v) name).isSome || (!v.isFunction && (h.assigned? v name).isSome)

/-- The contents of an object that a new one is made from. -/
def newArguments (v : Value) : List Value :=
  match v with
  | .scalar _ _ s => [.scalar (.kind s.kind) unidentified s]
  | .complex _ id re im => [.complex (.kind .complex) id re im]
  | .tuple _ id items => [.tuple (.kind .tuple) id items]
  | _ => []

end Heap

namespace Run

/-! ## Taking apart

An object may tell itself what it is to be taken apart into.  Otherwise this is made up of its
contents, its attributes, and its elements and entries. -/

/-- Makes an object without filling it. -/
def makeOnly (cls : Class) (args : List Value) : Run Value := do
  match (← heap).classSlot? .creation cls with
  | some (.assigned method) => call method (.ofClass cls :: args)
  | _ => make cls args

/-- The state of an object, which its class may tell. -/
def stateOf (v : Value) : Run ObjectState := do
  let h ← heap
  match h.hook? (h.classOf v) "__getstate__", h.assigned? v "__getstate__" with
  | _, some method => do given (← call method [])
  | some method, none => do given (← callBound method v [])
  | none, none =>
    let own := (h.ownAttributes v).filter fun a => !h.isStoredApart v a.1
    return if own.isEmpty then .none else .attributes own
where
  /-- The state that a method gives. -/
  given (state : Value) : Run ObjectState :=
    return if state.identical .null then .none else .given state

/-- The arguments that a new object is made from, which its class may tell. -/
def newArgumentsOf (v : Value) : Run (List Value) := do
  let h ← heap
  match h.hook? (h.classOf v) "__getnewargs__" with
  | some method =>
    match ← callBound method v [] with
    | .tuple _ _ items => return items
    | result =>
      throw (.badType ("__getnewargs__ should return a tuple, not '" ++
        Failure.briefly ((← heap).qualifiedTypeName result) ++ "'"))
  | none => return Heap.newArguments v

/-- The pairs that a mapping tells as its entries. -/
def entryCursor (v : Value) : Run Cursor := do openListing (← listing .items v)

/-- What an object without a method for it is taken apart into. -/
def plainReduction (v : Value) : Run Reduction := do
  let h ← heap
  let cls := h.classOf v
  let fill := callClass cls
  match h.provider? .reduction v, h.contents? v with
  | some .set, _ | some .frozenSet, _ => do
    let members ← list (← iterate v)
    return ⟨fill, [members], ← stateOf v, none, none⟩
  | some .queue, _ => do
    let state ← stateOf v
    return ⟨fill, [], state, some (← cursor v), none⟩
  | some .orderedDict, _ => do
    let state ← stateOf v
    return ⟨fill, [], state, none, some (← entryCursor v)⟩
  | some .constructionError, _ | some .assertError, _ =>
    let args := match h.part? v failureArguments with
      | some (.tuple _ _ items) => items
      | _ => []
    return ⟨fill, args, ← stateOf v, none, none⟩
  | _, contents =>
    let args ← newArgumentsOf v
    let state ← stateOf v
    let items ← match contents with
      | some (.list _) => some <$> cursor v
      | _ => pure none
    let entries ← match contents with
      | some (.dict _) => some <$> entryCursor v
      | _ => pure none
    return ⟨makeOnly cls, args, state, items, entries⟩

/-- What a method says that an object is taken apart into. -/
def reductionGiven (result : Value) : Run (Option Reduction) := do
  if result.text?.isSome then return none
  let h ← heap
  if (h.slot? .iteration result).isNone then
    throw (.badType ("copy._reconstruct() argument after * must be an iterable, not " ++
      Failure.briefly (h.qualifiedTypeName result)))
  let parts ← iterate result
  let optional := fun (v : Option Value) => v.filter fun w => !w.identical .null
  match parts with
  | f :: args :: rest =>
    let args ← iterate args
    let state := (optional rest[0]?).elim ObjectState.none .given
    let items ← (optional rest[1]?).mapM cursor
    let entries ← (optional rest[2]?).mapM cursor
    return some ⟨call f, args, state, items, entries⟩
  | _ =>
    throw (.badArguments ("_reconstruct() missing " ++
      (if parts.isEmpty then "2 required positional arguments: 'func' and 'args'"
      else "1 required positional argument: 'args'")))

/-- What an object is taken apart into; nothing if it is to stay what it is. -/
def reduction (v : Value) : Run (Option Reduction) := do
  let h ← heap
  let four := Value.int 4
  match h.assigned? v "__reduce_ex__", h.hook? (h.classOf v) "__reduce_ex__" with
  | some method, _ => do reductionGiven (← call method [four])
  | none, some method => do reductionGiven (← callBound method v [four])
  | none, none =>
    match h.slot? .reduction v with
    | some (.assigned method) => do reductionGiven (← callBound method v [])
    | some (.native .undefined) => return none
    | _ => some <$> plainReduction v

/-! ## Putting together -/

/-- Copies several values, one after the other. -/
def copyAll (copyPart : Copies → Value → Run (Value × Copies)) (copies : Copies)
    (vs : List Value) : Run (List Value × Copies) :=
  vs.foldlM (fun (done, copies) v => do
    let (w, copies) ← copyPart copies v
    return (done ++ [w], copies)) (([] : List Value), copies)

/-- Puts attributes into a new object. -/
def putAttributes (target : Value) (own : List (String × Value)) : Run Unit :=
  modifyHeap fun h => own.foldl (fun h a => h.assign target a.1 a.2) h

/-- Puts a state into a new object, by its method for that if it has one. -/
def putState (copyPart : Copies → Value → Run (Value × Copies)) (copies : Copies) (target : Value) :
    ObjectState → Run Copies
  | .none => return copies
  | .attributes own => do
    let (values, copies) ← copyAll copyPart copies (own.map (·.2))
    let own := (own.map (·.1)).zip values
    match ← setter with
    | some method =>
      let state ← newDict (.kind .dict) (own.map fun a => (.keptText a.1, a.2))
      discard (call method [state])
    | none => putAttributes target own
    return copies
  | .given state => do
    let (state, copies) ← copyPart copies state
    match ← setter with
    | some method => discard (call method [state])
    | none =>
      let es ← toEntries state
      putAttributes target (es.filterMap fun e => e.1.value.text?.map fun name => (name, e.2))
    return copies
where
  /-- The method of the new object for this purpose. -/
  setter : Run (Option Value) := do
    return (← attribute? target "__setstate__").filter fun method => match method with
      | .method _ (.field ..) _ => false
      | _ => true

/-- Puts a copy together.  `remember` tells whether the copy stands for the object from then on. -/
def rebuild (copyPart : Copies → Value → Run (Value × Copies)) (remember : Bool)
    (copies : Copies) (v : Value) (r : Reduction) : Run (Value × Copies) := do
  let (args, copies) ← copyAll copyPart copies r.arguments
  let target ← r.make args
  let copies := if remember then (v, target) :: copies else copies
  let copies ← putState copyPart copies target r.state
  let addItem := fun (copies : Copies) (item : Value) => do
    let (item, copies) ← copyPart copies item
    discard (append target item)
    return copies
  let addEntry := fun (copies : Copies) (pair : Value) => do
    let (key, value) ← unpackTwo pair
    let (key, copies) ← copyPart copies key
    let (value, copies) ← copyPart copies value
    discard (setItem target key value)
    return copies
  let copies ← r.items.elim (pure copies) (fold addItem copies)
  let copies ← r.entries.elim (pure copies) (fold addEntry copies)
  return (target, copies)

end Run

end ValueShape
