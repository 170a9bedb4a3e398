import ValueShape.Conduct.Order
import ValueShape.Conduct.Writing
import ValueShape.Outline.Basic

/-!
# Unfolding

`Run.unfold` turns a value into what its rendering shows, and `Run.renderValue` into the text of that.

* A container that is already on the way from the root to itself is `circular`, and a container
  below the greatest depth is `cut`; the first rule goes before the second.  The recursion is on the
  depth that remains, so it always ends.
* Everything that is no container is shown by a value: primitives by their written form, classes and
  callables by their names, other values by the name of their class.  Such a value has to be a text
  where it stands among the items of a container.
* A mapping that cannot be read is shown by the name of its class.
* `Limits` are what a rendering asks before it opens a container and before it closes one.  Asking
  does nothing under the limits that names are rendered with.
-/

set_option autoImplicit false

namespace ValueShape

/-! ## Limits -/

/-- The most characters of a line of items inside a name. -/
def defaultThreshold : Nat := 20

/-- The number of levels of containers that a name shows. -/
def defaultMaxDepth : Nat := 8

/-- The limits of a rendering. -/
structure RenderOptions where
  /-- How long the items of a container may be on one line. -/
  threshold : LineLimit
  /-- The number of levels of containers that are shown. -/
  maxDepth : Nat
deriving DecidableEq, Repr

/-- The limits that names are rendered with. -/
def RenderOptions.default : RenderOptions := ⟨.upTo defaultThreshold, defaultMaxDepth⟩

/-- What is asked in the course of a rendering. -/
structure Limits where
  /-- How long the items of a container may be on one line, as far as that is known before they are
  complete. -/
  line : LineLimit
  /-- Whether the containers inside so many others are cut, apart from the greatest depth. -/
  isCut : Nat → Run Bool
  /-- The outline of a container that is complete. -/
  close : Outline → Run Outline

/-- The limits that need not be asked for. -/
def Limits.known (line : LineLimit) : Limits := ⟨line, fun _ => return false, fun o => return o⟩

/-! ## Renderings

A text of the caller's own class stays a value until the texts are put together, since it may have
something to say about that. -/

/-- What a rendering shows of a value. -/
inductive Rendering
  /-- A value, which is a text as a rule. -/
  | value (v : Value)
  /-- The outline of a container. -/
  | outline (o : Outline)

/-- The kinds of containers, as far as rendering is concerned. -/
inductive Container
  | list
  | tuple
  | set
  | mapping
deriving DecidableEq, Repr

/-- The container that a value is.  A value that can be called is none, and what is both a mapping
and something else is a mapping. -/
def Heap.container? (h : Heap) (v : Value) : Option Container :=
  if h.isPrimitive v || h.isCallable v then none
  else if h.isOfKind v .mapping then some .mapping
  else if h.isOfKind v .setLike then some .set
  else match v, h.contents? v with
    | .tuple .., _ => some .tuple
    | _, some (.list _) => some .list
    | _, _ => none

/-- What a value is taken for when it is rendered. -/
inductive Appearance
  | primitive
  | cls
  | callable
  | container
  | other
deriving DecidableEq, Repr

/-- What a value is taken for, by its class. -/
def Heap.appearance (h : Heap) (v : Value) : Appearance :=
  if h.isPrimitive v then .primitive
  else if v.isClass then .cls
  else if h.isCallable v then .callable
  else if (h.container? v).isSome then .container
  else .other

namespace Run

/-! ## Appearance -/

/-- What a value is taken for, as far as it says so itself. -/
def appearance (v : Value) : Run Appearance := do
  let h ← heap
  if !(← asksForClass v) then return h.appearance v
  if ← isPrimitive v then return .primitive
  if ← isOfKind v .kind then return .cls
  if h.isCallable v then return .callable
  if ← isOfAnyKind v [.list, .tuple, .mapping, .setLike] then return .container
  return .other

/-- The container that a value is, as far as it says so itself. -/
def containerOf (v : Value) : Run Container := do
  if !(← asksForClass v) then return ((← heap).container? v).getD .list
  if ← isOfKind v .mapping then return .mapping
  if ← isOfKind v .setLike then return .set
  return .list

/-! ## Leaves -/

/-- The value that a value without parts is shown by, according to what it is taken for. -/
def leafOf (v : Value) : Appearance → Run Value
  | .primitive => write v
  | .cls =>
    match v with
    | .ofClass c => do identified ((← heap).classNameValue c)
    | v => readAttribute v Heap.nameField
  | .callable => displayName v
  | _ => do identified ((← heap).typeNameValue v)

/-- The failure of an item at a place that is no text. -/
def misfit (place : Nat) (v : Value) : Run Failure := do
  return .badType ("sequence item " ++ place.repr ++ ": expected str instance, " ++
    cut 80 ((← heap).qualifiedTypeName v) ++ " found")

/-- Renderings as the items of a container, which have to be texts. -/
def joinable : Nat → List Rendering → Run (List Outline)
  | _, [] => return []
  | place, .outline o :: rs => do return o :: (← joinable (place + 1) rs)
  | place, .value v :: rs => do
    match v.text? with
    | some s => return .leaf s.toList :: (← joinable (place + 1) rs)
    | none => throw (← misfit place v)

/-- A rendering inside a longer text. -/
def embedded : Rendering → Run Outline
  | .outline o => return o
  | .value v => do return .leaf (← formatted v).toList

/-! ## Containers

The members of a set are put into order by their texts.  Ordinary texts are sorted when they are
laid out; others have to be asked, which is done here. -/

/-- The outline of items between brackets. -/
def closed (limits : Limits) (make : List Outline → Outline) (items : List Rendering) :
    Run Rendering := do
  .outline <$> limits.close (make (← joinable 0 items))

/-- The text that stands for a rendering where renderings are sorted. -/
def sortKey (line : LineLimit) : Rendering → Value
  | .value v => v
  | .outline o => .text (String.ofList (o.layout line))

/-- The outline of the members of a set.  Those that are not ordinary texts are asked about their
order. -/
def closedSet (limits : Limits) (typeName : List Char) (items : List Rendering) :
    Run Rendering := do
  let h ← heap
  let keys := items.map (sortKey limits.line)
  if keys.all h.isPlainText then closed limits (.set typeName) items
  else closed limits .arranged ((← sorted keys).map .value)

/-- The rendering of an entry of a mapping. -/
def unfoldEntry (item : Value → Run Rendering) (pair : Value) : Run (Outline × Outline) := do
  let (key, value) ← unpackTwo pair
  let key ← embedded (← item key)
  return (key, ← embedded (← item value))

/-- The rendering of a container, whose items are rendered by `item`. -/
def unfoldItems (limits : Limits) (item : Value → Run Rendering) (v : Value) :
    Container → Run Rendering
  | .list | .tuple => do
    let items ← each (fun _ w => item w) (← cursor v)
    if !(← isOfKind v .tuple) then closed limits .list items
    else match items with
      | [one] => return .outline (.tuple [← embedded one])
      | items => closed limits .tuple items
  | .set => do
    -- The members are sorted, and a generator yields them for that.
    match ← each (fun _ w => yielded (item w)) (← cursor v) with
    | [] => return .outline (.set (← shownClass v).toList [])
    | items => closedSet limits ((← heap).typeName v).toList items
  | .mapping => do
    match ← guarded (readParts .items v) with
    | none => return .value (← identified ((← heap).typeNameValue v))
    | some pairs =>
      .outline <$> limits.close (.mapping (← pairs.mapM (unfoldEntry item)))

/-- The rendering of a value inside the containers `path`, showing `depth` more levels. -/
def unfoldWith (limits : Limits) (depth : Nat) (path : List Value) (v : Value) :
    Run Rendering := do
  match ← appearance v with
  | .container =>
    if path.any v.identical then return .outline .circular
    if ← limits.isCut path.length then return .outline .cut
    match depth with
    | 0 => return .outline .cut
    | depth + 1 =>
      unfoldItems limits (unfoldWith limits depth (v :: path)) v (← containerOf v)
  | a => return .value (← leafOf v a)

/-- The rendering of a value inside the containers `path`, showing `depth` more levels, under limits
that are known. -/
def unfold (line : LineLimit) (depth : Nat) (path : List Value) (v : Value) : Run Rendering :=
  unfoldWith (.known line) depth path v

/-! ## Texts -/

/-- A rendering as a value. -/
def renderingValue (limit : LineLimit) : Rendering → Run Value
  | .value v => return v
  | .outline .cut => return .keptText (String.ofList Outline.cutText)
  | .outline .circular => return .keptText (String.ofList Outline.circularText)
  | .outline o => ownText (String.ofList (o.layout limit))

/-- The rendering of a value, as a value. -/
def renderValue (o : RenderOptions) (v : Value) : Run Value := do
  renderingValue o.threshold (← unfold o.threshold o.maxDepth [] v)

end Run

end ValueShape
