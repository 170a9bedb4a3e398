import ValueShape.Conduct.Convert

/-!
# Changing containers

* `Run.append` adds an element at the end of a list, a queue or a buffer; `Heap.cannotAppend` is its
  failure for all else.
* `Run.setItem` puts a value under a key of a mapping, or at an index of a list, a queue or a
  buffer.

The class of a container may have methods of its own for both.
-/

set_option autoImplicit false

namespace ValueShape

/-- Why no element can be added to a class of growing containers, which knows how to add one but has
no container to add it to. -/
def Heap.cannotAppend (h : Heap) (k : Kind) (value : Value) : Failure :=
  if h.isOfKind value k then
    .badArguments (k.name ++ ".append() takes exactly one argument (0 given)")
  else
    .badType ("descriptor 'append' for '" ++ k.qualifiedName ++ "' objects doesn't apply to " ++
      "a '" ++ Failure.moreBriefly (h.qualifiedTypeName value) ++ "' object")

/-- Whether values of a kind that does not let its items change look at an index all the same. -/
def Kind.readsIndex : Kind → Bool
  | .object | .kind | .null | .bool | .int | .float | .complex | .slice | .iterator _ | .ellipsis
  | .function | .builtin | .method | .memberField | .computedField | .generic | .coroutine => false
  | _ => true

/-- Whether the objects of a class that does not let their items change look at an index all the
same. -/
def Class.readsIndex : Class → Bool
  | .kind k => k.readsIndex
  | .declared _ => true

namespace Run

/-- Adds an element at the end, by the method of a kind. -/
def nativeAppend (k : Kind) (v value : Value) : Run Value := do
  let h ← heap
  match h.contents? v with
  | some (.list items) => overwrite v (.list (items ++ [value]))
  | some (.queue items) => overwrite v (.queue (items ++ [value]))
  | some (.buffer bs) =>
    let b ← requireByte byteRangeText value
    overwrite v (.buffer (bs ++ [b]))
  | _ => throw (h.cannotAppend k value)
  return .null

/-- Adds an element at the end. -/
def append (v value : Value) : Run Value := do
  match ← findMethod v .append with
  | .native k => discard (nativeAppend k v value)
  | .function fn => discard (call fn [v, value])
  | .value f => discard (call f [value])
  return .null

/-- Puts a value under a key or at an index, by the method of a kind. -/
def nativeSetItem (v key value : Value) : Run Unit := do
  let h ← heap
  match h.contents? v with
  | some (.dict _) =>
    let key ← keyed key
    let es ← insertEntry key value (((← heap).entries? v).getD [])
    overwrite v (.dict es)
  | some (.list items) =>
    let rule := { IndexRule.slicing "list" with outOfRange := "list assignment index out of range" }
    let n ← requirePosition rule items.length key
    overwrite v (.list (items.set n value))
  | some (.queue items) =>
    let n ← requirePosition (IndexRule.queue false) items.length key
    overwrite v (.queue (items.set n value))
  | some (.buffer bs) =>
    let rule := IndexRule.slicing "bytearray"
    discard (requireFit rule key)
    let b ← requireByte byteRangeText value
    let n ← requirePosition rule bs.length key
    overwrite v (.buffer (bs.set n b))
  | _ => throw (.itemsFixed (h.qualifiedTypeName v))

/-- Puts a value under a key or at an index. -/
def setItem (v key value : Value) : Run Value := do
  let h ← heap
  match h.slot? .setItem v with
  | some (.assigned method) => discard (callBound method v [key, value])
  | some (.native _) => nativeSetItem v key value
  | none =>
    if (h.classOf v).readsIndex then
      (← asIndex? key).forM fun i => discard (fitting .indexOutOfRange key i)
    throw (.itemsFixed (h.qualifiedTypeName v))
  return .null

end Run

end ValueShape
