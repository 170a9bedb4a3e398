import ValueShape.Conduct.Iteration
import ValueShape.Member.Textual

/-!
# Iterators

The objects that keep where an iteration stands.

* `Run.newIterator` is an iterator over a value, by the method of a kind, and `Run.newReversed` one
  that goes through a value from its end.  What an iterator is called tells what it goes through.
* `Run.callOfIterator` carries out the methods of iterators: the next element, how many elements are
  left, and going to another place.
-/

set_option autoImplicit false

namespace ValueShape

/-- The way in which objects of a kind are gone through. -/
def Kind.traversal (k : Kind) (v : Value) : Traversal :=
  match k, v with
  | .text, .scalar (.kind .text) _ (.text s) =>
    if s.toList.all fun c => decide (c.toNat < 0x80) then .asciiText else .text
  | .text, _ => .text
  | .bytes, _ => .bytes
  | .buffer, _ => .buffer
  | .tuple, _ => .tuple
  | .dict, _ => .entries .keys
  | .orderedDict, _ | .listing _ true, _ => .ordered
  | .listing part false, _ => .entries part
  | .set, _ | .frozenSet, _ => .set
  | .queue, _ => .queue
  | .range, .range _ start stop step =>
    let fits := fun (n : Int) => -(maxIndex : Int) ≤ n && n < maxIndex
    if fits start && fits stop && fits step then .range else .longRange
  | .generic, _ => .generic
  | .list, _ | .foreign, _ => .list
  | _, _ => .generator

/-- The same way, from the end. -/
def Traversal.back : Traversal → Traversal
  | list => .listBack
  | queue => .queueBack
  | entries part => .entriesBack part
  | t => t

namespace Cursor

/-- How many elements an iteration has left, as far as its iterator tells. -/
def left (h : Heap) : Cursor → Nat
  | rest items => items.length
  | count _ _ left => left
  | elements source place | indexed source place => h.count source - place
  | elementsBack source left => if left ≤ h.count source then left else 0
  | queued _ place size _ => size - place
  | entries _ _ source place size _ | members source place size =>
    if h.count source == size then size - place else 0
  | _ => 0

/-- The iteration at another place, as far as its iterator can go there. -/
def moveTo (h : Heap) (c : Cursor) (n : Int) : Cursor :=
  let place := n.toNat
  match c with
  | elements source _ => elements source (min place (h.count source))
  | elementsBack source _ => elementsBack source (min (n + 1).toNat (h.count source))
  | count start step left =>
    let place := min place left
    count (start + step * place) step (left - place)
  | rest items => rest (items.drop place)
  | c => c

end Cursor

namespace Run

/-! ## New iterators -/

/-- An iterator that stands at the beginning of an iteration. -/
def iteratorAt (way : Traversal) (c : Cursor) : Run Value :=
  alloc (.kind (.iterator way)) (.iterator c)

/-- An iterator over a value, by the method of a kind. -/
def newIterator (k : Kind) (v : Value) : Run Value := do
  match k with
  | .iterator _ => return v
  | .text | .bytes | .tuple => iteratorAt (k.traversal v) (.elements v 0)
  | k => do iteratorAt (k.traversal v) (← nativeCursor k v)

/-- An iterator over a value.  A read-only mapping gives one over the value that it shows. -/
def iteratorOf : Value → Run Value
  | .view _ source => iteratorOf source
  | v => do
    match (← heap).slot? .iteration v, ← cursor v with
    | some (.native k), _ => newIterator k v
    | _, .iterator made => return made
    | _, c => iteratorAt .list c

/-- An iterator that goes through a value from the end, by the method of a kind. -/
def newReversed (k : Kind) (v : Value) : Run Value := do
  let h ← heap
  let count := h.count v
  let c ← match k, v with
    | .list, v => pure (.elementsBack v count)
    | .queue, v => pure (.queued v 0 count true)
    | .range, .range _ start stop step => pure (.ofRangeBack start stop step)
    | .sequence, v => pure (.indexedBack v none)
    | k, v => do
      match ← nativeCursor k v with
      | .entries part ordered source place size _ => pure (.entries part ordered source place size true)
      | c => pure c
  iteratorAt (k.traversal v).back c

/-! ## Methods -/

/-- The next element of an iterator, which has to have one. -/
def requireNext (v : Value) : Run Value := do
  match ← nextOf v with
  | some item => return item
  | none => throw .exhausted

/-- The place that an iterator is sent to. -/
def placeGiven (k : Kind) (v : Value) : Run Int := do
  match k, v.index? with
  | .iterator .range, _ => do
    let n ← asIndex v
    if -(maxIndex : Int) ≤ n && n < maxIndex then return n
    throw (.tooLarge "Python int too large to convert to C long")
  | _, some _ => indexOf v
  | _, none => throw (.badType "an integer is required")

/-- Carries out a method of iterators. -/
def callOfIterator (c : MemberCall) : Run Value := do
  let h ← heap
  match c.name, c.arguments, h.contents? c.self with
  | "__length_hint__", _, some (.iterator cursor) => newInt (cursor.left h)
  | "__setstate__", [x], some (.iterator cursor) => changing do
    let n ← placeGiven c.owner x
    overwrite c.self (.iterator (cursor.moveTo h n))
  | "close", _, _ => changing (overwrite c.self (.iterator (.rest [])))
  | _, _, _ => return .null

end Run

end ValueShape
