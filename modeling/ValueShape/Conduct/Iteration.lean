import ValueShape.Conduct.Item

/-!
# Iteration

What a value yields, one element after the other.

* Lists, queues and buffers are read by place, so elements that are added meanwhile are seen; a
  queue, a set or a mapping that changes its size refuses to go on.  An iterator keeps where it
  stands, and is used up.
* `Run.cursor` starts an iteration, and `Run.next` goes one element further.  Numbers and texts that
  iteration computes are identified on the way.
* `Run.fold` and `Run.each` go through all elements, and `Run.allFrom` tests them up to the first
  one that fails.
* `Run.iterate` puts all elements into a list.  The value is asked for its length before.
* `Run.unpackTwo` gives the two parts of a pair.
-/

set_option autoImplicit false

namespace ValueShape

/-- The length that no collection reaches. -/
def maxListLength : Nat := Nat.pow 2 40

/-- A bound of the number of elements that are still to come, as far as that is known. -/
def Cursor.remaining (h : Heap) : Cursor → Nat
  | rest items => items.length
  | count _ _ left => left
  | elements source _ | queued source .. | entries _ _ source .. | members source ..
  | indexed source _ => h.count source
  | elementsBack _ left => left
  | iterator _ => 0
  | indexedBack _ left => left.getD 0
  | unread _ mapping => h.count mapping
  | parts _ _ keys => keys.remaining h

namespace Failure

/-- The failure of an iteration over a queue that has changed. -/
def queueChanged : Failure := .changedMeanwhile "deque mutated during iteration"

/-- The failure of an iteration over a set that has changed its size. -/
def setChanged : Failure := .changedMeanwhile "Set changed size during iteration"

/-- The failure of an iteration over a mapping that has changed its size. -/
def mappingChanged (ordered : Bool) : Failure :=
  .changedMeanwhile
    (if ordered then "OrderedDict mutated during iteration"
    else "dictionary changed size during iteration")

/-- The failure of an iteration over what is no iterator. -/
def notIterator (typeName : String) : Failure :=
  .badType ("iter() returned non-iterator of type '" ++ moreBriefly typeName ++ "'")

end Failure

namespace Run

/-! ## Starting -/

/-- The iteration that an iterator stands for. -/
def cursorOf (iterator : Value) : Run Cursor := do
  let h ← heap
  if (h.slot? .next iterator).isSome then return .iterator iterator
  throw (.notIterator (h.qualifiedTypeName iterator))

/-- An iteration over a value, by the method of a kind.  An abstract kind yields nothing, apart from
the sequences, which yield what they have at their places. -/
def nativeCursor (k : Kind) (v : Value) : Run Cursor := do
  let h ← heap
  match k, v with
  | .sequence, v => return .indexed v 0
  | .iterator _, v => return .iterator v
  | .list, v | .buffer, v => return .elements v 0
  | .queue, v => return .queued v 0 (h.count v) false
  | .dict, v => return .entries .keys false v 0 (h.count v) false
  | .orderedDict, v => return .entries .keys true v 0 (h.count v) false
  | .set, v => return .members v 0 (h.count v)
  | .listing part ordered, v =>
    match h.contents? v with
    | some (.listing _ source) => return .entries part ordered source 0 (h.count source) false
    | _ => return .rest []
  | .range, .range _ start stop step => return .ofRange start stop step
  | .foreign, v => return .rest ((← requireForeign v).entries.map (·.1))
  | k, v => return .rest (if k.isAbstract then [] else (h.contained? v).getD [])

/-- An iteration over a value; `refusal` is the failure of a value that yields nothing. -/
def cursorOr (refusal : String → Failure) : Value → Run Cursor
  | .view _ source => cursorOr .notIterable source
  | v => do
    let h ← heap
    match h.slot? .iteration v, h.slot? .item v with
    | some (.assigned .null), _ => throw (.notIterable (h.qualifiedTypeName v))
    | some (.assigned method), _ => do cursorOf (← callBound method v [])
    | some (.native k), _ => nativeCursor k v
    | none, some (.assigned _) => return .indexed v 0
    | none, _ => throw (refusal (h.qualifiedTypeName v))

/-- An iteration over a value. -/
def cursor (v : Value) : Run Cursor := cursorOr .notIterable v

/-! ## Going on

A cursor is a value, and a step gives another cursor.  An iterator keeps its cursor in a cell, so a
step is seen by all who go through it. -/

/-- The part of an entry that an iteration yields. -/
def partOf (part : Part) (key value : Value) : Run Value :=
  match part with
  | .keys => return key
  | .values => return value
  | .items => tuple [key, value]

/-- The next key of a mapping whose keys are read by `next`, together with what it is read for. -/
def nextPart (part : Part) (mapping : Value) (next : Run (Option (Value × Cursor))) :
    Run (Option (Value × Cursor)) := do
  match ← next with
  | none => return none
  | some (key, keys) =>
    let value ← match part with
      | .keys => pure key
      | part => do partOf part key (← item mapping key)
    return some (value, .parts part mapping keys)

/-- The next entry of a mapping, read for one of its parts. -/
def nextEntry (part : Part) (ordered : Bool) (source : Value) (place size : Nat) (back : Bool) :
    Run (Option (Value × Cursor)) := do
  let es := ((← heap).entries? source).getD []
  if es.length != size && !(ordered && size ≤ place) then throw (.mappingChanged ordered)
  if size ≤ place then return none
  match es[if back then es.length - 1 - place else place]? with
  | some (key, value) =>
    return some (← partOf part key.value value,
      .entries part ordered source (place + 1) size back)
  | none => return none

/-- The next element of an iteration that does not lead to another one. -/
def nextElement : Cursor → Run (Option (Value × Cursor))
  | .rest (item :: items) => return some (item, .rest items)
  | .rest [] => return none
  | .count start step left =>
    return if 0 < left then some (.int start, .count (start + step) step (left - 1)) else none
  | .elements source place => do
    return ((((← heap).contained? source).getD [])[place]?).map fun item =>
      (item, .elements source (place + 1))
  | .elementsBack source left => do
    if left = 0 then return none
    return ((((← heap).contained? source).getD [])[left - 1]?).map fun item =>
      (item, .elementsBack source (left - 1))
  | .queued source place size back => do
    let items := ((← heap).contained? source).getD []
    if items.length != size then throw .queueChanged
    if size ≤ place then return none
    return (items[if back then size - 1 - place else place]?).map fun item =>
      (item, .queued source (place + 1) size back)
  | .entries part ordered source place size back => nextEntry part ordered source place size back
  | .members source place size => do
    let items := ((← heap).contained? source).getD []
    if items.length != size then throw .setChanged
    return (items[place]?).map fun item => (item, .members source (place + 1) size)
  | .indexed source index => do
    let ends := fun (e : Failure) => e.isOfIndex || e.isOfEnd
    let found ← recovering ends do item source (← identified (.int index))
    return found.map fun item => (item, .indexed source (index + 1))
  | .indexedBack source left => do
    let left ← match left with
      | some n => pure n
      | none => size source
    if left = 0 then return none
    return some (← item source (← identified (.int ((left : Int) - 1))),
      .indexedBack source (some (left - 1)))
  | .iterator _ | .unread .. | .parts .. => return none

/-- Whether an iteration that has failed goes on failing. -/
def failsForGood : Cursor → Bool
  | .queued .. | .members .. => true
  | .entries _ ordered .. => !ordered
  | _ => false

mutual

/-- The next element of an iteration, as a value that can be told from others, and where the
iteration stands after that.  Iterations lead to each other at most `fuel` times. -/
def nextUpTo : Nat → Cursor → Run (Option (Value × Cursor))
  | 0, _ => throw .tooDeep
  | fuel + 1, .parts part mapping keys => nextPart part mapping (nextUpTo fuel keys)
  | fuel + 1, .unread part mapping => do
    let keys ← cursor mapping
    nextPart part mapping (nextUpTo fuel keys)
  | fuel + 1, .iterator source => do
    return (← nextOfUpTo fuel source).map fun item => (item, .iterator source)
  | _, c => do
    match ← nextElement c with
    | some (item, c) => return some (← identified item, c)
    | none => return none

/-- The next element of an iterator, which keeps where it stands.  One that has come to its end
stays there. -/
def nextOfUpTo : Nat → Value → Run (Option Value)
  | 0, _ => throw .tooDeep
  | fuel + 1, v => do
    let h ← heap
    match h.slot? .next v, h.contents? v with
    | some (.assigned method), _ => recovering Failure.isOfEnd (callBound method v [])
    | _, some (.iterator c) =>
      match ← tryCatch (Except.ok <$> nextUpTo fuel c) fun e => return Except.error e with
      | .ok (some (item, c)) =>
        overwrite v (.iterator c)
        return item
      | .ok none =>
        overwrite v (.iterator (.rest []))
        return none
      | .error e =>
        if !failsForGood c then overwrite v (.iterator (.rest []))
        throw e
    | _, _ => throw (.notIterator (h.qualifiedTypeName v))

end

/-- How many iterations may lead to each other. -/
def maxChain : Nat := 1000

/-- The next element of an iteration, and where the iteration stands after that. -/
def next (c : Cursor) : Run (Option (Value × Cursor)) := nextUpTo maxChain c

/-- The next element of an iterator. -/
def nextOf (v : Value) : Run (Option Value) := nextOfUpTo maxChain v

/-! ## All elements

Elements may be added while an iteration goes on, and it need not come to an end by itself.  The
fuel is as much as there can be elements at all. -/

/-- Goes through elements one after the other, at most `fuel` of them, with a result that each of
them changes. -/
def foldUpTo {α : Type} (step : α → Value → Run α) : Nat → α → Cursor → Run α
  | 0, _, _ => throw .noMemory
  | fuel + 1, a, c => do
    match ← next c with
    | none => return a
    | some (v, c) => do foldUpTo step fuel (← step a v) c

/-- Tests elements one after the other, at most `fuel` of them, up to the first one that fails. -/
def allUpTo (test : Value → Run Bool) : Nat → Cursor → Run Bool
  | 0, _ => throw .noMemory
  | fuel + 1, c => do
    match ← next c with
    | none => return true
    | some (v, c) => if ← test v then allUpTo test fuel c else return false

/-- How many elements an iteration may have: those that it has now, and as many more as there is
room for. -/
def limit (c : Cursor) : Run Nat := do return c.remaining (← heap) + maxListLength

/-- Goes through the elements of an iteration, with a result that each of them changes. -/
def fold {α : Type} (step : α → Value → Run α) (a : α) (c : Cursor) : Run α := do
  foldUpTo step (← limit c) a c

/-- Uses the elements of an iteration one after the other.  The use knows the place of its
element. -/
def each {α : Type} (use : Nat → Value → Run α) (c : Cursor) : Run (List α) := do
  let step := fun (done : Nat × List α) v => do return (done.1 + 1, (← use done.1 v) :: done.2)
  return (← fold step (0, []) c).2.reverse

/-- Whether all elements of an iteration pass a test.  It ends at the first one that fails. -/
def allFrom (test : Value → Run Bool) (c : Cursor) : Run Bool := do
  allUpTo test (← limit c) c

/-- Whether one element of an iteration passes a test.  It ends there. -/
def anyFrom (test : Value → Run Bool) (c : Cursor) : Run Bool := do
  return !(← allFrom (fun v => do return !(← test v)) c)

/-- The elements of an iteration. -/
def elements (c : Cursor) : Run (List Value) := each (fun _ v => return v) c

/-! ## Length hints -/

/-- The number of elements that a method guesses. -/
def hintGiven (result : Value) : Run Nat := do
  match result.index? with
  | some n =>
    if n < 0 then throw (.badValue (Method.lengthHint.name ++ "() should return >= 0"))
    return n.toNat
  | none =>
    throw (.badType (Method.lengthHint.name ++ " must be an integer, not " ++
      Failure.moreBriefly ((← heap).qualifiedTypeName result)))

/-- The number of elements of a value, as far as it tells. -/
def lengthHint (v : Value) : Run Nat := do
  let h ← heap
  let size? ← if (h.slot? .length v).isSome then recovering Failure.isOfType (size v) else pure none
  match size?, h.slot? .lengthHint v with
  | some n, _ => return n
  | none, some (.assigned method) =>
    match ← recovering Failure.isOfType (callBound method v []) with
    | some result => hintGiven result
    | none => return 0
  | none, _ => return 0

/-- Makes room for the elements of a value. -/
def reserve (v : Value) : Run Unit := do
  if maxListLength ≤ (← lengthHint v) then throw .noMemory

/-- What iteration over a value yields. -/
def iterate (v : Value) : Run (List Value) := do
  let c ← cursor v
  reserve v
  elements c

/-- What iteration over a value yields, as a tuple.  A tuple of the built-in class stays the one it
is. -/
def toTuple (v : Value) : Run Value := do
  match v with
  | .tuple (.kind .tuple) .. => return v
  | v => do tuple (← iterate v)

/-! ## Pairs -/

/-- The two parts of a pair. -/
def unpackTwo (v : Value) : Run (Value × Value) := do
  let c ← cursorOr .notUnpackable v
  match ← next c with
  | none => throw (.tooFewParts 0)
  | some (a, c) =>
    match ← next c with
    | none => throw (.tooFewParts 1)
    | some (b, c) =>
      match ← next c with
      | none => return (a, b)
      | some _ => throw .tooManyParts

end Run

end ValueShape
