import ValueShape.Conduct.Key
import ValueShape.Expression.Grammar

/-!
# Items

The part of a value under a key or an index.

* An `IndexRule` is what a sequence says about keys that stand for none of its places;
  `Run.requirePosition` is the place that a key stands for.
* `Run.parameterize` gives a class with a parameter.
* `Run.item` gives the part of a value.  A class takes the key as its parameter, and a mapping of a
  derived class may have a method for keys that are missing.
* `Run.dropFirst` is what remains of a sequence.
-/

set_option autoImplicit false

namespace ValueShape

/-! ## Places

Sequences have the same indices, and differ in what they say about keys that stand for no place. -/

/-- The position that an index into a sequence of the given length stands for; a negative index
counts from the end. -/
def positionOf? (length : Nat) (i : Int) : Option Nat :=
  let i := if i < 0 then i + length else i
  if 0 ≤ i && i < length then some i.toNat else none

/-- What a sequence says about keys that stand for none of its places. -/
structure IndexRule where
  /-- The text about a key that is no index, given by the name of its class. -/
  refusal : String → String
  /-- The failure of an index that is beyond all indices. -/
  unfit : String → Failure
  /-- The text about an index that is out of range. -/
  outOfRange : String

namespace IndexRule

/-- The rule of a sequence that can be cut into slices. -/
def slicing (what : String) : IndexRule where
  refusal typeName := what ++ " indices must be integers or slices, not " ++ typeName
  unfit := .indexOutOfRange
  outOfRange := what ++ " index out of range"

/-- The rule of texts. -/
def text : IndexRule where
  refusal typeName := "string indices must be integers, not '" ++ typeName ++ "'"
  unfit := .indexOutOfRange
  outOfRange := "string index out of range"

/-- The rule of bytes that do not change. -/
def bytes : IndexRule := { slicing "byte" with outOfRange := "index out of range" }

/-- The rule of queues.  A queue that is another kind of collection as well takes the key for an
integer, before it takes it for an index. -/
def queue (mixed : Bool) : IndexRule where
  refusal typeName :=
    if mixed then Failure.noInteger typeName
    else "sequence index must be integer, not '" ++ typeName ++ "'"
  unfit := if mixed then .tooLarge else .indexOutOfRange
  outOfRange := "deque index out of range"

/-- The rule of a kind of sequence. -/
def ofKind (mixed : Bool) : Kind → IndexRule
  | .text => text
  | .bytes => bytes
  | .queue => queue mixed
  | k => slicing k.name

end IndexRule

/-- Whether the objects of a class find their parts in more than one way. -/
def Heap.hasMixedItems (h : Heap) (c : Class) : Bool :=
  ((h.kinds c).filter (·.provides .item)).length != 1

namespace Run

/-- The index that a key stands for; `refusal` is the text about one that stands for none. -/
def requireIndex (refusal : String → String) (key : Value) : Run Int := do
  match ← asIndex? key with
  | some i => return i
  | none => throw (.badIndex (refusal (Failure.briefly ((← heap).qualifiedTypeName key))))

/-- The index that a key stands for, unless it is beyond all indices. -/
def fitting (unfit : String → Failure) (key : Value) (i : Int) : Run Int := do
  if -(maxIndex : Int) ≤ i && i < maxIndex then return i
  throw (unfit (Failure.unfitIndex ((← heap).qualifiedTypeName key)))

/-- The index that a key has to stand for, and that is not beyond all indices. -/
def requireFit (rule : IndexRule) (key : Value) : Run Int := do
  fitting rule.unfit key (← requireIndex rule.refusal key)

/-- The position that a key stands for in a sequence of the given length. -/
def requirePosition (rule : IndexRule) (length : Nat) (key : Value) : Run Nat := do
  match positionOf? length (← requireFit rule key) with
  | some n => return n
  | none => throw (.indexOutOfRange rule.outOfRange)

/-- The integer at an index of a range. -/
def rangeItem (start stop step : Int) (key : Value) : Run Value := do
  let index ← requireIndex (IndexRule.slicing "range").refusal key
  match positionOf? (rangeLength start stop step) index with
  | some n => return .int (start + step * n)
  | none => throw (.indexOutOfRange "range object index out of range")

/-- The part of a sequence at an index. -/
def sequenceItem (k : Kind) (v key : Value) : Run Value := do
  let h ← heap
  let items := (h.contained? v).getD []
  let rule := IndexRule.ofKind (h.hasMixedItems (h.classOf v)) k
  let n ← requirePosition rule items.length key
  match items[n]? with
  | some item => return item
  | none => throw (.indexOutOfRange rule.outOfRange)

/-! ## Classes with a parameter -/

/-- The text that is the written form of a value. -/
def written (v : Value) : Run String := do return (← write v).text?.getD ""

/-- What a parameter of the class of predicates stands for: null for its class, and a text for what
it will name, so that it has to be an expression. -/
def forwardReference (v : Value) : Run Value := do
  if v.identical .null then return .ofClass (.kind .null)
  match v.text? with
  | some s =>
    if isExpression s.toList then return v
    else throw (.badExpression
      ("Forward reference must be an expression -- got " ++ (← written v)))
  | none => return v

/-- The parameter of the class of predicates, where a tuple stands for its only member. -/
def forwardParameter (key : Value) : Run Value := do
  let wrong := fun (many : String) (n : Nat) => do
    throw (.badType ("Too " ++ many ++ " arguments for " ++
      (← written (.ofClass (.kind .predicate))) ++ "; actual " ++ n.repr ++ ", expected 1"))
  let keys := match key with
    | .tuple _ _ vs => vs
    | v => [v]
  match ← keys.mapM forwardReference with
  | [v] => return v
  | [] => wrong "few" 0
  | vs => wrong "many" vs.length

/-- The class of predicates with a parameter, which the key stands for. -/
def newParameterized (key : Value) : Run Value := do
  let parameter ← forwardParameter key
  return .generic (← fresh) false (.kind .predicate) parameter

/-- The class of predicates with a parameter.  Equal keys that can be hashed give the same
result. -/
def parameterizePredicate (key : Value) : Run Value := do
  match ← recovering Failure.isOfType (hash key) with
  | none => newParameterized key
  | some _ =>
    match ← (← heap).aliases.findM? fun made => equivalent made.1 key with
    | some made => return made.2
    | none =>
      let v ← newParameterized key
      modifyHeap fun h => { h with aliases := (key, v) :: h.aliases }
      return v

/-- A class with a parameter. -/
def parameterize (c : Class) (parameter : Value) : Run Value := do
  if c == .kind .predicate then parameterizePredicate parameter
  else return .generic (← fresh) false c parameter

/-- The failure of giving a parameter to what has one already, or never takes one. -/
def notGeneric (v : Value) : Run Value := do
  throw (.badType ((← written v) ++ " is not a generic class"))

/-- A class with a key as its parameter. -/
def classItem (c : Class) (key : Value) : Run Value := do
  let h ← heap
  let refusal := Failure.classNotSubscriptable (h.qualifiedClassName c)
  if c == .kind .kind then parameterize c key
  else match h.classSlot? .classItem c with
    | none | some (.assigned .null) => throw refusal
    | some (.assigned method) => call method [key]
    | some (.native .predicate) =>
      if c == .kind .predicate then parameterizePredicate key
      else notGeneric (.ofClass c)
    | some (.native _) => parameterize c key

/-! ## Items -/

/-- The value that a class gives for a missing key of a mapping. -/
def missingItem (v key : Value) : Run Value := do
  let h ← heap
  match h.slot? .missing v with
  | some (.assigned method) =>
    if h.classOf v == .kind .dict then throw (.missingKey (some key))
    else callBound method v [key]
  | _ => throw (.missingKey (some key))

/-- The value of the first entry whose key equals the given one.  Sameness alone is not enough. -/
def searchEntries (key : Value) : List (Value × Value) → Run (Option Value)
  | [] => return none
  | (k, v) :: es => do if ← equal k key then return some v else searchEntries key es

/-- The part of a value under a key or an index, by the method of a kind. -/
def nativeItem (k : Kind) (v key : Value) : Run Value := do
  match k, v, key with
  | .dict, v, key | .orderedDict, v, key => do
    let key ← keyed key
    match ← entryUnder? key (((← heap).entries? v).getD []) with
    | some value => return value
    | none => missingItem v key.value
  | .foreign, v, key => do
    match ← searchEntries key (← requireForeign v).entries with
    | some value => return value
    | none => throw (.missingKey (some key))
  | .mapping, _, _ => throw (.missingKey none)
  | .sequence, _, _ => throw (.indexOutOfRange "")
  | .range, .range _ start stop step, key => do identified (← rangeItem start stop step key)
  | .list, v, .slice _ start => do list (((← heap).contained? v).getD [] |>.drop start)
  | .tuple, .tuple cls id items, .slice _ start =>
    if start == 0 && cls == .kind .tuple then return .tuple cls id items
    else tuple (items.drop start)
  | k, v, key => do identified (← sequenceItem k v key)

/-- The part of a value under a key or an index. -/
def item : Value → Value → Run Value
  | .view _ source, key => item source key
  | .generic id starred c parameter, _ => notGeneric (.generic id starred c parameter)
  | v, key => do
    let h ← heap
    match h.slot? .item v, v with
    | some (.assigned method), _ => callBound method v [key]
    | none, .ofClass c => classItem c key
    | some (.native k), _ => nativeItem k v key
    | none, _ => throw (.notSubscriptable (h.qualifiedTypeName v))

/-- What remains of a sequence after its first `n` elements. -/
def dropFirst (v : Value) (n : Nat) : Run Value := do item v (.slice (← fresh) n)

end Run

end ValueShape
