import ValueShape.Member.Concatenation

/-!
# Methods of sequences

`Run.callOfSequence` carries out the methods of lists, tuples, queues and ranges, and of sequences by
class alone, apart from those that operations are carried out by.

* `Run.foundPlace?` and `Run.countOf` look for elements that equal a value, `Run.soughtBetween` between
  two bounds.
* `Run.takeOut` takes an element out of a list or a queue, and `rotated` moves elements around the
  end of a queue.
-/

set_option autoImplicit false

namespace ValueShape

/-- Elements moved to the right by a number of places, around the end. -/
def rotated {α : Type} (items : List α) (n : Int) : List α :=
  let shift := (n % items.length).toNat
  items.drop (items.length - shift) ++ items.take (items.length - shift)

theorem length_rotated {α : Type} (items : List α) (n : Int) :
    (rotated items n).length = items.length := by
  simp [rotated]

namespace Run

/-! ## Looking for elements -/

/-- The place of the first element that equals a value. -/
def foundPlace? (x : Value) : Nat → List Value → Run (Option Nat)
  | _, [] => return none
  | place, v :: vs => do if ← equivalent v x then return some place else foundPlace? x (place + 1) vs

/-- How many elements equal a value. -/
def countOf (x : Value) (vs : List Value) : Run Value := do
  newInt (← vs.filterM fun v => equivalent v x).length

/-- The text about an element of a sequence that is not there. -/
def notAmong (c : MemberCall) (x : Value) : Run Failure := do
  match c.owner, c.name with
  | .list, "remove" => return .badValue "list.remove(x): x not in list"
  | .tuple, _ => return .badValue "tuple.index(x): x not in tuple"
  | k, _ => return .badValue ((← written x) ++ " is not in " ++ k.name)

/-- The place of an element that equals a value, between the bounds that a call is limited to. -/
def soughtBetween (c : MemberCall) (items : List Value) : Run Value := do
  let x := c.arguments.head?.getD .null
  let bound := fun (v : Value) => do
    let n ← requireBound v
    return (if n < 0 then max 0 (n + items.length) else n).toNat
  let start ← (c.arguments[1]?).elim (pure 0) bound
  let stop ← (c.arguments[2]?).elim (pure items.length) bound
  match ← foundPlace? x start ((items.take stop).drop start) with
  | some n => newInt n
  | none => throw (← notAmong c x)

/-- The place of a value in a range, or how often it occurs.  Values other than integers are compared
one by one. -/
def callOfRange (c : MemberCall) (start stop step : Int) : Run Value := do
  let x := c.arguments.head?.getD .null
  let n? := match x with
    | .scalar (.kind .int) _ (.int n) => some n
    | x => if x matches .bool _ then x.index? else none
  match c.name, n? with
  | "__reduce__", _ => do
    tuple [.ofClass (.kind .range), ← tuple [← newInt start, ← newInt stop, ← newInt step]]
  | "count", some n => newInt (if isInRange start stop step n then 1 else 0)
  | "count", none => do countOf x (← elements (.ofRange start stop step))
  | _, some n =>
    if isInRange start stop step n then newInt ((n - start) / step)
    else throw (← notAmong c x)
  | _, none => do
    match ← foundPlace? x 0 (← elements (.ofRange start stop step)) with
    | some place => newInt place
    | none => throw (.badValue "sequence.index(x): x not in sequence")

/-! ## Sequences by class alone -/

/-- The place of an element among those at the indices from `index` up to but not including `stop`,
of which at most `fuel` are looked at. -/
def indexedPlace? (v x : Value) (stop : Option Int) : Nat → Int → Run (Option Int)
  | 0, _ => throw .noMemory
  | fuel + 1, index => do
    if stop.any fun n => decide (n ≤ index) then return none
    match ← recovering Failure.isOfIndex do item v (← newInt index) with
    | none => return none
    | some found =>
      if ← equivalent found x then return some index
      else indexedPlace? v x stop fuel (index + 1)

/-- Carries out a method of sequences that know how to find an element by its index. -/
def callOfIndexed (c : MemberCall) : Run Value := do
  let x := c.arguments.head?.getD .null
  let bound (least : Int → Int) (v : Value) : Run Int := do
    let n ← asIndex v
    if n < 0 then return least (n + (← size c.self)) else return n
  match c.name with
  | "count" => countOf x (← elements (← cursor c.self))
  | _ => do
    let start ← (c.arguments[1]?).elim (pure 0) (bound (max 0))
    let stop ← (c.arguments[2]?.filter fun v => !v.identical .null).mapM (bound id)
    match ← indexedPlace? c.self x stop maxListLength start with
    | some n => newInt n
    | none => throw (.badValue "")

/-! ## Changing -/

/-- Takes an element out of a list or a queue. -/
def takeOut (v : Value) (items : List Value) (place : Nat) : Run Value := do
  replaceItems v (items.eraseIdx place)
  return items[place]?.getD .null

/-- Takes the last element out of a list, or the one at an index. -/
def popItem (c : MemberCall) (items : List Value) : Run Value := do
  let index ← (c.arguments.head?).elim (pure (-1)) indexOf
  if items.isEmpty then throw (.indexOutOfRange "pop from empty list")
  match positionOf? items.length index with
  | some place => takeOut c.self items place
  | none => throw (.indexOutOfRange "pop index out of range")

/-- Takes an element out of a queue, at one of its ends. -/
def popEnd (c : MemberCall) (items : List Value) (place : Nat) : Run Value := do
  if items.isEmpty then throw (.indexOutOfRange "pop from an empty deque")
  takeOut c.self items place

/-- Deletes the element at an index. -/
def deleteElement (v : Value) (items : List Value) (rule : IndexRule) (key : Value) : Run Unit := do
  let n ← requirePosition rule items.length key
  discard (takeOut v items n)

/-- Carries out a method by which a list or a queue is changed. -/
def changeSequence (c : MemberCall) (items : List Value) : Run Value := do
  let put := fun (items : List Value) => changing (replaceItems c.self items)
  match c.owner, c.name, c.arguments with
  | _, "append", [x] => put (items ++ [x])
  | _, "appendleft", [x] => put (x :: items)
  | _, "clear", _ => put []
  | _, "extend", [x] => changing (extendItems c.self x)
  | _, "extendleft", [x] => changing (extendBy (fun items added => added ++ items) c.self x)
  | _, "insert", [place, x] => do
    let n ← indexOf place
    let n := (if n < 0 then max 0 (n + items.length) else n).toNat
    put (items.take n ++ x :: items.drop n)
  | .queue, "pop", _ => popEnd c items (items.length - 1)
  | _, "popleft", _ => popEnd c items 0
  | _, "pop", _ => popItem c items
  | _, "remove", [x] => do
    match ← foundPlace? x 0 items with
    | some n => put (items.eraseIdx n)
    | none => throw (← notAmong c x)
  | _, "reverse", _ => put items.reverse
  | _, "rotate", args => do put (rotated items (← (args.head?).elim (pure 1) indexOf))
  | _, "sort", [] => do put (← sorted items)
  | _, "sort", _ => throw (.badArguments "sort() takes no positional arguments")
  | .list, "__delitem__", [key] =>
    let rule := { IndexRule.slicing "list" with outOfRange := "list assignment index out of range" }
    changing (deleteElement c.self items rule key)
  | .queue, "__delitem__", [key] => do
    let key ← newInt (← fitting .tooLarge key (← asIndex key))
    changing (deleteElement c.self items (IndexRule.queue false) key)
  | _, _, _ => return .null

/-! ## Methods -/

/-- Carries out a method of lists, tuples, queues and ranges. -/
def callOfSequence (c : MemberCall) : Run Value := do
  let items := ((← heap).contained? c.self).getD []
  match c.owner, c.name, c.self, callOfConcatenation? c with
  | _, _, _, some act => act
  | .range, _, .range _ start stop step, _ => callOfRange c start stop step
  | .sequence, _, _, _ => callOfIndexed c
  | .queue, "copy", v, _ | .queue, "__copy__", v, _ => copiedQueue v
  | _, "copy", _, _ => list items
  | _, "count", _, _ => countOf (c.arguments.head?.getD .null) items
  | _, "index", _, _ => soughtBetween c items
  | .tuple, "__getnewargs__", _, _ => do tuple [← tuple items]
  | _, _, _, _ => changeSequence c items

end Run

end ValueShape
