import ValueShape.Conduct.Equality

/-!
# Order

Whether one value is less than another, and values in increasing order.

* `Run.orderOnce` asks both values, by the methods of their classes; a value of a derived class is
  asked first.  What an assigned method says is taken as it is.
* `Run.nativeOrder` is what the method of a kind says, which may be nothing.  Texts, numbers and
  bytes can be compared with their own kind, sequences are compared part by part, and a set is less
  than another one if it is a part of it.
* `Run.sorted` puts values into increasing order.  Only those further back are asked whether they
  are less than those before: first up to where the values stop rising or falling, and then each of
  the others in the middle of what remains of its range.
-/

set_option autoImplicit false

namespace ValueShape

/-! ## Numbers -/

/-- The order of a double, given by its bits, and a fraction; nothing if there is none. -/
def Double.compareFraction? (bits : UInt64) (num : Int) (den : Nat) : Option Ordering :=
  match Double.decode bits with
  | .nan => none
  | .infinite negative => some (if negative then .lt else .gt)
  | .finite negative m q =>
    let (num', den') := Double.fraction negative m q
    some (compare (num' * den) (num * den'))

/-- The order of two doubles, given by their bits; nothing if there is none. -/
def Double.compare? (a b : UInt64) : Option Ordering :=
  match Double.decode b with
  | .nan => none
  | .infinite negative =>
    if Double.isNaN a then none
    else if Double.eq a b then some .eq
    else some (if negative then .gt else .lt)
  | .finite negative m q =>
    let (num, den) := Double.fraction negative m q
    Double.compareFraction? a num den

/-- The order of two numbers.  Complex numbers have none, and neither has what is no number. -/
def Numeric.compare? : Numeric → Numeric → Option (Option Ordering)
  | .int m, .int n => some (some (compare m n))
  | .int m, .double b => some ((Double.compareFraction? b m 1).map Ordering.swap)
  | .double a, .int n => some (Double.compareFraction? a n 1)
  | .double a, .double b => some (Double.compare? a b)
  | _, _ => none

/-! ## Orders -/

namespace Method

/-- The order that the second of two values stands in to the first, where the first stands in the
given one to the second. -/
def mirrored : Method → Method
  | less => .greater
  | atMost => .atLeast
  | greater => .less
  | atLeast => .atMost
  | m => m

/-- The sign of an order. -/
def sign : Method → String
  | less => "<"
  | atMost => "<="
  | greater => ">"
  | _ => ">="

/-- Whether an order holds of two things, by how they compare. -/
def holds : Method → Ordering → Bool
  | less, o => o == .lt
  | atMost, o => o != .gt
  | greater, o => o == .gt
  | _, o => o != .lt

/-- Whether an order holds of things that are equal. -/
def isReflexive (m : Method) : Bool := m.holds .eq

theorem holds_mirrored {m : Method} (hm : m ∈ [less, atMost, greater, atLeast]) (o : Ordering) :
    m.mirrored.holds o.swap = m.holds o := by
  simp only [List.mem_cons, List.not_mem_nil, or_false] at hm
  rcases hm with rfl | rfl | rfl | rfl <;> cases o <;> rfl

end Method

/-- Whether a number stands in an order to a value, as far as the number knows.  A double knows
integers as well. -/
def numbersOrdered? (m : Method) (v w : Value) : Option Bool := do
  match ← v.numeric?, ← w.numeric? with
  | .int a, .int b => return m.holds (compare a b)
  | .double a, b => return ((← Numeric.compare? (.double a) b).map m.holds).getD false
  | _, _ => none

/-- How two lists compare whose elements have an order: by the first difference. -/
def compareLists {α : Type} (cmp : α → α → Ordering) : List α → List α → Ordering
  | [], [] => .eq
  | [], _ :: _ => .lt
  | _ :: _, [] => .gt
  | a :: as, b :: bs => (cmp a b).then (compareLists cmp as bs)

/-- Whether a value stands in an order to another one, where no part of it has to be asked. -/
def Heap.plainOrder? (h : Heap) (m : Method) (k : Kind) (v w : Value) : Option Bool :=
  let ofBytes := fun (bs cs : List UInt8) => m.holds (compareLists compare bs cs)
  match k with
  | .int | .float => numbersOrdered? m v w
  | .text => do return m.holds (compare (← v.text?) (← w.text?))
  | .bytes => do return ofBytes (← v.bytes?) (← w.bytes?)
  | .buffer => do return ofBytes (← h.bytes? v) (← h.bytes? w)
  | .slice =>
    match v, w with
    | .slice _ n, .slice _ n' => some (m.holds (compare n n'))
    | _, _ => none
  | _ => none

/-- Whether a value is a text of a class that compares texts in the ordinary way. -/
def Heap.isPlainText (h : Heap) (v : Value) : Bool :=
  match v with
  | .scalar (.kind .text) _ (.text _) => true
  | v => v.text?.isSome && h.provider? .less v == some .text && h.provider? .greater v == some .text

namespace Run

/-! ## Parts -/

/-- Whether a sequence stands in an order to another one, which is decided by the first parts that
differ. -/
def orderedParts (m : Method) : List Value → List Value → Run Value
  | v :: vs, w :: ws => do if ← equivalent v w then orderedParts m vs ws else order m v w
  | vs, ws => return .bool (m.holds (Ord.compare vs.length ws.length))

/-- Whether two values stand in an order by their parts, if both have them. -/
def orderedIfBoth (m : Method) : Option (List Value) → Option (List Value) → Run (Option Value)
  | some vs, some ws => some <$> orderedParts m vs ws
  | _, _ => return none

/-- Whether what one iteration yields stands in an order to what another one yields, at most `fuel`
elements. -/
def orderedCursors (m : Method) : Nat → Cursor → Cursor → Run Bool
  | 0, _, _ => throw .noMemory
  | fuel + 1, c, d => do
    match ← next c, ← next d with
    | some (v, c), some (w, d) =>
      if ← equivalent v w then orderedCursors m fuel c d else truth (← order m v w)
    | none, none => return m.holds .eq
    | none, some _ => return m.holds .lt
    | some _, none => return m.holds .gt

/-- Whether a set stands in an order to another one, of which the smaller ones are the subsets.
`within` tells whether the first of two sets is a subset of the second. -/
def orderedSets {α : Type} (m : Method) (sizes : Nat × Nat) (within : α → α → Run Bool) (v w : α) :
    Run Bool := do
  match m with
  | .less => if sizes.1 < sizes.2 then within v w else return false
  | .atMost => if sizes.1 ≤ sizes.2 then within v w else return false
  | .greater => if sizes.2 < sizes.1 then within w v else return false
  | _ => if sizes.2 ≤ sizes.1 then within w v else return false

/-- Whether all elements of a collection occur in another one. -/
def occursWithin (v w : Value) : Run Bool := do allFrom (contains w) (← cursor v)

/-- Whether a set of an abstract kind stands in an order to another one. -/
def orderedCollections (m : Method) (v w : Value) : Run Bool := do
  let sizes := (← size v, ← size w)
  match m with
  | .less => if sizes.1 < sizes.2 then isSubset v w else return false
  | .greater => if sizes.2 < sizes.1 then isSubset w v else return false
  | m => orderedSets m sizes occursWithin v w

/-! ## Answers

As with equality, the second value is asked first if its class is derived from that of the first
one, and otherwise if the first does not know. -/

/-- Whether a value stands in an order to another one, by the method of a kind; nothing if it does
not know. -/
def nativeOrder (m : Method) (k : Kind) (v w : Value) : Run (Option Value) := do
  let h ← heap
  match k, v with
  | .list, v => orderedIfBoth m (h.list? v) (h.list? w)
  | .tuple, v => orderedIfBoth m (Heap.tuple? v) (Heap.tuple? w)
  | .queue, v => bothKnow (h.queue? v) (h.queue? w) fun _ _ => do
      let c ← cursor v
      let d ← cursor w
      orderedCursors m (← limit c) c d
  | .set, v | .frozenSet, v =>
    bothKnow (h.ownMembers? v) (h.ownMembers? w) fun vs ws =>
      orderedSets m (vs.length, ws.length) (fun vs ws => membersWithin ws vs) vs ws
  | .listing .., v => do
    if !(h.isSetLike v && h.isSetLike w) then return none
    return some (.bool (← orderedSets m (← size v, ← size w) occursWithin v w))
  | .view, .view _ source => some <$> order m source w
  | .setLike, v => do
    if !(← isOfKind w .setLike) then return none
    return some (.bool (← orderedCollections m v w))
  | k, v => return (h.plainOrder? m k v w).map .bool

/-- Whether a value stands in an order to another one; nothing if it does not know. -/
def orderAnswer (m : Method) (v w : Value) : Run (Option Value) := do
  match (← heap).slot? m v with
  | some (.assigned method) => do return (← callBound method v [w]).known?
  | some (.native k) => nativeOrder m k v w
  | none => return none

/-- Whether two values stand in an order, where parts are compared under the conduct at hand.  The
second value is asked for the contrary order, and first if it is of a derived class. -/
def orderOnce (m : Method) (v w : Value) : Run Value := do
  let h ← heap
  let answers := [orderAnswer m v w, orderAnswer m.mirrored w v]
  match ← (if h.asksSecondFirst v w then answers.reverse else answers).findSomeM? id with
  | some result => return result
  | none =>
    throw (.badType ("'" ++ m.sign ++ "' not supported between instances of '" ++
      Failure.moreBriefly (h.qualifiedTypeName v) ++ "' and '" ++
      Failure.moreBriefly (h.qualifiedTypeName w) ++ "'"))

/-- Whether a value is less than another one. -/
def isLess (v w : Value) : Run Bool := do truth (← order .less v w)

/-! ## Sorting

A comparison may be a method of the caller's, so it matters which values are compared, and in which
order. -/

/-- How many more values there are until one is less than the one before it, or until one is not,
as `falling` tells. -/
def runLength (falling : Bool) : Value → List Value → Run Nat
  | _, [] => return 0
  | before, v :: vs => do
    if (← isLess v before) == falling then return (← runLength falling v vs) + 1 else return 0

/-- The place of a value among sorted ones, between the places `low` and `high`. -/
def insertionPlace (v : Value) (sorted : List Value) : Nat → Nat → Nat → Run Nat
  | 0, low, _ => return low
  | fuel + 1, low, high => do
    if high ≤ low then return low
    let middle := low + (high - low) / 2
    match sorted[middle]? with
    | none => return low
    | some w =>
      if ← isLess v w then insertionPlace v sorted fuel low middle
      else insertionPlace v sorted fuel (middle + 1) high

/-- Puts a value behind those among sorted ones that it is not less than. -/
def insertSorted (sorted : List Value) (v : Value) : Run (List Value) := do
  let place ← insertionPlace v sorted (sorted.length + 1) 0 sorted.length
  return sorted.take place ++ v :: sorted.drop place

/-- Values in increasing order, by asking them. -/
def sortedByAsking : List Value → Run (List Value)
  | v :: w :: vs => do
    let falling ← isLess w v
    let length := (← runLength falling w vs) + 2
    let run := (v :: w :: vs).take length
    ((v :: w :: vs).drop length).foldlM insertSorted (if falling then run.reverse else run)
  | vs => return vs

/-- Values in increasing order. -/
def sorted (vs : List Value) : Run (List Value) := do
  let h ← heap
  if vs.all h.isPlainText then
    return vs.mergeSort fun v w => !decide (w.text?.getD "" < v.text?.getD "")
  else sortedByAsking vs

end Run

end ValueShape
