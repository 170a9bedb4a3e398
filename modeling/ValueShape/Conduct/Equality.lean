import ValueShape.Conduct.Entry
import ValueShape.Conduct.Search

/-!
# Equality

What comparing two values for equality gives.

* `Run.compareOnce` asks each of the two values in turn, by the method of its class; a value of a
  derived class is asked first.  If neither knows, only sameness counts.  What an assigned method
  says is taken as it is.
* `Run.nativeAnswer` is what the method of a kind says, which may be nothing.  Numbers are compared
  across their classes without rounding, a derived class compares like the one it is derived from,
  and the keys of mappings and members of sets are looked up by the hashes that they were stored
  with.
* `Run.differ` asks in the same way whether two values are different.
* `Run.matchLiteral` is the finer relation of literals: the same, or of the same class and equal.
-/

set_option autoImplicit false

namespace ValueShape

/-! ## Numbers -/

/-- Equality of numbers, without rounding. -/
def Numeric.eq : Numeric → Numeric → Bool
  | int m, int n => m == n
  | double a, double b => Double.eq a b
  | int n, double b => Double.toInt? b == some n
  | double a, int n => Double.toInt? a == some n
  | complex re im, complex re' im' => Double.eq re re' && Double.eq im im'
  | complex re im, int n => Double.toInt? re == some n && Double.isZero im
  | int n, complex re im => Double.toInt? re == some n && Double.isZero im
  | complex re im, double b => Double.eq re b && Double.isZero im
  | double a, complex re im => Double.eq re a && Double.isZero im

/-- What a number says about being equal to a value, if that is a number that it knows. -/
def numbersEqual? (k : Kind) (v w : Value) : Option Bool := do
  let m ← v.numeric?
  let n ← w.numeric?
  match k, n with
  | .complex, _ | _, .int _ | .float, .double _ => return m.eq n
  | _, _ => none

/-! ## Plain answers

Where no part of the values has to be asked, an answer is a function of the heap. -/

/-- The integers of a range, as far as they matter to equality. -/
def rangeParts? : Value → Option (List Int)
  | .range _ start stop step =>
    let length := rangeLength start stop step
    some (if length = 0 then [] else if length = 1 then [1, start] else [length, start, step])
  | _ => none

/-- What a value says about being equal to another one, where no part of it has to be asked. -/
def Heap.plainAnswer? (h : Heap) (k : Kind) (v w : Value) : Option Bool :=
  match k with
  | .int | .float | .complex => numbersEqual? k v w
  | .text => do return (← v.text?) == (← w.text?)
  | .bytes => do return (← v.bytes?) == (← w.bytes?)
  | .buffer => do return (← h.bytes? v) == (← h.bytes? w)
  | .range => do return (← rangeParts? v) == (← rangeParts? w)
  | .slice =>
    match v, w with
    | .slice _ n, .slice _ n' => some (n == n')
    | _, _ => none
  | .builtin | .method | .boundWrapper =>
    match v, w with
    | .builtin _ b, .builtin _ b' => some (b == b')
    | .method _ fn self, .method _ fn' self' => some (fn.identical fn' && self.identical self')
    | _, _ => none
  | _ => none

namespace Heap

/-- The elements of a list. -/
def list? (h : Heap) (v : Value) : Option (List Value) :=
  match h.contents? v with
  | some (.list items) => some items
  | _ => none

/-- The elements of a queue. -/
def queue? (h : Heap) (v : Value) : Option (List Value) :=
  match h.contents? v with
  | some (.queue items) => some items
  | _ => none

/-- The elements of a tuple. -/
def tuple? : Value → Option (List Value)
  | .tuple _ _ items => some items
  | _ => none

/-- Whether the second of two values is asked first: its class is derived from that of the first. -/
def asksSecondFirst (h : Heap) (v w : Value) : Bool :=
  h.classOf v != h.classOf w && (h.lineage (h.classOf w)).contains (h.classOf v)

end Heap

namespace Heap

/-- Whether a value is a set, or a part of a mapping that is compared like one. -/
def isSetLike (h : Heap) (v : Value) : Bool :=
  [Kind.set, .frozenSet, .listing .keys false, .listing .items false].any (h.isOfKind v)

end Heap

namespace Run

/-! ## Parts -/

/-- An answer about two values that both have what it takes. -/
def bothKnow {α : Type} (a b : Option α) (answer : α → α → Run Bool) : Run (Option Value) := do
  match a, b with
  | some a, some b => return some (.bool (← answer a b))
  | _, _ => return none

/-- Equality of sequences, part by part. -/
def equalParts : List Value → List Value → Run Bool
  | v :: vs, w :: ws => do if ← equivalent v w then equalParts vs ws else return false
  | [], [] => return true
  | _, _ => return false

/-- Equality of what two iterations yield, at most `fuel` elements. -/
def equalCursors : Nat → Cursor → Cursor → Run Bool
  | 0, _, _ => throw .noMemory
  | fuel + 1, c, d => do
    match ← next c, ← next d with
    | some (v, c), some (w, d) => if ← equivalent v w then equalCursors fuel c d else return false
    | none, none => return true
    | _, _ => return false

/-- Whether every entry stands among others with an equal value. -/
def entriesWithin (others : List Entry) : List Entry → Run Bool
  | [] => return true
  | (key, value) :: es => do
    match ← entryUnder? key others with
    | none => return false
    | some other => if ← equivalent other value then entriesWithin others es else return false

/-- Equality of the entries of mappings. -/
def equalEntries (es fs : List Entry) : Run Bool := do
  if es.length != fs.length then return false
  entriesWithin fs es

/-- Whether all members stand among others. -/
def membersWithin (others : List (Key Value)) : List (Key Value) → Run Bool
  | [] => return true
  | key :: members => do
    if ← hasMember key others then membersWithin others members else return false

/-- Equality of the members of sets. -/
def equalMembers (vs ws : List (Key Value)) : Run Bool := do
  if vs.length != ws.length then return false
  membersWithin ws vs

/-- Whether two collections have the same size and each element of the first occurs in the
second. -/
def equalCollections (v w : Value) (c : Run Cursor) : Run Bool := do
  if (← size v) != (← size w) then return false
  allFrom (contains w) (← c)

/-- Whether a collection has no more elements than another one, and all of them occur in that. -/
def isSubset (v w : Value) : Run Bool := do
  let count ← size v
  if (← size w) < count then return false
  allFrom (contains w) (← cursor v)

/-- Whether two sets of an abstract kind have the same size and the first is part of the second, by
its own method for that. -/
def equalSets (v w : Value) : Run Value := do
  if (← size v) != (← size w) then return .bool false
  match (← heap).find? v Method.atMost.name with
  | some (.function (.field .setLike _)) => return .bool (← isSubset v w)
  | _ => do call (← readAttribute v Method.atMost.name) [w]

/-! ## Records -/

/-- The fields of a record, as its attributes. -/
def readFields (v : Value) : Run (List Value) :=
  (Heap.recordFields v).mapM fun field => readAttribute v field.1

/-- Equality of the fields of two records of one class. -/
def equalRecords (v w : Value) : Run (Option Value) := do
  let h ← heap
  if h.classOf v != h.classOf w then return none
  return some (.bool (← equalParts (← readFields v) (← readFields w)))

/-- The parameters of a class, one by one. -/
def parameters (parameter : Value) : List Value :=
  match parameter with
  | .tuple _ _ items => items
  | v => [v]

/-- Equality of two classes with parameters. -/
def equalGenerics (v w : Value) : Run (Option Value) := do
  match v, w with
  | .generic _ starred c p, .generic _ starred' c' p' =>
    if starred == starred' && c == c' then
      return some (.bool (← equalParts (parameters p) (parameters p')))
    return some (.bool false)
  | _, _ => return none

/-- The name of the attribute that a keyed object is compared by. -/
def keyAttribute : String := "key"

/-! ## Answers

The first value is asked, and then the second one if the first does not know.  If the class of the
second is derived from that of the first, the order is the other way round. -/

/-- What a value says about being equal to another one, by the method of a kind; nothing if it does
not know. -/
def nativeAnswer (k : Kind) (v w : Value) : Run (Option Value) := do
  let h ← heap
  match k, v with
  | .list, v => bothKnow (h.list? v) (h.list? w) fun vs ws => do
      if vs.length != ws.length then return false
      equalParts vs ws
  | .queue, v => bothKnow (h.queue? v) (h.queue? w) fun vs ws => do
      if v.identical w then return true
      if vs.length != ws.length then return false
      let c ← cursor v
      let d ← cursor w
      equalCursors (← limit c) c d
  | .tuple, v => bothKnow (Heap.tuple? v) (Heap.tuple? w) equalParts
  | .dict, v => bothKnow (h.entries? v) (h.entries? w) equalEntries
  | .orderedDict, v => bothKnow (h.entries? v) (h.entries? w) fun es fs => do
      if !(← equalEntries es fs) then return false
      if h.isOfKind w .orderedDict then
        equalParts (es.map (·.1.value)) (fs.map (·.1.value))
      else return true
  | .view, .view _ source => some <$> compare source w
  | .set, v | .frozenSet, v => bothKnow (h.ownMembers? v) (h.ownMembers? w) equalMembers
  | .listing .., v => do
    if !(h.isSetLike v && h.isSetLike w) then return none
    return some (.bool (← equalCollections v w (cursor v)))
  | .metadata, v | .options, v => equalRecords v w
  | .generic, v | .parameterized, v => equalGenerics v w
  | .keyed, v => do
    if !(← isOfKind w .keyed) then return some (.bool false)
    some <$> compare (← readAttribute v keyAttribute) (← readAttribute w keyAttribute)
  | .mapping, v => do
    if !(← isOfKind w .mapping) then return none
    return some (.bool (← equalEntries (← entriesOf v) (← entriesOf w)))
  | .setLike, v => do
    if !(← isOfKind w .setLike) then return none
    some <$> equalSets v w
  | k, v => return (h.plainAnswer? k v w).map .bool

/-- What a value says about being equal to another one; nothing if it does not know. -/
def answer (v w : Value) : Run (Option Value) := do
  match (← heap).slot? .equality v with
  | some (.assigned method) => do return (← callBound method v [w]).known?
  | some (.native k) => nativeAnswer k v w
  | none => return if v.identical w then some (.bool true) else none

/-- What comparing two values gives, where parts are compared under the conduct at hand. -/
def compareOnce (v w : Value) : Run Value := do
  let (first, second) := if (← heap).asksSecondFirst v w then (w, v) else (v, w)
  match ← answer first second with
  | some result => return result
  | none =>
    match ← answer second first with
    | some result => return result
    | none => return .bool (v.identical w)

/-! ## Inequality -/

/-- An answer turned into its contrary. -/
def contrary (answer : Run (Option Value)) : Run (Option Value) := do
  match ← answer with
  | some result => return some (.bool (!(← truth result)))
  | none => return none

/-- What a value says about being other than another one; nothing if it does not know.  Unless it
has a method for that, it is asked whether it is equal. -/
def contraryAnswer (v w : Value) : Run (Option Value) := do
  match (← heap).slot? .inequality v with
  | some (.assigned method) => do return (← callBound method v [w]).known?
  | some (.native k) => contrary (nativeAnswer k v w)
  | none => contrary (answer v w)

/-- Whether two values count as different. -/
def differ (v w : Value) : Run Bool := do
  let (first, second) := if (← heap).asksSecondFirst v w then (w, v) else (v, w)
  match ← contraryAnswer first second with
  | some result => truth result
  | none =>
    match ← contraryAnswer second first with
    | some result => truth result
    | none => return !v.identical w

/-! ## Literals

Sameness comes before equality, so a value that does not even equal itself still matches itself. -/

/-- What matching a value with a literal gives: the two are the same, or of the same class and equal.
The result counts by its truth value. -/
def matchLiteral (v literal : Value) : Run Value := do
  if v.identical literal then return .bool true
  let h ← heap
  if h.classOf v != h.classOf literal then return .bool false
  compare v literal

/-- Whether a value matches a literal. -/
def matchesLiteral (v literal : Value) : Run Bool := do truth (← matchLiteral v literal)

end Run

end ValueShape
