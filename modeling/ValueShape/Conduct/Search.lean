import ValueShape.Conduct.Mapping

/-!
# Occurrence

`Run.contains` asks whether a value occurs in a container: as a key of a mapping, as a part of a
text, as an element otherwise.  A container whose class has no method for that is iterated over, and
an iterator is used up to there.
-/

set_option autoImplicit false

namespace ValueShape

/-- Whether one list occurs in another, in one piece. -/
def occursIn {α : Type} [BEq α] (part : List α) : List α → Bool
  | [] => part.isEmpty
  | a :: as => part.isPrefixOf (a :: as) || occursIn part as

/-- The integer that a number is equal to. -/
def Value.wholeNumber? (v : Value) : Option Int :=
  match v.numeric? with
  | some (.int n) => some n
  | some (.double bits) => Double.toInt? bits
  | some (.complex re im) => if Double.isZero im then Double.toInt? re else none
  | none => none

/-- The text about an integer that is not a byte. -/
def byteRangeText : String := "byte must be in range(0, 256)"

namespace Run

/-- Whether an element of an iteration equals a value. -/
def occurs (key : Value) (c : Cursor) : Run Bool := anyFrom (fun v => equivalent v key) c

/-- Whether an integer is among those of a range. -/
def isInRange (start stop step n : Int) : Bool :=
  (n - start) % step == 0 &&
    if 0 < step then decide (start ≤ n) && decide (n < stop)
    else decide (n ≤ start) && decide (stop < n)

/-- Whether a value is among the integers of a range.  Values other than numbers are compared one by
one. -/
def containsInt (start stop step : Int) (key : Value) : Run Bool := do
  let isNumber := match (← heap).provider? .equality key with
    | some k => k.isNumeric
    | none => false
  if isNumber then
    return key.wholeNumber?.any fun n => isInRange start stop step n
  else occurs key (.ofRange start stop step)

/-- Whether a byte or a string of bytes occurs in another one. -/
def containsBytes (bs : List UInt8) (key : Value) : Run Bool := do
  match ← asIndex? key, (← heap).bytes? key with
  | some n, _ =>
    if 0 ≤ n && n < 256 then return bs.contains (UInt8.ofNat n.toNat)
    else throw (.badValue byteRangeText)
  | none, some part => return occursIn part bs
  | none, none =>
    throw (.badType ("a bytes-like object is required, not '" ++
      Failure.moreBriefly ((← heap).qualifiedTypeName key) ++ "'"))

/-- Whether a text occurs in another one. -/
def containsText (s : String) (key : Value) : Run Bool := do
  match key.text? with
  | some part => return occursIn part.toList s.toList
  | none =>
    throw (.badType ("'in <string>' requires string as left operand, not " ++
      Failure.moreBriefly ((← heap).qualifiedTypeName key)))

/-- Whether there is a part of a value under a key. -/
def hasItem (v key : Value) : Run Bool := do
  return (← recovering Failure.isOfKey (item v key)).isSome

/-- Whether a value is a member of a set.  A set that can change counts as the immutable set of its
members. -/
def containsMember (members : List (Key Value)) (key : Value) : Run Bool := do
  match (← heap).contents? key with
  | some (.set own) =>
    let hash? ← recovering Failure.isOfType (hash key)
    hasMember ⟨key, hash?.getD (.members (own.map (·.hash)))⟩ members
  | _ => do hasMember (← keyed key) members

/-- Whether a pair is among the entries that a collection shows. -/
def hasPair (v pair : Value) : Run Bool := do
  let h ← heap
  match pair, h.contents? v with
  | .tuple _ _ [key, value], some (.listing _ source) =>
    match ← entryUnder? (← keyed key) ((h.entries? source).getD []) with
    | some found => equivalent found value
    | none => return false
  | _, _ => return false

/-- Whether a value occurs in a container, by the method of a kind. -/
def nativeContains (k : Kind) (v key : Value) : Run Bool := do
  let h ← heap
  match k, v with
  | .text, v => containsText (v.text?.getD "") key
  | .bytes, v | .buffer, v => containsBytes ((h.bytes? v).getD []) key
  | .range, .range _ start stop step => containsInt start stop step key
  | .container, _ => return false
  | .mapping, v => hasItem v key
  | .dict, v | .orderedDict, v => do
    return (← entryUnder? (← keyed key) ((h.entries? v).getD [])).isSome
  | .listing .keys _, v => do hasMember (← keyed key) ((h.members? v).getD [])
  | .listing .items _, v => hasPair v key
  | .set, v | .frozenSet, v => containsMember ((h.members? v).getD []) key
  | .sequence, v => do occurs key (← cursor v)
  | .list, v => occurs key (.elements v 0)
  | .queue, v => occurs key (.queued v 0 (h.count v) false)
  | _, v => occurs key (.rest ((h.contained? v).getD []))

/-- Whether a value occurs in a container. -/
def contains : Value → Value → Run Bool
  | .view _ source, key => contains source key
  | v, key => do
    let h ← heap
    match h.slot? .membership v with
    | some (.assigned .null) =>
      throw (.badType ("'" ++ Failure.briefly (h.qualifiedTypeName v) ++
        "' object is not a container"))
    | some (.assigned method) => do truth (← callBound method v [key])
    | some (.native k) => nativeContains k v key
    | none =>
      match ← recovering Failure.isOfType (cursor v) with
      | some c => occurs key c
      | none => throw (.notSearchable (h.qualifiedTypeName v))

end Run

end ValueShape
