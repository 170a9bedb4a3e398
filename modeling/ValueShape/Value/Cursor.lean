import ValueShape.Value.Basic

/-!
# Cursors

Where an iteration stands.

* A `Cursor` stands before the next element of an iteration.  Most iterations read what they go
  through only when they come to it, so a cursor names a value and a place in it.
* Lists, queues and mappings can also be gone through from the end.
* `Cursor.ofRange` goes through integers at equal distances.
-/

set_option autoImplicit false

namespace ValueShape

/-- Where an iteration stands. -/
inductive Cursor
  /-- Before values that are there already. -/
  | rest (items : List Value)
  /-- Before so many integers, each of which lies `step` behind the one before it. -/
  | count (start step : Int) (left : Nat)
  /-- Before a place in a list or a buffer. -/
  | elements (source : Value) (place : Nat)
  /-- Behind the first `left` places of a list, on the way to its beginning. -/
  | elementsBack (source : Value) (left : Nat)
  /-- Behind the first `place` elements of a queue, in the order of the direction.  The queue has to
  keep its size. -/
  | queued (source : Value) (place size : Nat) (back : Bool)
  /-- Behind the first `place` entries of a mapping, in the order of the direction.  The mapping has
  to keep its size. -/
  | entries (part : Part) (ordered : Bool) (source : Value) (place size : Nat) (back : Bool)
  /-- Behind the first `place` members of a set, which has to keep its size. -/
  | members (source : Value) (place size : Nat)
  /-- At the next element of an iterator. -/
  | iterator (source : Value)
  /-- Before the part of a value at an index. -/
  | indexed (source : Value) (index : Nat)
  /-- Behind the parts of a value at the first `left` indices, on the way to its beginning; as many
  as the value is long, if it has not been asked yet. -/
  | indexedBack (source : Value) (left : Option Nat)
  /-- Before the parts of a mapping, which has not been asked for its keys. -/
  | unread (part : Part) (mapping : Value)
  /-- Before the parts of a mapping under certain keys. -/
  | parts (part : Part) (mapping : Value) (keys : Cursor)

instance : Inhabited Cursor := ⟨.rest []⟩

/-- The number of integers from `start` up to but not including `stop`, at the distance `step`. -/
def rangeLength (start stop step : Int) : Nat :=
  if 0 < step then ((stop - start + step - 1) / step).toNat
  else if step < 0 then ((start - stop - step - 1) / -step).toNat
  else 0

/-- The integers from `start` up to but not including `stop`, at the distance `step`. -/
def Cursor.ofRange (start stop step : Int) : Cursor :=
  .count start step (rangeLength start stop step)

/-- The same integers as `Cursor.ofRange` goes through, from the last one on. -/
def Cursor.ofRangeBack (start stop step : Int) : Cursor :=
  let length := rangeLength start stop step
  .count (start + step * (length - 1)) (-step) length

theorem rangeLength_one (start stop : Int) : rangeLength start stop 1 = (stop - start).toNat := by
  simp [rangeLength]

end ValueShape
