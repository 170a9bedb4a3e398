import ValueShape.Conduct.Truth

/-!
# Keys

How mappings and sets find things: by hash and equality.

* `Run.keyed` is a value with the hash that it has now.
* A stored key is the one that is looked for if the two hashes are the same and the values are the
  same or equal: `Run.isKey`.  The stored hash counts, whatever has become of the stored value.
* `Run.entryUnder?` and `Run.insertEntry` look up and store the entries of a mapping, `Run.hasMember`
  and `Run.insertMember` the members of a set.
* `Run.newDict`, `Run.newSet` and their kin make containers whose keys or members are distinct.
-/

set_option autoImplicit false

namespace ValueShape

namespace Run

/-- A value as a key. -/
def keyed (v : Value) : Run (Key Value) := do return ⟨v, ← hash v⟩

/-- Whether a stored key is the one that is looked for. -/
def isKey (key stored : Key Value) : Run Bool := do
  if stored.hash.same key.hash then equivalent stored.value key.value else return false

/-! ## Entries

Entries stay in the order in which their keys came first.  A new value for a key takes the place of
the old one, and the key stays the one that it was. -/

/-- The value stored under a key. -/
def entryUnder? (key : Key Value) : List Entry → Run (Option Value)
  | [] => return none
  | (stored, value) :: es => do
    if ← isKey key stored then return some value else entryUnder? key es

/-- Entries with a value stored under a key: in the place of the key if it is there, at the end
otherwise. -/
def insertEntry (key : Key Value) (value : Value) : List Entry → Run (List Entry)
  | [] => return [(key, value)]
  | (stored, old) :: es => do
    if ← isKey key stored then return (stored, value) :: es
    else return (stored, old) :: (← insertEntry key value es)

/-- The entries that pairs amount to: each key in its first place, with its last value. -/
def distinctEntries (pairs : List (Value × Value)) : Run (List Entry) :=
  pairs.foldlM (fun es p => do insertEntry (← keyed p.1) p.2 es) []

/-! ## Members -/

/-- Whether a key is among members. -/
def hasMember (key : Key Value) : List (Key Value) → Run Bool
  | [] => return false
  | stored :: members => do
    if ← isKey key stored then return true else hasMember key members

/-- Members with a further one, unless it is there. -/
def insertMember (members : List (Key Value)) (key : Key Value) : Run (List (Key Value)) := do
  if ← hasMember key members then return members else return members ++ [key]

/-- The members that values amount to, in the order in which they come first. -/
def distinctMembers (vs : List Value) : Run (List (Key Value)) :=
  vs.foldlM (fun members v => do insertMember members (← keyed v)) []

/-! ## New containers -/

/-- A new mapping. -/
def newDict (cls : Class) (pairs : List (Value × Value)) : Run Value := do
  alloc cls (.dict (← distinctEntries pairs))

/-- A new read-only mapping, which shows a mapping of its own. -/
def newView (pairs : List (Value × Value)) : Run Value := do
  view (← newDict (.kind .dict) pairs)

/-- A new set. -/
def newSet (cls : Class) (vs : List Value) : Run Value := do
  alloc cls (.set (← distinctMembers vs))

/-- A new immutable set. -/
def newFrozenSet (cls : Class) (vs : List Value) : Run Value := do
  let members ← distinctMembers vs
  return .frozenSet cls (← fresh) members

/-- A part of a mapping, as a collection. -/
def newListing (part : Part) (ordered : Bool) (source : Value) : Run Value :=
  alloc (.kind (.listing part ordered)) (.listing part source)

/-- The keys of a new mapping with the given entries. -/
def newKeys (pairs : List (Value × Value)) : Run Value := do
  newListing .keys false (← newDict (.kind .dict) pairs)

end Run

end ValueShape
