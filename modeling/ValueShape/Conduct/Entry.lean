import ValueShape.Conduct.Mapping

/-!
# Entries that values amount to

A mapping can be made from another mapping, or from pairs.

* `Run.toEntries` reads a mapping by its keys, with the part under each of them, and takes any other
  value for pairs.  A mapping that iterates over its own keys is taken as it is.
* `Run.readPair` and `Run.splitPair` are two ways of reading a pair, which differ in their messages.
* `Run.toMembers` are the members that a set made from a value has.
-/

set_option autoImplicit false

namespace ValueShape

namespace Run

/-! ## Pairs -/

/-- The entry that the pair at a place stands for.  The pair is read as a whole. -/
def readPair (place : Nat) (pair : Value) : Run (Value × Value) := do
  let element := "dictionary update sequence element #" ++ place.repr
  match ← recovering Failure.isOfType (do elements (← cursor pair)) with
  | none => throw (.badType ("cannot convert " ++ element ++ " to a sequence"))
  | some [key, value] => return (key, value)
  | some parts =>
    throw (.badValue (element ++ " has length " ++ parts.length.repr ++ "; 2 is required"))

/-- The entry that a pair stands for.  The pair is read element by element. -/
def splitPair (pair : Value) : Run (Value × Value) := do
  let c ← cursor pair
  match ← next c with
  | none => throw (.badValue "need more than 0 values to unpack")
  | some (key, c) =>
    match ← next c with
    | none => throw (.badValue "need more than 1 value to unpack")
    | some (value, c) =>
      match ← next c with
      | none => return (key, value)
      | some _ => throw .tooManyParts

/-- The entries that pairs stand for. -/
def mergePairs (c : Cursor) : Run (List Entry) := do
  let step := fun (done : Nat × List Entry) pair => do
    let (key, value) ← readPair done.1 pair
    return (done.1 + 1, ← insertEntry (← keyed key) value done.2)
  return (← fold step (0, []) c).2

/-! ## Mappings -/

/-- The parts of a mapping under certain keys. -/
def mergeKeys (v : Value) (c : Cursor) : Run (List Entry) :=
  fold (fun es key => do
    let value ← item v key
    insertEntry (← keyed key) value es) [] c

/-- The failure of a mapping whose keys yield nothing. -/
def unreadableKeys (v keys : Value) : Run Failure := do
  let h ← heap
  return .badType (Failure.briefly (h.qualifiedTypeName v) ++ "." ++ Method.keys.name ++
    "() returned a non-iterable (type " ++ Failure.briefly (h.qualifiedTypeName keys) ++ ")")

/-- The keys of a mapping.  All of them are known before any of its parts is read. -/
def allKeys (v : Value) : Run Cursor := do
  match ← listing .keys v with
  | .parts c _ => return .rest (← elements c)
  | .value keys =>
    match ← recovering Failure.isOfType (cursor keys) with
    | some c => return .rest (← elements c)
    | none => throw (← unreadableKeys v keys)

/-- Whether a value has a method for keys, so that it is read as a mapping. -/
def hasKeys (v : Value) : Run Bool := do
  return (← recovering Failure.isOfAttribute (findMethod v .keys)).isSome

/-- The entries that a value converts to. -/
def toEntries (v : Value) : Run (List Entry) := do
  let h ← heap
  match h.entries? v, h.slot? .iteration v with
  | some es, some (.native .dict) => return es
  | _, _ =>
    if ← hasKeys v then mergeKeys v (← allKeys v)
    else mergePairs (← cursor v)

/-- The entries that the pairs of a mapping amount to. -/
def entriesOf (v : Value) : Run (List Entry) := do
  match ← listing .items v with
  | .value v => toEntries v
  | .parts c _ => mergePairs c

/-! ## Members -/

/-- The members of a set that is made from a value.  Another set, and a mapping of the built-in
class, give the hashes that they have. -/
def toMembers (v : Value) : Run (List (Key Value)) := do
  let h ← heap
  match h.ownMembers? v with
  | some members => return members
  | none =>
    match h.entries? v with
    | some es =>
      if h.classOf v == .kind .dict then return es.map (·.1) else read
    | none => read
where
  /-- The members among what iteration over the value yields. -/
  read : Run (List (Key Value)) := do
    fold (fun members item => do insertMember members (← keyed item)) [] (← cursor v)

end Run

end ValueShape
