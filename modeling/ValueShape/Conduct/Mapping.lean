import ValueShape.Conduct.Iteration

/-!
# Reading mappings

The methods through which a mapping is read: its keys, its values, its entries, and the value under
one key.

* A `Listing` is what such a method gives: a value, if the method was assigned, or else the parts of
  the mapping itself.
* `Run.listing` calls the method for a `Part`.  A mapping by class alone has the keys that iteration
  over it yields, each with the part that is found under it.  A read-only mapping passes everything
  on to the value that it shows.
* `Run.getValue` gives the value under a key, or another one if there is none.
-/

set_option autoImplicit false

namespace ValueShape

namespace Part

/-- The method through which a part of a mapping is read. -/
def method : Part → Method
  | keys => .keys
  | values => .values
  | items => .items

/-- The way of reading that a foreign mapping may refuse. -/
def access : Part → Access
  | keys => .keys
  | values => .values
  | items => .items

end Part

/-- What a method of a mapping gives. -/
inductive Listing
  /-- A value. -/
  | value (v : Value)
  /-- The parts of a mapping that are met in the course of an iteration.  Some of them tell the
  length of a value as their own. -/
  | parts (c : Cursor) (measured : Option Value)

namespace Failure

/-- The failure of calling a method of mappings on a class. -/
def unboundMethod (k : Kind) (method : Method) : Failure :=
  match k with
  | .mapping | .foreign =>
    .badArguments (k.name ++ "." ++ method.name ++
      "() missing 1 required positional argument: 'self'")
  | k => .badArguments ("unbound method " ++ k.name ++ "." ++ method.name ++
      "() needs an argument")

end Failure

namespace Run

/-! ## Foreign mappings

Foreign mappings are of the caller's own making.  Any of their methods may fail, and they may repeat
a key. -/

/-- The entries of a foreign mapping, unless it refuses to be read in the given way. -/
def foreignEntries (a : Access) (v : Value) : Run (List (Value × Value)) := do
  let h ← heap
  let isMade := h.contents? v matches some (.foreign _)
  if !isMade && (h.assigned? v failingAttribute).isNone then
    throw (.noAttribute (h.ownerText v) failingAttribute)
  let m ← requireForeign v
  if a ∈ m.failing then throw (.raised m.failure)
  return m.entries

/-! ## Keys, values and entries -/

/-- The parts of a mapping, by the method of a kind. -/
def nativeListing (k : Kind) (part : Part) (v : Value) : Run Listing := do
  let h ← heap
  match k, v with
  | k, .ofClass _ | k, .generic .. => throw (.unboundMethod k part.method)
  | .foreign, v =>
    let es ← foreignEntries part.access v
    return .parts (.rest (← es.mapM fun e => partOf part e.1 e.2)) none
  | .mapping, v => return .parts (.unread part v) (some v)
  | k, v => return .parts (.entries part (k == .orderedDict) v 0 (h.count v) false) none

/-- Calls a method for the parts of a mapping. -/
def callListing (part : Part) (v : Value) : Callee → Run Listing
  | .native k => nativeListing k part v
  | .function fn => .value <$> call fn [v]
  | .value f => .value <$> call f []

/-- The parts of a mapping. -/
def listing (part : Part) : Value → Run Listing
  | .view _ source => listing part source
  | v => do callListing part v (← findMethod v part.method)

/-- The parts of a mapping, if the value has a method for them at all. -/
def listing? (part : Part) (v : Value) : Run (Option Listing) := do
  match v with
  | .view _ source => some <$> listing part source
  | v =>
    match ← recovering Failure.isOfAttribute (findMethod v part.method) with
    | some found => some <$> callListing part v found
    | none => return none

/-- An iteration over the parts of a mapping. -/
def openListing : Listing → Run Cursor
  | .value v => cursor v
  | .parts c _ => return c

/-- The parts of a mapping, as a list. -/
def readListing : Listing → Run (List Value)
  | .value v => iterate v
  | .parts c measured => do
    measured.forM fun v => discard (recovering Failure.isOfType (size v))
    elements c

/-- The parts of a mapping, as a list. -/
def readParts (part : Part) (v : Value) : Run (List Value) := do readListing (← listing part v)

/-! ## Values -/

/-- The value under a key of a mapping, by the method of a kind. -/
def nativeGet (k : Kind) (v key default : Value) : Run Value := do
  match k, v with
  | k, .ofClass _ | k, .generic .. => throw (.unboundMethod k .get)
  | .foreign, v => do return (← searchEntries key (← foreignEntries .get v)).getD default
  | .mapping, v => do return (← recovering Failure.isOfKey (item v key)).getD default
  | _, v => do
    let key ← keyed key
    return (← entryUnder? key (((← heap).entries? v).getD [])).getD default

/-- The value under a key of a mapping, or `default` if there is none. -/
def getValue : Value → Value → Value → Run Value
  | .view _ source, key, default => getValue source key default
  | v, key, default => do
    match ← findMethod v .get with
    | .native k => nativeGet k v key default
    | .function fn => call fn [v, key, default]
    | .value f => call f [key, default]

end Run

end ValueShape
