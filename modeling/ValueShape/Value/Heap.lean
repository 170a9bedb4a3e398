import ValueShape.Value.Cursor
import ValueShape.Value.Method

/-!
# The heap

The contents of the values that can change.

* A `Heap` is an array of `Cell`s.  A `ref` is an index into it, so containers may share parts and
  may contain themselves.  The heap also hands out fresh identities, and remembers the declared
  classes and the attributes that were assigned to values.
* `Heap.contained?` are the parts of a value, one after the other, whatever the methods of its class
  make of them.  `Heap.sequence?`, `Heap.entries?`, `Heap.members?` and `Heap.bytes?` look at values
  of one shape only.  Keys and members stand in the order in which they came, each with the hash
  that it had then.
* A `Foreign` is a mapping of the caller's own making, some of whose methods may fail.
-/

set_option autoImplicit false

namespace ValueShape

/-! ## Foreign mappings -/

/-- The methods through which a mapping is read. -/
inductive Access
  | get
  | keys
  | values
  | items
deriving DecidableEq, Repr

namespace Access

/-- Every method through which a mapping is read. -/
def all : List Access := [get, keys, values, items]

/-- The name of such a method. -/
def name : Access → String
  | get => "get"
  | keys => "keys"
  | values => "values"
  | items => "items"

end Access

/-- The name of the attribute that holds the entries of a foreign mapping. -/
def entriesAttribute : String := "pairs"

/-- The name of the attribute that holds the names of the methods of a foreign mapping that fail. -/
def failingAttribute : String := "fail"

/-- The text of the failure of such a method. -/
def failureText : String := "boom"

/-- A mapping of the caller's own making: its entries in order, the methods that fail, and how. -/
structure Foreign where
  /-- The entries, in order.  They may repeat a key. -/
  entries : List (Value × Value)
  /-- The methods that fail. -/
  failing : List Access
  /-- The failure of those methods. -/
  failure : Raised

/-! ## Cells

Whatever has contents that can change stands in a cell, and is referred to by its place.  So a
container can be inside itself, though values are finite trees. -/

/-- What a value that can change contains. -/
inductive Contents
  /-- A list. -/
  | list (items : List Value)
  /-- A mapping without repeated keys. -/
  | dict (entries : List Entry)
  /-- A set, with its members in the order of iteration. -/
  | set (members : List (Key Value))
  /-- A double-ended queue. -/
  | queue (items : List Value)
  /-- A part of a mapping, shown as a collection. -/
  | listing (part : Part) (source : Value)
  /-- Mutable bytes. -/
  | buffer (bs : List UInt8)
  /-- An iterator, with where it stands. -/
  | iterator (cursor : Cursor)
  /-- A mapping of the caller's own making. -/
  | foreign (m : Foreign)

/-- A value that can change: its class and what it contains. -/
structure Cell where
  /-- The class that the value was made with. -/
  cls : Class
  /-- The contents. -/
  contents : Contents

/-- A declared class. -/
structure Declaration where
  /-- The name that it was declared with. -/
  name : Name
  /-- The classes that it is derived from, nearest first. -/
  lineage : List Class
  /-- The one of its bases whose objects its own objects extend. -/
  base : Class
  /-- The classes that it names as its bases. -/
  bases : List Class

/-- An attribute that was assigned to a value. -/
structure Attribute where
  /-- Whose attribute it is. -/
  owner : Value
  /-- The name of the attribute. -/
  name : String
  /-- Its value. -/
  value : Value

/-- The contents of all values that can change, the declared classes, and the attributes of all
values. -/
structure Heap where
  /-- The cells, by place. -/
  cells : Array Cell
  /-- The declared classes, by place. -/
  declarations : Array Declaration
  /-- The attributes, no two of one owner and one name. -/
  attributes : List Attribute
  /-- The mappings that attributes are kept in instead, each after the value that they belong to. -/
  namespaces : List (Value × Value)
  /-- The classes that were assigned to values. -/
  classes : List (Value × Class)
  /-- Whether a class is kept from having objects, where that has been settled. -/
  abstractness : List (Class × Bool)
  /-- The classes with a parameter that are made once only, each after what it was asked for by. -/
  aliases : List (Value × Value)
  /-- The next fresh identity. -/
  next : Nat

namespace Heap

/-- The heap in which nothing has been made yet. -/
def empty : Heap := ⟨#[], #[], [], [], [], [], [], lasting + 1⟩

instance : Inhabited Heap := ⟨empty⟩

/-- The cell of a value. -/
def cell? (h : Heap) : Value → Option Cell
  | .ref p => h.cells[p]?
  | _ => none

/-- What a value contains, if it can change. -/
def contents? (h : Heap) (v : Value) : Option Contents := (h.cell? v).map (·.contents)

/-- Puts a cell into a fresh place. -/
def alloc (h : Heap) (c : Cell) : Value × Heap :=
  (.ref h.cells.size, { h with cells := h.cells.push c })

/-- Overwrites what a value contains. -/
def write (h : Heap) (v : Value) (c : Contents) : Heap :=
  match v with
  | .ref p => { h with cells := h.cells.modify p fun cell => { cell with contents := c } }
  | _ => h

/-- A number that bounds how deeply values can be nested without a cycle. -/
def bound (h : Heap) : Nat := h.cells.size + h.next + 1

/-! ## Parts -/

/-- The elements of a list or tuple. -/
def sequence? (h : Heap) (v : Value) : Option (List Value) :=
  match v with
  | .tuple _ _ items => some items
  | v =>
    match h.contents? v with
    | some (.list items) => some items
    | _ => none

/-- The entries of a mapping that can change. -/
def entries? (h : Heap) (v : Value) : Option (List Entry) :=
  match h.contents? v with
  | some (.dict entries) => some entries
  | _ => none

/-! ## Attributes -/

/-- The mapping that the attributes of a value are kept in, if there is one. -/
def namespace? (h : Heap) (v : Value) : Option Value :=
  (h.namespaces.find? fun n => n.1.identical v).map (·.2)

/-- The attributes that are kept in the mapping of a value. -/
def namespaceEntries (h : Heap) (v : Value) : List Entry :=
  ((h.namespace? v).bind h.entries?).getD []

/-- Whether an entry is the one of an attribute. -/
def isEntryOf (name : String) (e : Entry) : Bool := e.1.value.text? == some name

/-- An attribute that was assigned to a value. -/
def assigned? (h : Heap) (v : Value) (name : String) : Option Value :=
  ((h.attributes.find? fun a => a.name == name && a.owner.identical v).map (·.value)).or
    (((h.namespaceEntries v).find? (isEntryOf name)).map (·.2))

/-- The attributes that were assigned to a value. -/
def ownAttributes (h : Heap) (v : Value) : List (String × Value) :=
  ((h.attributes.filter fun a => a.owner.identical v).map fun a => (a.name, a.value)) ++
    (h.namespaceEntries v).filterMap fun e => e.1.value.text?.map fun name => (name, e.2)

/-- A heap without an attribute of a value. -/
def unassign (h : Heap) (v : Value) (name : String) : Heap :=
  let h := { h with
    attributes := h.attributes.filter fun a => !(a.name == name && a.owner.identical v) }
  match h.namespace? v with
  | some dict => h.write dict (.dict ((h.namespaceEntries v).filter fun e => !isEntryOf name e))
  | none => h

/-- A heap with an attribute of a value, in place of the one of that name.  If the attributes of the
value are kept in a mapping, so is this one, unless it is there already. -/
def assign (h : Heap) (v : Value) (name : String) (value : Value) : Heap :=
  let isIt := fun (a : Attribute) => a.name == name && a.owner.identical v
  if h.attributes.any isIt then
    { h with attributes := h.attributes.map fun a => if isIt a then { a with value } else a }
  else match h.namespace? v with
    | none => { h with attributes := h.attributes ++ [⟨v, name, value⟩] }
    | some dict =>
      let es := h.namespaceEntries v
      if es.any (isEntryOf name) then
        let replace := fun (e : Entry) => if isEntryOf name e then (e.1, value) else e
        h.write dict (.dict (es.map replace))
      else h.write dict (.dict (es ++ [(⟨.keptText name, hashText name⟩, value)]))

/-! ## Contents -/

/-- The members of a set. -/
def members? (h : Heap) (v : Value) : Option (List (Key Value)) :=
  match v with
  | .frozenSet _ _ members => some members
  | v =>
    match h.contents? v with
    | some (.set members) => some members
    | some (.listing .keys source) => (h.entries? source).map fun es => es.map (·.1)
    | _ => none

/-- The members of a set that is no view of something else. -/
def ownMembers? (h : Heap) (v : Value) : Option (List (Key Value)) :=
  match v, h.contents? v with
  | .frozenSet _ _ members, _ | _, some (.set members) => some members
  | _, _ => none

/-- The bytes of a string of bytes or of a buffer. -/
def bytes? (h : Heap) (v : Value) : Option (List UInt8) :=
  match v with
  | .scalar _ _ (.bytes bs) => some bs
  | v =>
    match h.contents? v with
    | some (.buffer bs) => some bs
    | _ => none

/-- Whether a value is a text or bytes, which count as sequences but never as collections of
predicates or literals. -/
def isTextual (h : Heap) (v : Value) : Bool := v.text?.isSome || (h.bytes? v).isSome

/-- The integers of a range. -/
def rangeItems (start stop step : Int) : List Value :=
  (List.range (rangeLength start stop step)).map fun n : Nat => .int (start + step * n)

/-- The characters of a text, one by one. -/
def textItems (s : String) : List Value := s.toList.map fun c => .text (String.singleton c)

/-- The integers that bytes are. -/
def byteItems (bs : List UInt8) : List Value := bs.map fun b => .int b.toNat

/-- The parts of a mapping that a collection shows, unless they are made on request. -/
def listed? (h : Heap) (part : Part) (source : Value) : Option (List Value) :=
  match part with
  | .keys => (h.entries? source).map fun es => es.map (·.1.value)
  | .values => (h.entries? source).map fun es => es.map (·.2)
  | .items => none

/-- The parts of a value, in order; those of a mapping are its keys. -/
def contained? (h : Heap) (v : Value) : Option (List Value) :=
  match v with
  | .tuple _ _ items => some items
  | .frozenSet _ _ members => some (members.map (·.value))
  | .range _ start stop step => some (rangeItems start stop step)
  | .generic id _ origin parameter => some [.generic id true origin parameter]
  | .scalar _ _ (.text s) => some (textItems s)
  | .scalar _ _ (.bytes bs) => some (byteItems bs)
  | v =>
    match h.contents? v with
    | some (.list items) | some (.queue items) => some items
    | some (.set members) => some (members.map (·.value))
    | some (.listing part source) => h.listed? part source
    | some (.dict entries) => some (entries.map (·.1.value))
    | some (.foreign m) => some (m.entries.map (·.1))
    | some (.buffer bs) => some (byteItems bs)
    | some (.iterator _) | none => none

/-- Whether an access to a mapping is among the names that a value contains. -/
def isNamed (h : Heap) (names : Value) (a : Access) : Bool :=
  ((h.contained? names).getD []).any fun v => v.text? == some a.name

/-- The pairs that a value contains. -/
def pairsIn? (h : Heap) (v : Value) : Option (List (Value × Value)) := do
  (← h.contained? v).mapM fun item =>
    match h.contained? item with
    | some [a, b] => some (a, b)
    | _ => none

/-- The mapping of the caller's own making that a value is.  Its attributes tell its entries and the
methods that fail, once they have been assigned. -/
def foreign? (h : Heap) (v : Value) : Option Foreign :=
  let own := match h.contents? v with
    | some (.foreign m) => some m
    | _ => none
  match h.assigned? v entriesAttribute, h.assigned? v failingAttribute with
  | none, none => own
  | pairs, names => do
    let entries ← pairs.elim (own.map (·.entries)) h.pairsIn?
    let failing := names.elim ((own.map (·.failing)).getD []) fun names =>
      Access.all.filter (h.isNamed names)
    return ⟨entries, failing, (own.map (·.failure)).getD ⟨.runtime, failureText⟩⟩

/-- The number of parts of a value. -/
def count (h : Heap) (v : Value) : Nat :=
  match v with
  | .range _ start stop step => rangeLength start stop step
  | v =>
    match h.contents? v with
    | some (.listing _ source) => ((h.entries? source).getD []).length
    | _ => ((h.contained? v).getD []).length

theorem cell?_alloc (h : Heap) (c : Cell) : (h.alloc c).2.cell? (h.alloc c).1 = some c := by
  simp [alloc, cell?]

theorem cell?_alloc_of_some {h : Heap} {v : Value} {d : Cell} (hv : h.cell? v = some d)
    (c : Cell) : (h.alloc c).2.cell? v = some d := by
  cases v <;> simp [cell?, alloc, Array.getElem?_push] at hv ⊢
  grind

end Heap

end ValueShape
