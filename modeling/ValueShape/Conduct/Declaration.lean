import ValueShape.Conduct.Assignment
import ValueShape.Conduct.Order

/-!
# New classes

`Run.declare` makes a new class, given its name and the classes that it is derived from.

* A class of the abstract kind has no objects as long as it only names some of the methods that its
  bases name: `Run.abstractNames` are those names.
* The class that comes next in the lineage may have a method for taking notice of the new class.
-/

set_option autoImplicit false

namespace ValueShape

namespace Run

/-! ## Methods that are only named

A class of the abstract kind may name methods without having them.  Then it makes no objects, and
neither do the classes derived from it until they have all of these methods. -/

/-- The name of the attribute that tells whether a method is only named. -/
def abstractMark : String := "__isabstractmethod__"

/-- Whether a class only names a method. -/
def onlyNames (c : Class) (name : String) : Run Bool := do
  match (← heap).inherited? c name with
  | some (.native k) => return k.missingMethods.any fun m => m.name == name
  | some (.assigned _) =>
    match ← attribute? (.ofClass c) name with
    | some v =>
      match ← attribute? v abstractMark with
      | some mark => truth mark
      | none => return false
    | none => return false
  | none => return false

/-- The names of the methods that a new class only names, among those that its bases only name. -/
def abstractNames (c : Class) (bases : List Class) : Run (List Value) := do
  let check := fun (found : List Value) (name : Value) => do
    if (← onlyNames c (name.text?.getD "")) && !(found.any fun w => w.text? == name.text?) then
      return found ++ [name]
    else return found
  bases.foldlM (fun found b => do
    match ← abstractNames? b with
    | some names => fold check found (← cursor names)
    | none => return found) []

/-- Takes down which methods a new class of the abstract kind only names. -/
def settleNames (c : Class) (bases : List Class) : Run Unit := do
  if (← heap).classOfClass c != .abstractKind then return ()
  let names ← abstractNames c bases
  let value ← newFrozenSet (.kind .frozenSet) names
  modifyHeap fun h =>
    { h.assign (.ofClass c) abstractAttribute value with
      abstractness := (c, !names.isEmpty) :: h.abstractness }

/-! ## Bases -/

/-- Refuses bases that are no classes. -/
def requireBases (bases : List Value) : Run Unit := do
  for b in bases do
    if !b.isClass && (← attribute? b "__mro_entries__").isSome then throw .parameterAsBase
  if bases.any (← heap).isForeignBase then throw .foreignBase

/-- The name of the method by which a class takes notice of the classes derived from it. -/
def announcement : String := "__init_subclass__"

/-- Tells the class that comes next in the lineage of a new class about it. -/
def announce (c : Class) : Run Unit := do
  let h ← heap
  match ((h.lineage c).drop 1).findSome? fun b => h.assigned? (.ofClass b) announcement with
  | some method => discard (call method [])
  | none => return ()

/-- A new class. -/
def declare (name : Name) (bases : List Value) : Run Value := do
  requireBases bases
  let h ← heap
  let base := (← ofExcept (h.commonBase none bases)).getD (.kind .object)
  if name.text.contains '\x00' then throw .nullInClassName
  let named := bases.filterMap Value.class?
  let classes := if named.isEmpty then [.kind .object] else named
  let lineage ← ofExcept (h.mergedLineage classes)
  modifyHeap fun h =>
    { h with declarations := h.declarations.push ⟨name, lineage, base, classes⟩ }
  let c := Class.declared h.declarations.size
  announce c
  settleNames c classes
  return .ofClass c

end Run

end ValueShape
