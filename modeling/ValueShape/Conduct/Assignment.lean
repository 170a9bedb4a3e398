import ValueShape.Conduct.Iteration
import ValueShape.Value.Declare

/-!
# Changing attributes

* `Run.setAttribute` and `Run.deleteAttribute` change attributes.  Those of predicates, of metadata
  and of rendering options cannot be changed; those of functions, of classes and of the objects of
  most classes can.  The class of an object may have methods of its own for all of this, and so may
  what stands in the class under the name.
* Assigning the class of a value makes it an object of another class, if the objects of the two
  classes extend the same objects in the same way: `Heap.hasSameLayout`.
* `Run.assignBases` changes what a class is derived from, and with it the classes derived from it.
-/

set_option autoImplicit false

namespace ValueShape

namespace Heap

/-! ## Layout

An object may change to another class only if the objects of both are laid out alike, which goes
back to the class above that was the last to add anything. -/

/-- The class whose objects the objects of a kind extend by room for attributes and nothing else. -/
def extendedKind? : Kind → Option Kind
  | .point | .callable | .unhashable | .keyed => some .object
  | .foreign => some .mapping
  | .derivedText => some .text
  | .derivedFloat => some .float
  | .derivedList => some .list
  | .derivedDict => some .dict
  | _ => none

/-- Whether the objects of a kind are no different from bare objects. -/
def isBare (k : Kind) : Bool := k.isAbstract || k == .undefined || k == .unreferable

/-- Whether the objects of a class have room for attributes, such that a derived class adds none. -/
def hasRoom (h : Heap) (c : Class) : Bool :=
  match c with
  | .kind k => k.isOpen && (k.isReferable || (h.contentKind c).isVariable)
  | .declared _ => true

/-- The class that gives the objects of a class their layout, nested at most `fuel` deep. -/
def layoutRootUpTo (h : Heap) : Nat → Class → Class
  | 0, c => c
  | fuel + 1, c =>
    match c with
    | .kind k => if isBare k then .kind .object else c
    | .declared p =>
      match h.declarations[p]? with
      | some d => if h.hasRoom d.base then h.layoutRootUpTo fuel d.base else c
      | none => c

/-- The class that gives the objects of a class their layout. -/
def layoutRoot (h : Heap) (c : Class) : Class := h.layoutRootUpTo (h.declarations.size + 1) c

/-- The class whose objects the objects of a class extend by room for attributes and nothing else.
Objects of varying size cannot be extended in this way. -/
def extendedClass? (h : Heap) (c : Class) : Option Class :=
  match c with
  | .kind k => (extendedKind? k).map .kind
  | .declared p =>
    ((h.declarations[p]?).map (·.base)).filter fun b => !(h.contentKind b).isVariable

/-- Whether the objects of two classes look the same, apart from their contents. -/
def hasSameLayout (h : Heap) (c d : Class) : Bool :=
  let c := h.layoutRoot c
  let d := h.layoutRoot d
  c == d || ((h.extendedClass? c).isSome && h.extendedClass? c == h.extendedClass? d)

end Heap

namespace Run

/-! ## Refusals -/

/-- The written form of a name inside a message. -/
def nameForm (name : Value) : Run String := do return (← write name).text?.getD ""

/-- The parts of functions and classes that can be changed, by the sort of value that they take. -/
def changeableParts : List (String × Kind) :=
  [("__code__", .code), ("__defaults__", .tuple), ("__kwdefaults__", .dict),
    ("__annotations__", .dict)]

/-- The failure of changing what the objects of a class tell about themselves. -/
def notWritable (h : Heap) (c : Class) (name : String) : Failure :=
  .badAttribute ("attribute '" ++ name ++ "' of '" ++ Failure.moreBriefly (h.qualifiedClassName c) ++
    "' objects is not writable")

/-- The failure of changing a part of an object that cannot be changed. -/
def fixedPart (h : Heap) (assign : Bool) (v : Value) (owner : Kind) (name : String) : Failure :=
  match owner.fieldKind name with
  | .computedField =>
    .badAttribute ("property " ++ quoteString name ++ " of " ++ quoteString (h.qualifiedTypeName v) ++
      " object has no " ++ (if assign then "setter" else "deleter"))
  | .partDescriptor => notWritable h (.kind owner) name
  | _ => .badAttribute "readonly attribute"

/-- The failure of changing an attribute of a value that takes none. -/
def fixedAttribute (h : Heap) (v : Value) (name : String) : Failure :=
  let isFixed := match h.classOf v with
    | .kind k => k.fixedNames.contains name
    | .declared _ => false
  if isFixed then notWritable h (h.classOf v) name
  else if name == Heap.nameField && v.isMember then .badAttribute "readonly attribute"
  else if name == Heap.docAttribute || (h.inherited? (h.classOf v) name).isSome then
    .badAttribute ("'" ++ Failure.mostBriefly (h.qualifiedTypeName v) ++ "' object attribute '" ++
      name ++ "' is read-only")
  else .noAttribute (h.changedOwnerText v) name

/-- Whether a name is one of those given, as the comparison with each of them tells. -/
def isAmong (name : Value) : List String → Run Bool
  | [] => return false
  | field :: fields => do
    if ← equivalent (.keptText field) name then return true else isAmong name fields

/-- Refuses to change an attribute of a predicate or of an immutable record. -/
def refuseChange (assign : Bool) (v name : Value) : Run Unit := do
  match v with
  | .predicate .. =>
    throw (.predicateFixed (if assign then "set" else "delete") (← nameForm name))
  | v =>
    if ← isAmong name ((Heap.recordFields v).map (·.1)) then
      throw (.fieldFixed (if assign then "assign to" else "delete") (← nameForm name))
    throw (.badType "super(type, obj): obj must be an instance or subtype of type")

/-- Whether changing an attribute of a value is beyond the value itself: it is a predicate or an
immutable record. -/
def isFrozen : Value → Bool
  | .predicate .. | .metadata .. | .options .. => true
  | _ => false

/-! ## Names -/

/-- Refuses what cannot be the name of a value whose name has to be a text. -/
def requireNameText (v : Value) (name : String) (value : Value) : Run Unit := do
  let h ← heap
  match v, value.text? with
  | .ofClass c, none =>
    throw (.badAttributeValue
      ("can only assign string to " ++ h.qualifiedClassName c ++ "." ++ name ++ ", not '" ++
        h.qualifiedTypeName value ++ "'"))
  | .ofClass _, some s =>
    if name == Heap.nameField && s.contains '\x00' then
      throw (.badValue "type name must not contain null characters")
  | .function .., none | .leaf _, none | .operation _, none | .rule .., none
  | .object _ (.kind .coroutine), none =>
    throw (.badAttributeValue (name ++ " must be set to a string object"))
  | _, _ => return ()

/-! ## Classes of objects -/

/-- Makes a value an object of another class. -/
def assignClass (v value : Value) : Run Unit := do
  let h ← heap
  match value.class? with
  | none =>
    throw (.badAttributeValue
      ("__class__ must be set to a class, not '" ++ h.qualifiedTypeName value ++ "' object"))
  | some c =>
    let old := h.classOf v
    if !(Heap.isOpenClass old && Heap.isOpenClass c) then
      throw (.badAttributeValue
        "__class__ assignment only supported for mutable types or ModuleType subclasses")
    if !h.hasSameLayout old c then
      throw (.badAttributeValue ("__class__ assignment: '" ++ h.qualifiedClassName c ++
        "' object layout differs from '" ++ h.qualifiedClassName old ++ "'"))
    modifyHeap fun h =>
      { h with classes := (v, c) :: h.classes.filter fun e => !e.1.identical v }

/-! ## Bases -/

/-- The lineages of all declared classes, after the bases of one of them have changed. -/
def relineage (h : Heap) : Nat → Except Failure Heap
  | 0 => .ok h
  | n + 1 => do
    let h ← relineage h n
    match h.declarations[n]? with
    | none => return h
    | some d =>
      let lineage ← h.mergedLineage (if d.bases.isEmpty then [.kind .object] else d.bases)
      return { h with declarations := h.declarations.modify n fun d => { d with lineage } }

/-- Changes the bases of a class. -/
def assignBases (c : Class) (value : Value) : Run Unit := do
  let h ← heap
  let owner := h.qualifiedClassName c ++ "." ++ Heap.basesAttribute
  match value, c with
  | .tuple _ _ [], _ => throw (.badType ("can only assign non-empty tuple to " ++ owner ++ ", not ()"))
  | .tuple _ _ items, .declared p =>
    for item in items do
      match item with
      | .ofClass b =>
        if h.derives b c then
          throw (.badType "a __bases__ item causes an inheritance cycle")
      | item =>
        throw (.badType
          (owner ++ " must be tuple of classes, not '" ++ h.qualifiedTypeName item ++ "'"))
    let base := (← ofExcept (h.commonBase none items)).getD (.kind .object)
    let old := ((h.declarations[p]?).map (·.base)).getD (.kind .object)
    if old == .kind .object && base != old then
      throw (.badType ("__bases__ assignment: '" ++ h.qualifiedClassName base ++
        "' deallocator differs from 'object'"))
    if !h.hasSameLayout old base then
      throw (.badType ("__bases__ assignment: '" ++ h.qualifiedClassName base ++
        "' object layout differs from '" ++ h.qualifiedClassName old ++ "'"))
    let bases := items.filterMap Value.class?
    let h := { h with declarations := h.declarations.modify p fun d => { d with base, bases } }
    let h ← ofExcept (relineage h h.declarations.size)
    modifyHeap fun _ => h
  | value, _ =>
    throw (.badType
      ("can only assign tuple to " ++ owner ++ ", not " ++ h.qualifiedTypeName value))

/-! ## Parts -/

/-- Changes a part of an object of a kind, or takes it away. -/
def changePart (v : Value) (owner : Kind) (name : String) (value : Option Value) : Run Unit := do
  let h ← heap
  if owner == .function || name == "__annotations__" then
    match changeableParts.lookup name, value with
    | none, _ => throw (fixedPart h value.isSome v owner name)
    | some _, none =>
      if name == "__code__" then throw (.badType "__code__ must be set to a code object")
      modifyHeap fun h => h.unassign v name
    | some k, some a =>
      if !v.isClass && !(h.isOfKind a k || (a.identical .null && k != .code)) then
        throw (.badType (name ++ " must be set to a " ++ k.name ++ " object"))
      modifyHeap fun h => h.assign v name a
  else if owner == .constructionError || owner == .assertError then
    match name, value with
    | "args", some a => do
      let items ← toTuple a
      modifyHeap fun h => h.assign v name items
    | name, none => throw (.badType (name ++ " may not be deleted"))
    | name, some a =>
      if a.identical .null || h.isOfKind a .constructionError || h.isOfKind a .assertError then
        modifyHeap fun h => h.assign v name a
      else
        throw (.badType (if name == "__traceback__" then "__traceback__ must be a traceback or None"
          else "exception " ++ name.replace "_" "" ++
            " must be None or derive from BaseException"))
  else throw (fixedPart h value.isSome v owner name)

/-- Changes what stands in a class under a name through an object, by the methods of what stands
there. -/
def changeThrough (d v : Value) (value : Option Value) : Run Unit := do
  let h ← heap
  let name := if value.isSome then "__set__" else "__delete__"
  match h.hook? (h.classOf d) name with
  | some method => discard (callHook method d (v :: value.toList))
  | none => throw (.badAttribute name)

/-! ## Changing

Attributes are kept apart for classes and for objects, and both may have methods of their own for a
change.  So there is one definition for each of these, and `setAttribute` decides between them. -/

/-- Whose attribute is assigned when one of a value is.  A class with a parameter passes the
assignment on to the class, unless the name is reserved. -/
def assignee (v : Value) (name : String) : Value :=
  match v with
  | .generic _ _ c@(.kind .predicate) _ => if Heap.isReservedName name then v else .ofClass c
  | v => v

/-- The attributes of a class that can be assigned but not deleted. -/
def lastingAttributes : List String :=
  [Heap.nameField, Heap.nestedNameAttribute, Heap.moduleAttribute, Heap.basesAttribute,
    Heap.docAttribute]

/-- Changes the mapping of all attributes of a value. -/
def changeNamespace (v : Value) (value : Option Value) : Run Unit := do
  let h ← heap
  match value with
  | some dict =>
    if (h.entries? dict).isNone then
      throw (.badType ("__dict__ must be set to a dictionary, not a '" ++
        Failure.briefly (h.qualifiedTypeName dict) ++ "'"))
    discard (namespaceOf v)
    modifyHeap fun h =>
      { h with namespaces := (v, dict) :: h.namespaces.filter fun n => !n.1.identical v }
  | none =>
    if v.isFunction || [.kind .bound, .kind .orderedDict].contains (h.initialClass v) then
      throw (.badType "cannot delete __dict__")
    discard (namespaceOf v)
    let dict ← alloc (.kind .dict) (.dict [])
    modifyHeap fun h =>
      { h with namespaces := (v, dict) :: h.namespaces.filter fun n => !n.1.identical v }

/-- Settles whether a class is kept from having objects, by the truth value of the names of the
methods that it only names. -/
def settle (c : Class) (value : Value) : Run Unit := do
  let abstract ← truth value
  modifyHeap fun h => { h with abstractness := (c, abstract) :: h.abstractness }

/-- Assigns an attribute of a class. -/
def assignOfClass (c : Class) (nameValue : Value) (name : String) (value : Value) :
    Run Unit := do
  let h ← heap
  if !Heap.isOpenClass c then
    throw (.badType ("cannot set " ++ (← nameForm nameValue) ++
      " attribute of immutable type '" ++ h.qualifiedClassName c ++ "'"))
  if name == Heap.basesAttribute then assignBases c value
  else
    if Heap.isNaming name then requireNameText (.ofClass c) name value
    if name == abstractAttribute then settle c value
    if name == Heap.namespaceAttribute then
      throw (fixedPart h true (.ofClass c) .kind Heap.namespaceAttribute)
    match h.inherited? (.kind (h.classOfClass c)) name with
    | some (.assigned (.field owner field)) =>
      if h.isPart (.assigned (.field owner field)) && name != abstractAttribute then
        changePart (.ofClass c) owner field (some value)
      else modifyHeap fun h => h.assign (.ofClass c) name value
    | _ => modifyHeap fun h => h.assign (.ofClass c) name value

/-- Deletes an attribute of a class. -/
def unassignOfClass (c : Class) (nameValue : Value) (name : String) : Run Unit := do
  let h ← heap
  let refusal := fun (verb : String) => do
    throw (.badType ("cannot " ++ verb ++ " " ++ (← nameForm nameValue) ++
      " attribute of immutable type '" ++ h.qualifiedClassName c ++ "'"))
  if !Heap.isOpenClass c then refusal "set"
  else if lastingAttributes.contains name then refusal "delete"
  else match h.inherited? (.kind (h.classOfClass c)) name, h.assigned? (.ofClass c) name with
    | some (.assigned (.field owner field)), a? =>
      if h.isPart (.assigned (.field owner field)) then
        if (name == "__annotations__" || name == abstractAttribute) && a?.isNone then
          throw (.badAttribute name)
        if name == abstractAttribute then remove h
        else changePart (.ofClass c) owner field none
      else remove h
    | _, none => throw (.noAttribute (h.ownerText (.ofClass c)) name)
    | _, some _ => remove h
where
  /-- Takes the attribute away, if it is there. -/
  remove (h : Heap) : Run Unit := do
    if (h.assigned? (.ofClass c) name).isNone then
      throw (.noAttribute (h.ownerText (.ofClass c)) name)
    modifyHeap fun h =>
      let h := h.unassign (.ofClass c) name
      if name == abstractAttribute then { h with abstractness := (c, false) :: h.abstractness }
      else h

/-- Assigns an attribute in the ordinary way. -/
def assignAttribute (v nameValue : Value) (name : String) (value : Value) : Run Unit := do
  let h ← heap
  if isFrozen v then refuseChange true v nameValue
  else if name == Heap.classAttribute then assignClass v value
  else match v with
    | .ofClass c => assignOfClass c nameValue name value
    | v =>
      let store := do
        if Heap.isNaming name then requireNameText v name value
        modifyHeap fun h => h.assign (assignee v name) name value
      match h.inherited? (h.classOf v) name with
      | some (.assigned (.field owner field)) =>
        if h.isPart (.assigned (.field owner field)) then changePart v owner field (some value)
        else if h.takesAttributes v then store
        else throw (fixedAttribute h v name)
      | some (.assigned d) =>
        if h.isPart (.assigned d) then changeThrough d v (some value)
        else if h.takesAttributes v then store
        else throw (fixedAttribute h v name)
      | _ =>
        if name == Heap.namespaceAttribute && h.hasNamespace v then changeNamespace v (some value)
        else match reference? h v name with
          | some c => throw (notWritable h c name)
          | none =>
            if h.takesAttributes v || hasOpen h v name then store
            else throw (fixedAttribute h v name)
where
  /-- The class by which a value tells who refers to it, if that is asked for. -/
  reference? (h : Heap) (v : Value) (name : String) : Option Class :=
    if name == weakReference then h.referringClass? (h.classOf v) else none
  /-- Whether a value has an attribute that can be changed, though it takes no others. -/
  hasOpen (h : Heap) (v : Value) (name : String) : Bool :=
    (Heap.isNaming name && h.classOf v == .kind .coroutine) ||
      (name == Heap.moduleAttribute && h.classOf v == .kind .builtin)

/-- Assigns an attribute. -/
def setAttribute (v attributeName value : Value) : Run Value := do
  let name ← attributeText attributeName
  match (← heap).slot? .setAttribute v with
  | some (.assigned method) => discard (callBound method v [attributeName, value])
  | _ => assignAttribute v attributeName name value
  return .null

/-- Deletes an attribute in the ordinary way. -/
def unassignAttribute (v nameValue : Value) (name : String) : Run Unit := do
  let h ← heap
  let leavesNull := (name == Heap.docAttribute && v.isFunction) ||
    (name == Heap.moduleAttribute && (v.isFunction || h.classOf v == .kind .builtin))
  let remove := do
    if leavesNull then modifyHeap fun h => h.assign v name .null
    else
      if (h.assigned? v name).isNone then throw (.noAttribute (h.changedOwnerText v) name)
      modifyHeap fun h => h.unassign v name
  if isFrozen v then refuseChange false v nameValue
  else if name == Heap.classAttribute then
    throw (.badAttributeValue "can't delete __class__ attribute")
  else match v with
    | .ofClass c => unassignOfClass c nameValue name
    | v =>
      match h.inherited? (h.classOf v) name with
      | some (.assigned (.field owner field)) =>
        if h.isPart (.assigned (.field owner field)) then changePart v owner field none
        else if h.takesAttributes v then remove
        else throw (fixedAttribute h v name)
      | some (.assigned d) =>
        if h.isPart (.assigned d) then changeThrough d v none
        else if h.takesAttributes v then remove
        else throw (fixedAttribute h v name)
      | _ =>
        if name == Heap.namespaceAttribute && h.hasNamespace v then changeNamespace v none
        else match assignAttribute.reference? h v name with
          | some c => throw (notWritable h c name)
          | none =>
            if h.takesAttributes v || assignAttribute.hasOpen h v name then
              if Heap.isNaming name then requireNameText v name .null
              remove
            else throw (fixedAttribute h v name)

/-- Deletes an attribute. -/
def deleteAttribute (v attributeName : Value) : Run Value := do
  let name ← attributeText attributeName
  match (← heap).slot? .deleteAttribute v with
  | some (.assigned method) => discard (callBound method v [attributeName])
  | _ => unassignAttribute v attributeName name
  return .null

end Run

end ValueShape
