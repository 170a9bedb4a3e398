import ValueShape.Conduct.Lookup

/-!
# Attributes

Reading what belongs to a value under a name.

* `Run.readAttribute` and `Run.getAttribute` read attributes.  A function that an object shares with
  its class is read as a method of the object, and `Run.callBound` calls it as such.  The class of
  the object may have methods of its own for attributes that are missing, and for all of them.
* `Run.readPart` is a part of an object, and `Run.namespaceOf` the mapping that its attributes are
  kept in.
* `Run.isInstance` asks whether a value belongs to a class.  A value whose class reads attributes in
  its own way is asked which class that is.
-/

set_option autoImplicit false

namespace ValueShape

namespace Heap

/-- The name of the attribute that is the mapping of all attributes of a value. -/
def namespaceAttribute : String := "__dict__"

/-- Whether the attributes of a value can be changed. -/
def takesAttributes (h : Heap) (v : Value) : Bool :=
  match v with
  | .predicate .. | .metadata .. | .options .. | .method .. | .field .. => false
  | .generic _ _ c _ => c == .kind .predicate
  | .ofClass c => isOpenClass c
  | v =>
    match h.initialClass v with
    | .kind k => k.isOpen
    | .declared _ => true

/-- Whether a value can show the mapping of its attributes. -/
def hasNamespace (h : Heap) (v : Value) : Bool :=
  match v with
  | .ofClass _ | .generic .. => false
  | .predicate .. | .metadata .. | .options .. =>
    match h.initialClass v with
    | .declared _ => true
    | _ => false
  | v => h.takesAttributes v

/-- Whether an attribute is stored apart from the mapping of all attributes of a value. -/
def isStoredApart (h : Heap) (v : Value) (name : String) : Bool :=
  (v.isFunction && (isNaming name || name == docAttribute || name == moduleAttribute)) ||
    (h.inherited? (h.classOf v) name).any h.isPart

end Heap

/-- The name of the attribute that tells who refers to a value without keeping it alive. -/
def weakReference : String := "__weakref__"

/-- The class from which the objects of a class have room for being referred to in that way. -/
def Heap.referringClass? (h : Heap) (c : Class) : Option Class :=
  (h.lineage c).find? fun c => match c with
    | .declared p =>
      h.hasReferableObjects c && !((h.declarations[p]?).any fun d => h.hasReferableObjects d.base)
    | .kind k =>
      k.isReferable && (k.isHosted || [.predicate, .constructionError, .assertError].contains k)

namespace Run

/-! ## Methods -/

/-- Calls what a class has as a method, for one of its objects.  A function is given the object, and
a value that answers in its own way is asked what to call. -/
def callBound (method self : Value) (args : List Value) : Run Value := do
  if method.isBinding then call method (self :: args)
  else
    let h ← heap
    match h.getter? method with
    | some getter =>
      let own := [self, .ofClass (h.classOf self)]
      let bound ← if getter.isBinding then call getter (method :: own) else call getter own
      call bound args
    | none => call method args

/-- Calls the method of a value that stands in its class, without regard to how that answers. -/
def callHook (method self : Value) (args : List Value) : Run Value :=
  if method.isBinding then call method (self :: args) else call method args

/-! ## Parts

Some parts of a value are made when they are first read, and kept.  Others are made anew each
time. -/

/-- A mapping that belongs to a value under a name, which is made when it is first read. -/
def ownMapping (v : Value) (name : String) : Run Value := do
  let dict ← alloc (.kind .dict) (.dict [])
  modifyHeap fun h => h.assign v name dict
  return dict

/-- The classes that a class names as its bases. -/
def basesOf (h : Heap) (c : Class) : List Class :=
  match c with
  | .kind k => k.directBases.map .kind
  | .declared p => ((h.declarations[p]?).map (·.bases)).getD []

/-- The name of the attribute that holds the names of the methods that a class only names. -/
def abstractAttribute : String := "__abstractmethods__"

/-- The names of the methods that a class only names, if it is of the abstract kind or was given
such names. -/
def abstractNames? (c : Class) : Run (Option Value) := do
  match (← heap).assigned? (.ofClass c) abstractAttribute, c with
  | some names, _ => return some names
  | none, .kind k =>
    if !k.hasAbstractClass then return none
    let names := k.missingMethods.map fun m => Key.mk (Value.keptText m.name) (hashText m.name)
    let set := Value.frozenSet (.kind .frozenSet) (← fresh) names
    modifyHeap fun h => h.assign (.ofClass c) abstractAttribute set
    return some set
  | none, .declared _ => return none

/-- A part of a class. -/
def classPart (c : Class) (name : String) : Run (Option Value) := do
  let h ← heap
  if name == Heap.basesAttribute then some <$> tuple ((basesOf h c).map .ofClass)
  else if name == "__mro__" then some <$> tuple ((h.lineage c).map .ofClass)
  else if name == "__base__" then
    return some (((basesOf h c).head?.map .ofClass).getD .null)
  else if name == abstractAttribute then
    match ← abstractNames? c with
    | some names => return some names
    | none => throw (.badAttribute name)
  else if name == "__annotations__" then
    match h.assigned? (.ofClass c) name with
    | some v => return some v
    | none => if Heap.isOpenClass c then some <$> ownMapping (.ofClass c) name else return none
  else return none

/-- A part of an object that is made anew whenever it is read. -/
def madePart? (v : Value) (name : String) : Run (Option Value) := do
  match name, v, (← heap).contents? v with
  | "mapping", _, some (.listing _ source) => some <$> view source
  | "__args__", .generic _ _ _ (.tuple _ _ items), _ => some <$> tuple items
  | "__args__", .generic _ _ _ parameter, _ => some <$> tuple [parameter]
  | _, _, _ => return none

/-- A part of an object of a kind; `read` reads the attribute that a computed field tells. -/
def readPart (read : Value → String → Run Value) (v : Value) (owner : Kind) (name : String) :
    Run Value := do
  let h ← heap
  if owner.fieldKind name == .computedField then read v (Heap.storedField name)
  else if !h.isOfKind v owner then throw (h.partMismatch owner name v)
  else match h.part? v name, v with
    | some part, _ => identified part
    | none, .ofClass c =>
      match ← classPart c name with
      | some part => return part
      | none => throw (.noAttribute (h.ownerText v) name)
    | none, v =>
      match ← madePart? v name with
      | some part => return part
      | none => pure ()
      if name == "__annotations__" || name == "keywords" then ownMapping v name
      else if owner.fieldKind name == .memberField then
        throw (.noAttribute ("'" ++ Failure.briefly (h.qualifiedTypeName v) ++ "' object") name)
      else throw (.noAttribute (h.ownerText v) name)

/-- The mapping that the attributes of a value are kept in. -/
def namespaceOf (v : Value) : Run Value := do
  let h ← heap
  match h.namespace? v with
  | some dict => return dict
  | none =>
    let own := (h.ownAttributes v).filter fun a => !h.isStoredApart v a.1
    let dict ← alloc (.kind .dict)
      (.dict (own.map fun a => (⟨.keptText a.1, hashText a.1⟩, a.2)))
    modifyHeap fun h =>
      let h := own.foldl (fun h a => h.unassign v a.1) h
      { h with namespaces := (v, dict) :: h.namespaces }
    return dict

/-! ## Reading

The class of a value may read attributes in its own way, or answer for those that are missing.  A
computed field tells another attribute, and how often this leads on is bounded. -/

/-- The text that names an attribute. -/
def attributeText (v : Value) : Run String := do
  match v.text? with
  | some s => return s
  | none => throw (.badAttributeName ((← heap).qualifiedTypeName v))

/-- The failure of reading an attribute that is not there. -/
def missingAttribute (h : Heap) (v : Value) (name : String) : Failure :=
  match v with
  | .generic _ _ (.kind .predicate) _ =>
    if Heap.isReservedName name then .badAttribute name else .noAttribute (h.ownerText v) name
  | .generic .. =>
    if Heap.genericNames.contains name then
      .noAttribute ("'" ++ Failure.briefly (h.qualifiedTypeName v) ++ "' object") name
    else .noAttribute (h.ownerText v) name
  | .method _ fn _ =>
    if h.classOf v == .kind .method then .noAttribute (h.ownerText fn) name
    else .noAttribute (h.ownerText v) name
  | v => .noAttribute (h.ownerText v) name

/-- What the method of a class becomes for an object: a method of the object. -/
def bindMethod (fn v : Value) : Run Value := do
  let h ← heap
  match fn with
  | .field owner name =>
    if !fn.isFunction && !h.isOfKind v owner then throw (h.partMismatch owner name v)
  | _ => pure ()
  return .method (← fresh) fn v

/-- The method that a kind has by itself, as it is read through a value.  Some kinds only say that
they have no hash. -/
def nativeMethod (k : Kind) (v : Value) (name : String) : Run Value := do
  if name == Method.hash.name && !k.isHashable then return .null
  if name == Method.creation.name then
    let makes := fun (b : Kind) => (b.memberSort? name).isSome
    return .field ((k.lineage.find? makes).getD .object) name
  let h ← heap
  let bound : Bool := match v with
    | .ofClass c => !h.derives c (.kind k)
    | .generic .. => k == .generic || k == .parameterized
    | _ => true
  let c := match v with
    | .ofClass c | .generic _ _ c _ => c
    | v => h.classOf v
  if name == Method.classItem.name then return .method (← fresh) (.field k name) (.ofClass c)
  else if bound then bindMethod (.field k name) v
  else return .field k name

/-- The entries of a foreign mapping as a list of pairs, which is made when it is first read. -/
def ownPairs (v : Value) (entries : List (Value × Value)) : Run Value := do
  let pairs ← list (← entries.mapM fun e => tuple [e.1, e.2])
  modifyHeap fun h => h.assign v entriesAttribute pairs
  return pairs

/-- What an attribute is found as, for a value whose class reads attributes in the ordinary way. -/
def readFound (read : Value → String → Run Value) (v : Value) (name : String) :
    Option Found → Run Value
  | some (.value (.method _ fn self)) => do
    match fn with
    | .field .. => return .method (← fresh) fn self
    | _ => identified (.method 0 fn self)
  | some (.value a) => identified a
  | some (.function fn) => bindMethod fn v
  | some (.native k) => nativeMethod k v name
  | some (.part owner field) => readPart read v owner field
  | some (.descriptor d getter) => do
    match v with
    | .ofClass c => callHook getter d [.null, .ofClass c]
    | v => callHook getter d [v, .ofClass ((← heap).classOf v)]
  | none => do
    let h ← heap
    if name == entriesAttribute && !v.isClass then
      if let some m := h.foreign? v then return ← ownPairs v m.entries
    if name == Heap.namespaceAttribute && h.hasNamespace v then namespaceOf v
    else if name == weakReference && !v.isClass && (h.referringClass? (h.classOf v)).isSome then
      return .null
    else throw (missingAttribute h v name)

/-- The attribute of a value, by the methods of its class for an attribute that is missing and for
attributes in general, where fewer than `fuel` computed fields tell each other. -/
def readAttributeUpTo : Nat → Value → String → Run Value
  | 0, _, _ => throw .tooDeep
  | fuel + 1, v, name => do
    let h ← heap
    let plainly := do readFound (readAttributeUpTo fuel) v name (h.find? v name)
    let found ← match h.slot? .readAttribute v with
      | some (.assigned method) =>
        recovering Failure.isOfAttribute (callBound method v [.text name])
      | _ =>
        match h.slot? .missingAttribute v with
        | some (.assigned _) => recovering Failure.isOfAttribute plainly
        | _ => some <$> plainly
    match found, h.slot? .missingAttribute v with
    | some a, _ => return a
    | none, some (.assigned method) => callBound method v [.text name]
    | none, _ => throw (missingAttribute h v name)

/-- The attribute of a value, by the methods of its class for an attribute that is missing and for
attributes in general. -/
def readAttribute (v : Value) (name : String) : Run Value := readAttributeUpTo 1000 v name

/-- The attribute of a value. -/
def getAttribute (v attributeName : Value) : Run Value := do
  readAttribute v (← attributeText attributeName)

/-- The attribute of a value, if it has it. -/
def attribute? (v : Value) (name : String) : Run (Option Value) :=
  recovering Failure.isOfAttribute (readAttribute v name)

/-- What a value is called with under the name of a method. -/
inductive Callee
  /-- A value to be called with the arguments alone. -/
  | value (f : Value)
  /-- A function to be called with the value and the arguments. -/
  | function (fn : Value)
  /-- A method that a kind has by itself. -/
  | native (k : Kind)

/-- What a value is called with under the name of a method. -/
def findMethod (v : Value) (m : Method) : Run Callee := do
  let h ← heap
  match h.slot? .readAttribute v, h.slot? .missingAttribute v, h.find? v m.name with
  | some (.assigned _), _, _ | _, some (.assigned _), none => .value <$> readAttribute v m.name
  | _, _, some (.value f) => return .value f
  | _, _, some (.function fn) => return .function fn
  | _, _, some (.native k) => return .native k
  | _, _, _ => .value <$> readAttribute v m.name

/-! ## Classes

A value whose class reads attributes in its own way can say that it is of another class.  Only such
a value is asked. -/

/-- The class that an object says it is of, if that is another one than its own. -/
def claimedClass? (v : Value) : Run (Option Value) := do
  let h ← heap
  match ← attribute? v Heap.classAttribute with
  | some claimed =>
    return if claimed.identical (.ofClass (h.classOf v)) then none else some claimed
  | none => return none

/-- Whether a value belongs to a class of the abstract kind.  The class that the value says it is of
counts first. -/
def isInstanceOfAbstract (v : Value) (c : Class) : Run Bool := do
  let h ← heap
  if h.classOf v == c then return true
  match ← readAttribute v Heap.classAttribute with
  | .ofClass claimed => return h.derives claimed c || h.isInstance v c
  | _ => throw (.badType "issubclass() arg 1 must be a class")

/-- Whether a value belongs to a class, as far as it says so itself. -/
def isInstance (v : Value) (c : Class) : Run Bool := do
  let h ← heap
  match h.slot? .readAttribute v with
  | some (.assigned _) =>
    if h.classOfClass c == .abstractKind then isInstanceOfAbstract v c
    else if h.isInstance v c then return true
    else match ← claimedClass? v with
      | some (.ofClass claimed) => return h.derives claimed c
      | _ => return false
  | _ => return h.isInstance v c

/-- Whether a value belongs to a kind, as far as it says so itself. -/
def isOfKind (v : Value) (k : Kind) : Run Bool := isInstance v (.kind k)

/-- Whether a value belongs to one of several kinds, as far as it says so itself. -/
def isOfAnyKind (v : Value) : List Kind → Run Bool
  | [] => return false
  | k :: ks => do if ← isOfKind v k then return true else isOfAnyKind v ks

/-- Whether the class of a value reads attributes in its own way, so that the value is asked which
class it belongs to. -/
def asksForClass (v : Value) : Run Bool := do
  match (← heap).slot? .readAttribute v with
  | some (.assigned _) => return true
  | _ => return false

/-- Whether a value is primitive, as far as it says so itself. -/
def isPrimitive (v : Value) : Run Bool := do
  if ← asksForClass v then isOfAnyKind v [.undefined, .bool, .int, .float, .text, .bytes]
  else return (← heap).isPrimitive v

/-- Whether a value is a text or bytes, as far as it says so itself. -/
def isTextual (v : Value) : Run Bool := do
  if ← asksForClass v then isOfAnyKind v [.text, .bytes, .buffer]
  else return (← heap).isTextual v

end Run

end ValueShape
