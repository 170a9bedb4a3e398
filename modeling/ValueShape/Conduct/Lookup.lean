import ValueShape.Session

/-!
# Finding attributes

What stands under a name, in a value or in its class.

* `Heap.inherited?` is what a class has under a name, by itself or from a class above.
* `Heap.find?` finds an attribute: one that belongs to the value itself, or one that stands in its
  class.  A part that stands in the class goes before an attribute of the value itself, and that
  before all else that stands in the class.
* `Found` says what becomes of it: a function of the class becomes a method of the object, a part is
  told by the object, and a value whose class has methods for it may answer in its own way.
-/

set_option autoImplicit false

namespace ValueShape

namespace Heap

/-! ## Functions -/

/-- The module that a function belongs to, and its name together with the place that it is made
in.  A function of the caller is made at the top of its module under its own name, unless it says
otherwise (`nestedName`). -/
def functionPlace? (h : Heap) : Value → Option (String × String)
  | .leaf l => some (Leaf.moduleName, l.name)
  | .operation o => some (o.moduleName, o.name)
  | .rule _ check => some (check.moduleName, check.nestedName)
  | .function _ name _ _ => some (Kind.hostModule, name.text)
  | .builtin _ .length => some ("", Builtin.length.name)
  | .builtin _ .callable => some ("", Builtin.callable.name)
  | .method _ fn _ => h.functionPlace? fn
  | .field owner name =>
    if owner.memberSort? name == some .function then
      some (owner.moduleName, owner.name ++ "." ++ owner.shownMemberName name)
    else none
  | _ => none

/-- The name of a function together with the place that it is made in.  A function of the caller that is
made inside another one, or gets another name later, has this name as an attribute. -/
def nestedName (h : Heap) (fn : Value) : String :=
  (((h.assigned? fn nestedNameAttribute).bind Value.text?).or ((h.functionPlace? fn).map (·.2))).getD
    (((h.nameAttribute fn).bind Value.text?).getD "")

/-! ## Classes -/

/-- Whether a class takes new attributes, and its objects may change to another class. -/
def isOpenClass : Class → Bool
  | .kind k => k.isOpenClass
  | .declared _ => true

/-- The name of the attribute that holds the bases of a class. -/
def basesAttribute : String := "__bases__"

/-- The attributes that name a class or a function, which have to be texts. -/
def isNaming (name : String) : Bool := name == nameField || name == nestedNameAttribute

/-- What a class itself has under a name. -/
def ownMember? (h : Heap) (name : String) (method? : Option Method) (c : Class) : Option Slot :=
  match h.assigned? (.ofClass c) name, c with
  | some v, _ => some (.assigned v)
  | none, .kind k =>
    if method?.any k.provides then some (.native k)
    else (k.memberSort? name).map fun _ => .assigned (.field k name)
  | none, .declared _ => none

/-- What a class has under a name, or has from a class above.  The names and the bases of a class
are its own. -/
def inherited? (h : Heap) (c : Class) (name : String) : Option Slot :=
  if isNaming name || name == basesAttribute && c != .kind .kind && c != .kind .abstractKind then none
  else (h.lineage c).findSome? (h.ownMember? name (Method.ofName? name))

/-- A value that was assigned to a class, or to a class above, under a name that the language gives
a meaning to. -/
def hook? (h : Heap) (c : Class) (name : String) : Option Value :=
  match h.inherited? c name with
  | some (.assigned (.field ..)) => none
  | some (.assigned v) => some v
  | _ => none

/-! ## Parts -/

/-- The fields of an immutable record, by name. -/
def recordFields : Value → List (String × Value)
  | .metadata _ _ factory args => [("name", .ofName factory), ("args", args)]
  | .options _ _ threshold maxDepth => [("threshold", threshold), ("max_depth", maxDepth)]
  | _ => []

/-- The stored fields of a predicate, by name. -/
def predicateFields : Value → List (String × Value)
  | .predicate _ name f decider =>
    [("_name", .ofName name), ("_optional", .bool f.optional), ("_readonly", .bool f.readonly),
      ("_check", decider)]
  | _ => []

/-- The stored field that a computed one tells. -/
def storedField (computed : String) : String := "_" ++ computed

/-- The tuple without elements. -/
def emptyTuple : Value := .tuple (.kind .tuple) 0 []

/-- The parts of a number, by name. -/
def numberParts : Value → List (String × Value)
  | .bool b =>
    let n := if b then 1 else 0
    [("real", .int n), ("imag", .int 0), ("numerator", .int n), ("denominator", .int 1)]
  | .scalar c id (.int n) =>
    let same := if c == .kind .int then Value.scalar c id (.int n) else .int n
    [("real", same), ("imag", .int 0), ("numerator", same), ("denominator", .int 1)]
  | .scalar c id (.float bits) =>
    let same := Value.scalar (.kind .float) (if c == .kind .float then id else 0) (.float bits)
    [("real", same), ("imag", .scalar (.kind .float) 0 (.float 0))]
  | .complex _ _ re im =>
    [("real", .scalar (.kind .float) 0 (.float re)), ("imag", .scalar (.kind .float) 0 (.float im))]
  | _ => []

/-- The parts of other values that can be read but not changed, by name. -/
def fixedFields (h : Heap) : Value → List (String × Value)
  | .bound _ _ fn => [("func", fn), ("args", emptyTuple)]
  | .range _ start stop step => [("start", .int start), ("stop", .int stop), ("step", .int step)]
  | .slice _ start => [("start", .int start), ("stop", .null), ("step", .null)]
  | .method _ (.field owner name) self =>
    [("__func__", .field owner name), ("__self__", self), ("__objclass__", .ofClass (.kind owner))]
  | .method _ fn self => [("__func__", fn), ("__self__", self)]
  | .generic _ starred _ _ =>
    [("__parameters__", emptyTuple), ("__unpacked__", .bool starred),
      ("__typing_unpacked_tuple_args__", .null)]
  | .field owner name =>
    if owner.fieldKind name == .computedField then
      [("fset", .null), ("fdel", .null), ("__isabstractmethod__", .bool false)]
    else
      [("__objclass__", .ofClass (.kind owner)),
        ("__self__", if name == Method.creation.name then .ofClass (.kind owner) else .null)]
  | v =>
    match h.contents? v with
    | some (.queue _) => [("maxlen", .null)]
    | _ => numberParts v

/-- The parts of functions, pending results and failures that nothing else has been said about. -/
def defaultParts (v : Value) : List (String × Value) :=
  [("__defaults__", .null), ("__kwdefaults__", .null), ("__closure__", .null), ("__doc__", .null),
    ("__code__", .code v.isAsync), ("cr_await", .null), ("cr_origin", .null),
    ("cr_running", .bool false), ("cr_suspended", .bool false), ("gi_yieldfrom", .null),
    ("gi_running", .bool false), ("gi_suspended", .bool false), ("args", emptyTuple),
    ("__traceback__", .null), ("__context__", .null), ("__cause__", .null)]

/-- What a member of a kind tells about an object, if that is known without asking. -/
def part? (h : Heap) (v : Value) (name : String) : Option Value :=
  ((recordFields v ++ predicateFields v ++ h.fixedFields v).lookup name).or <|
    match v with
    | .predicate .. | .metadata .. | .options .. => none
    | v => (h.assigned? v name).or
        (if (h.kinds (h.classOf v)).any fun k => !k.fields.isEmpty then none
        else (defaultParts v).lookup name)

/-! ## Descriptors

What stands in a class may go before the attributes of its objects, or behind them.  This depends on
whether it has methods for being read and changed through the object. -/

/-- Whether a value has a method for being read through an object that it is shared by. -/
def getter? (h : Heap) (v : Value) : Option Value := h.hook? (h.classOf v) "__get__"

/-- Whether what stands in a class goes before the attributes of its objects: it is a part of them,
or it has a method for being changed through them. -/
def isPart (h : Heap) : Slot → Bool
  | .assigned (.field owner name) =>
    [.memberField, .computedField, .partDescriptor].contains (owner.fieldKind name)
  | .assigned v =>
    (h.hook? (h.classOf v) "__set__").isSome || (h.hook? (h.classOf v) "__delete__").isSome
  | .native _ => false

/-- Whether a field of a kind stands in a class. -/
def isField : Slot → Bool
  | .assigned (.field ..) => true
  | _ => false

end Heap

/-- What is found under the name of an attribute. -/
inductive Found
  /-- A value. -/
  | value (v : Value)
  /-- A function of the class, which becomes a method of the value. -/
  | function (fn : Value)
  /-- A method that a kind has by itself. -/
  | native (k : Kind)
  /-- A part of the objects of a kind. -/
  | part (owner : Kind) (name : String)
  /-- A value of the class that answers in its own way, by a method. -/
  | descriptor (d getter : Value)

namespace Heap

/-! ## Finding -/

/-- What becomes of that which stands in the class of a value.  The attribute of the value itself
goes before a part that cannot be read. -/
def foundInClass (h : Heap) (v : Value) (own : Option Value) (slot : Slot) : Found :=
  match slot with
  | .native k => .native k
  | .assigned (.field owner name) =>
    match owner.memberSort? name with
    | some .classMethod => .value (.method 0 (.field owner name) (.ofClass (h.classOf v)))
    | some .static => .value (.field owner name)
    | _ => if h.isPart slot then .part owner name else .function (.field owner name)
  | .assigned a =>
    if a.isBinding then .function a
    else match h.getter? a with
      | some getter => .descriptor a getter
      | none => .value (own.getD a)

/-- The module of a class or function, as it is told on request. -/
def shownModule (moduleName : String) : Value :=
  .keptText (if moduleName.isEmpty then builtinModule else moduleName)

/-- The name of the attribute that describes a class or a function. -/
def docAttribute : String := "__doc__"

/-- An attribute that every object of a class that takes attributes has from the class. -/
def sharedDefault? (h : Heap) (c : Class) (name : String) : Option Value :=
  if name == moduleAttribute && isOpenClass c then some (shownModule (h.moduleOfClass c))
  else match c with
    | .declared _ => if name == docAttribute then some .null else none
    | _ => none

/-- The attribute of an object, found in the object or in its class. -/
def findInObject? (h : Heap) (v : Value) (name : String) : Option Found :=
  let own := h.assigned? v name
  match h.inherited? (h.classOf v) name, own with
  | some slot, own =>
    some (if h.isPart slot then h.foundInClass v own slot
      else own.elim (h.foundInClass v none slot) .value)
  | none, some a => some (.value a)
  | none, none => (h.sharedDefault? (h.classOf v) name).map .value

/-- What a class has under a name, as it is found through the class. -/
def findInClass? (h : Heap) (c : Class) (name : String) : Option Found :=
  (h.inherited? c name).map fun slot => match slot with
    | .native k => .native k
    | .assigned (.field owner field) =>
      if owner.memberSort? field == some .classMethod then
        .value (.method 0 (.field owner field) (.ofClass c))
      else .value (.field owner field)
    | .assigned v =>
      match h.getter? v with
      | some getter => .descriptor v getter
      | none => .value v

/-- What a class or function tells about the place that it is made in. -/
def placeAttribute? (h : Heap) (v : Value) (name : String) : Option Value :=
  let place := match v with
    | .ofClass c | .generic _ _ c _ => some (h.moduleOfClass c, h.firstClassName c)
    | v => h.functionPlace? v
  place.bind fun place =>
    if name == moduleAttribute then some (shownModule place.1)
    else if name == nestedNameAttribute then some (.keptText place.2)
    else match v with
      | .function .. => if name == docAttribute then some .null else none
      | _ => none

/-- Whether a name belongs to the language that values are described in. -/
def isReservedName (name : String) : Bool := name.startsWith "__" && name.endsWith "__"

/-- The attribute of a class: one that it has in common with its objects, or one of the class that
it is an object of.  Parts of classes go before both. -/
def findOfClass? (h : Heap) (c : Class) (name : String) : Option Found :=
  if name == nestedNameAttribute then some (.value (.keptText (h.nestedClassName c)))
  else if name == moduleAttribute then
    some (.value ((h.assigned? (.ofClass c) name).getD (shownModule (h.moduleOfClass c))))
  else
    let meta? := h.inherited? (.kind (h.classOfClass c)) name
    match meta? with
    | some slot =>
      if h.isPart slot then some (h.foundInClass (.ofClass c) none slot)
      else (h.findInClass? c name).or (some (h.foundInClass (.ofClass c) none slot))
    | none => (h.findInClass? c name).or ((h.sharedDefault? c name).map .value)

/-- The attributes that a built-in class with a parameter does not have in common with the class
itself. -/
def genericNames : List String :=
  ["__origin__", "__args__", "__parameters__", "__unpacked__", "__mro_entries__", "__reduce_ex__",
    "__reduce__", "__copy__", "__deepcopy__", "__typing_unpacked_tuple_args__"]

/-- An attribute of a class with a parameter.  Those of the class itself are its own as well, apart
from reserved ones of the class of predicates. -/
def findOfGeneric? (h : Heap) (v : Value) (origin : Class) (name : String) : Option Found :=
  if name == "__origin__" then some (.value (.ofClass origin))
  else
    let own := (h.inherited? (h.classOf v) name).map (h.foundInClass v none)
    if origin != .kind .predicate then
      if genericNames.contains name then own else h.findInClass? origin name
    else
      (((h.assigned? v name).map .value).or own).or
        (if isReservedName name then none else h.findInClass? origin name)

/-- The name of a member of a kind together with that of a class. -/
def memberPlace? (h : Heap) (v : Value) : Option String :=
  match v with
  | .method _ (.field owner name) self =>
    if owner.boundKind name == .boundWrapper then some (owner.name ++ "." ++ name)
    else if owner.boundKind name == .builtin then
      let c := match self with
        | .ofClass c => c
        | v => h.classOf v
      some (h.nestedClassName c ++ "." ++ name)
    else none
  | .field owner name =>
    if [.function, .computedField].contains (owner.fieldKind name) then none
    else some (owner.name ++ "." ++ name)
  | _ => none

/-- What a member of a kind tells about the place that it is made in. -/
def findOfMember? (h : Heap) (v : Value) (name : String) : Option Found :=
  if name == nestedNameAttribute then (h.memberPlace? v).map fun s => .value (.text s)
  else if name == moduleAttribute && h.classOf v == .kind .builtin then
    (h.memberPlace? v).map fun _ => .value .null
  else none

/-- The attribute of a method: one of its class, or one of its function. -/
def findOfMethod? (h : Heap) (v fn : Value) (name : String) : Option Found :=
  if name == moduleAttribute || name == docAttribute then
    ((h.assigned? v name).or (h.assigned? fn name)).map .value
  else match h.inherited? (h.classOf v) name with
    | some slot => some (h.foundInClass v none slot)
    | none => (h.assigned? fn name).map .value

/-- The name of the attribute that holds the class of a value. -/
def classAttribute : String := "__class__"

/-- The attribute of a value. -/
def find? (h : Heap) (v : Value) (name : String) : Option Found :=
  if name == classAttribute then some (.value (.ofClass (h.classOf v)))
  else if name == nameField then
    match v with
    | .predicate .. => h.findInObject? v (storedField "name")
    | v => (h.nameAttribute v).map .value
  else
    let found := match v with
      | .ofClass c => h.findOfClass? c name
      | .generic _ _ c _ => h.findOfGeneric? v c name
      | .method _ fn _ => h.findOfMethod? v fn name
      | v => h.findInObject? v name
    (found.or (h.findOfMember? v name)).or ((h.placeAttribute? v name).map .value)

/-- The failure of reading a part of an object of another class. -/
def partMismatch (h : Heap) (owner : Kind) (name : String) (v : Value) : Failure :=
  .badType ("descriptor '" ++ name ++ "' for '" ++
    Failure.moreBriefly (h.qualifiedClassName (.kind owner)) ++ "' objects doesn't apply to a '" ++
    Failure.moreBriefly (h.qualifiedTypeName v) ++ "' object")

end Heap

end ValueShape
