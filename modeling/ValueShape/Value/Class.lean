import ValueShape.Failure
import ValueShape.Value.Field

/-!
# Classes and names

Which class a value belongs to, what that class is derived from, and what a value is called.

* `Heap.lineage` are the classes that a class is derived from; `linearize?` puts the lineages of
  several classes together, such that each class stands before those it is derived from.
* `Heap.classOf` is the class of a value, and `Heap.isInstance` asks whether that class is derived
  from another one.  `Heap.contentKind` tells which contents the objects of a class have, and
  `Heap.slot?` where a value has one of its methods from.
* `Heap.typeName` is the name of the class, `Heap.qualifiedTypeName` the longer name that messages
  about unsupported operations use, and `Heap.writtenClassName` the name together with its module.
* `Heap.isCallable` and `Value.isAsync` say whether a value can be called, and whether a call gives
  a pending result.  `Heap.nameAttribute` is the name of a function or class.
-/

set_option autoImplicit false

namespace ValueShape

/-! ## Derivation

A class may be derived from several others, so those above it have to be put into one order. -/

/-- The first class that stands at the front of one of the lists and further back in none. -/
def nextInLine? (lists : List (List Class)) : Option Class :=
  (lists.filterMap List.head?).find? fun c => lists.all fun l => !l.tail.contains c

/-- One list with at most `fuel` members, those of all lists, in an order that all of them agree
with.  If there is none, the result tells the classes among which none can go first. -/
def linearizeUpTo : Nat → List (List Class) → Except (List Class) (List Class)
  | 0, lists => .error (lists.filterMap List.head?)
  | fuel + 1, lists =>
    let lists := lists.filter fun l => !l.isEmpty
    if lists.isEmpty then .ok []
    else match nextInLine? lists with
      | none => .error (lists.filterMap List.head?)
      | some c => do
        let rest := lists.map fun l => if l.head? == some c then l.tail else l
        return c :: (← linearizeUpTo fuel rest)

/-- One list with the members of all lists, in an order that all of them agree with.  If there is no
such order, the result tells the classes among which none can go first. -/
def linearize? (lists : List (List Class)) : Except (List Class) (List Class) :=
  linearizeUpTo (lists.flatten.length + 1) lists

namespace Heap

/-- A class and the classes it is derived from, nearest first. -/
def lineage (h : Heap) : Class → List Class
  | .kind k => k.lineage.map .kind
  | .declared p => .declared p :: ((h.declarations[p]?).map (·.lineage)).getD [.kind .object]

/-- The kinds that a class is derived from, nearest first. -/
def kinds (h : Heap) (c : Class) : List Kind :=
  (h.lineage c).filterMap fun c => match c with
    | .kind k => some k
    | .declared _ => none

/-- Whether a class is of a kind or derived from it. -/
def hasKind (h : Heap) (c : Class) (k : Kind) : Bool := (h.kinds c).any fun k' => k'.isA k

/-- Whether one class is derived from another, or is that class. -/
def derives (h : Heap) (c above : Class) : Bool :=
  match above with
  | .kind k => h.hasKind c k
  | .declared _ => (h.lineage c).contains above

/-- The kind that the contents of the objects of a class are of. -/
def contentKind (h : Heap) (c : Class) : Kind := ((h.kinds c).find? Kind.hasContents).getD .object

/-- The class that a class itself belongs to. -/
def classOfClass (h : Heap) (c : Class) : Kind :=
  if (h.kinds c).any Kind.hasAbstractClass then .abstractKind else .kind

end Heap

/-! ## The class of a value -/

/-- The class that a value is. -/
def Value.class? : Value → Option Class
  | .ofClass c => some c
  | _ => none

/-- Whether a value is a class. -/
def Value.isClass (v : Value) : Bool := v.class?.isSome

namespace Heap

/-- The class that a value is made with. -/
def initialClass (h : Heap) : Value → Class
  | .null => .kind .null
  | .undefined => .kind .undefined
  | .bool _ => .kind .bool
  | .scalar c _ _ | .complex c _ _ _ | .tuple c _ _ | .frozenSet c _ _ | .metadata c _ _ _
  | .options c _ _ _ | .bound c _ _ | .object _ c => c
  | .view .. => .kind .view
  | .range .. => .kind .range
  | .slice .. => .kind .slice
  | .ref p => ((h.cells[p]?).map (·.cls)).getD (.kind .object)
  | .predicate .. => .kind .predicate
  | .rule .. | .leaf _ | .operation _ | .function .. => .kind .function
  | .builtin .. => .kind .builtin
  | .method _ (.field owner name) _ => .kind (owner.boundKind name)
  | .method .. => .kind .method
  | .code _ => .kind .code
  | .generic _ _ (.kind .predicate) _ => .kind .parameterized
  | .generic .. => .kind .generic
  | .ofClass c => .kind (h.classOfClass c)
  | .field owner name => .kind (owner.fieldKind name)

/-- The class that a value belongs to: the one that was assigned to it, or else the one that it was
made with. -/
def classOf (h : Heap) (v : Value) : Class :=
  ((h.classes.find? fun c => c.1.identical v).map (·.2)).getD (h.initialClass v)

/-- Whether a value belongs to a class or to one derived from it. -/
def isInstance (h : Heap) (v : Value) (c : Class) : Bool := h.derives (h.classOf v) c

/-- Whether a value belongs to a kind. -/
def isOfKind (h : Heap) (v : Value) (k : Kind) : Bool := h.isInstance v (.kind k)

/-- Whether a value is primitive: null, absent, a truth value, a number, a text or bytes. -/
def isPrimitive (h : Heap) (v : Value) : Bool := v.isPlain || h.isOfKind v .undefined

end Heap

/-! ## Methods of a value -/

/-- What a class has as a method. -/
inductive Slot
  /-- A value that was assigned to the class, or to a class above. -/
  | assigned (v : Value)
  /-- The method that a kind has by itself. -/
  | native (k : Kind)

namespace Heap

/-- What a class itself has as a method, apart from the classes above. -/
def ownSlot? (h : Heap) (m : Method) (c : Class) : Option Slot :=
  match h.assigned? (.ofClass c) m.name, c with
  | some v, _ => some (.assigned v)
  | none, .kind k => if k.provides m then some (.native k) else none
  | none, .declared _ => none

/-- What a class has as a method: the nearest class in its lineage that has one decides. -/
def classSlot? (h : Heap) (m : Method) (c : Class) : Option Slot :=
  (h.lineage c).findSome? (h.ownSlot? m)

/-- What a value has as a method, by its class. -/
def slot? (h : Heap) (m : Method) (v : Value) : Option Slot := h.classSlot? m (h.classOf v)

/-- The kind whose own method a value has, unless the method was assigned. -/
def provider? (h : Heap) (m : Method) (v : Value) : Option Kind :=
  match h.slot? m v with
  | some (.native k) => some k
  | _ => none

/-- Whether a class is kept from having objects of its own, since it only names some methods. -/
def isAbstract (h : Heap) (c : Class) : Bool :=
  (h.abstractness.lookup c).getD <| match c with
    | .kind k => !k.missingMethods.isEmpty
    | .declared _ => false

/-! ## Names of classes -/

/-- The name of the attribute that holds the name of a value. -/
def nameField : String := "__name__"

/-- The name that a class was declared with. -/
def declaredName (h : Heap) (place : Nat) : Name :=
  ((h.declarations[place]?).map (·.name)).getD (.kept "")

/-- The name of a class, as a value.  Some classes put their names together anew each time. -/
def classNameValue (h : Heap) (c : Class) : Value :=
  (h.assigned? (.ofClass c) nameField).getD <|
    match c with
    | .kind k => if k.isOpenClass || k == .bound then .keptText k.name else .text k.name
    | .declared p => .ofName (h.declaredName p)

/-- The name of a class. -/
def className (h : Heap) (c : Class) : String := (h.classNameValue c).text?.getD ""

/-- The name of a class in messages about unsupported operations. -/
def qualifiedClassName (h : Heap) (c : Class) : String :=
  match c with
  | .kind k => if k.isOpenClass then h.className c else k.qualifiedName
  | c => h.className c

/-- The module that a class belongs to. -/
def moduleOfClass (h : Heap) (c : Class) : String :=
  match c with
  | .kind k => k.moduleName
  | c => if h.classOfClass c == .abstractKind then Kind.abstractKind.moduleName else Kind.hostModule

/-- The name that a class was made with. -/
def firstClassName (h : Heap) (c : Class) : String :=
  match c with
  | .kind k => k.name
  | .declared p => (h.declaredName p).text

/-- The name of the attribute that holds the module that a value belongs to. -/
def moduleAttribute : String := "__module__"

/-- The name of the attribute that holds the name of a value together with the place that it is made
in. -/
def nestedNameAttribute : String := "__qualname__"

/-- The name of a class together with the place that it is made in. -/
def nestedClassName (h : Heap) (c : Class) : String :=
  ((h.assigned? (.ofClass c) nestedNameAttribute).bind Value.text?).getD (h.firstClassName c)

/-- The module of the built-in classes. -/
def builtinModule : String := "builtins"

/-- The name of a class in its own written form: with the place that it is made in, if the class is
not built in and its module is named by a text. -/
def writtenClassName (h : Heap) (c : Class) : String :=
  match h.assigned? (.ofClass c) moduleAttribute with
  | none => Kind.inModule (h.moduleOfClass c) (h.nestedClassName c)
  | some v =>
    match v.text?.filter (· != builtinModule) with
    | some moduleName => moduleName ++ "." ++ h.nestedClassName c
    | none => h.className c

/-- The name of the class of a value. -/
def typeName (h : Heap) (v : Value) : String := h.className (h.classOf v)

/-- The name of the class of a value, as a value. -/
def typeNameValue (h : Heap) (v : Value) : Value := h.classNameValue (h.classOf v)

/-- The name of the class of a value, without what stands before its last point. -/
def shortTypeName (h : Heap) (v : Value) : String :=
  String.ofList (afterLastPoint (h.typeName v).toList)
where
  /-- What follows the last point. -/
  afterLastPoint (cs : List Char) : List Char := (cs.reverse.takeWhile (· != '.')).reverse

/-- The name of the class of a value in messages about unsupported operations. -/
def qualifiedTypeName (h : Heap) (v : Value) : String := h.qualifiedClassName (h.classOf v)

/-- Who lacks an attribute that is read, in the words of the message about it. -/
def ownerText (h : Heap) (v : Value) : String :=
  match v with
  | .ofClass c | .generic _ _ c _ =>
    "type object '" ++ Failure.mostBriefly (h.qualifiedClassName c) ++ "'"
  | v => "'" ++ Failure.mostBriefly (h.qualifiedTypeName v) ++ "' object"

/-- Who lacks an attribute that is changed, in the words of the message about it. -/
def changedOwnerText (h : Heap) (v : Value) : String :=
  "'" ++ Failure.moreBriefly (h.qualifiedTypeName v) ++ "' object"

/-! ## Callables -/

/-- Whether a value can be called.  Classes can. -/
def isCallable (h : Heap) (v : Value) : Bool := (h.slot? .call v).isSome

end Heap

/-- Whether a call of the value gives a pending result instead of a verdict.  Binding arguments does
not change that, and wrapping a function in a predicate does. -/
def Value.isAsync : Value → Bool
  | .function _ _ async _ => async
  | .bound _ _ fn | .method _ fn _ => fn.isAsync
  | _ => false

/-- Whether a value is a function in the strict sense. -/
def Value.isFunction : Value → Bool
  | .rule .. | .leaf _ | .operation _ | .function .. => true
  | .field owner name => owner.memberSort? name == some .function
  | _ => false

/-- Whether a value stands for a member of the class of a kind. -/
def Value.isMember : Value → Bool
  | .field .. => true
  | _ => false

/-- Whether a value in a class is given an object as its first argument when it is called through
that object. -/
def Value.isBinding : Value → Bool
  | .field owner name => (owner.memberSort? name).any MemberSort.isBinding
  | v => v.isFunction

/-- The name of the function by which a predicate of the library decides. -/
def Check.functionName {α β : Type} : Check α β → String
  | .object _ (some _) => "check_strict"
  | .object _ none => "check_loose"
  | _ => "check"

/-- The name of the operation that such a function is made in. -/
def Check.makerName {α β : Type} : Check α β → String
  | .array _ => Operation.arrayOf.name
  | .record _ => Operation.recordOf.name
  | .tuple .. => "_build_" ++ Operation.tupleOf.name
  | .parameters .. => Operation.parametersOf.name
  | .object .. => Operation.objectOf.name
  | .oneOf _ => Operation.oneOf.name
  | .allOf _ => Operation.allOf.name
  | .literal _ => Operation.literalOf.name
  | .literals _ => Operation.literalOneOf.name
  | .instanceOf _ => Operation.instanceOf.name
  | .optional _ => Operation.makeOptional.name

/-- The module that the operation belongs to. -/
def Check.moduleName {α β : Type} : Check α β → String
  | .optional _ => Operation.makeOptional.moduleName
  | _ => Operation.arrayOf.moduleName

/-- The name of such a function together with the place that it is made in. -/
def Check.nestedName {α β : Type} (c : Check α β) : String :=
  c.makerName ++ ".<locals>." ++ c.functionName

namespace Heap

/-! ## Names of values -/

/-- The name attribute that a value is made with. -/
def ownNameAttribute (h : Heap) : Value → Option Value
  | .predicate _ name _ _ => some (.ofName name)
  | .rule _ check => some (.keptText check.functionName)
  | .leaf l => some (.keptText l.name)
  | .operation o => some (.keptText o.name)
  | .function _ name _ _ => some (.ofName name)
  | .builtin _ b => some (.text b.name)
  | .generic _ _ c _ | .ofClass c => some (h.classNameValue c)
  | .field owner name =>
    if owner.fieldKind name == .computedField then none
    else some (.keptText (owner.shownMemberName name))
  | _ => none

/-- The name attribute of a value.  That of a predicate is never assigned to, and a method has that
of its function. -/
def nameAttribute (h : Heap) (v : Value) : Option Value :=
  match v with
  | .predicate .. => h.ownNameAttribute v
  | .method _ fn _ => (h.assigned? fn nameField).or (h.ownNameAttribute fn)
  | v => (h.assigned? v nameField).or (h.ownNameAttribute v)

/-! ## Properties of objects -/

/-- Whether the objects of a class can be referred to without being kept alive. -/
def hasReferableObjects (h : Heap) (c : Class) : Bool :=
  match c with
  | .kind k => k.isReferable
  | .declared _ => !(h.contentKind c).isVariable

/-- Whether a value can be referred to without being kept alive.  Only such a value can carry
metadata.  Every declared class makes room for that in its objects, unless their contents leave
none. -/
def isReferable (h : Heap) (v : Value) : Bool := h.hasReferableObjects (h.initialClass v)

theorem isInstance_object_of_kind (h : Heap) {v : Value} {k : Kind}
    (hv : h.classOf v = .kind k) : h.isOfKind v .object = true := by
  simp only [isOfKind, isInstance, hv, derives, hasKind, kinds, lineage, List.any_eq_true]
  refine ⟨k, ?_, Kind.isA_object k⟩
  simp [Kind.mem_lineage]

end Heap

end ValueShape
