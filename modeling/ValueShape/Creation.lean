import ValueShape.Conduct.Assignment
import ValueShape.Conduct.Convert
import ValueShape.Conduct.Declaration
import ValueShape.Conduct.Update
import ValueShape.Outline.Inspect

/-!
# Making objects

A class can be called, like a function, to make a new object.

* `Run.make` makes an object of a class.  The class of truth values gives the truth value of its
  argument, and the classes of numbers, texts and collections that do not change give a number, a
  text or a collection with the same contents.  A class that is derived from one of these does the
  same, with itself as the class of the result.
* `Run.fill` fills an object that has just been made.  Collections that can change and records get
  their contents here.
* `Run.callClass` does one after the other.  The class may have methods of its own for both, and
  where it has them from different kinds, the kind that makes the object does not get to fill it.
-/

set_option autoImplicit false

namespace ValueShape

/-- Contents without parts. -/
def Contents.emptied : Contents → Contents
  | list _ => .list []
  | set _ => .set []
  | queue _ => .queue []
  | listing part source => .listing part source
  | iterator _ => .iterator (.rest [])
  | dict _ => .dict []
  | foreign m => .foreign { m with entries := [] }
  | buffer _ => .buffer []

namespace Failure

/-- The failure of making an object of a class that lacks methods. -/
def abstractClass (className : String) (methods : List String) : Failure :=
  .badType ("Can't instantiate abstract class " ++ className ++ " with abstract method" ++
    (if methods.length == 1 then " " else "s ") ++ ", ".intercalate methods)

/-- The failure of calling a class that makes no objects. -/
def notCreatable (className : String) : Failure :=
  .badType ("cannot create '" ++ className ++ "' instances")

/-- The failure of giving a class more than the one argument that it takes. -/
def overfilled (className : String) (count : Nat) : Failure :=
  .badArguments (className ++ " expected at most 1 argument, got " ++ count.repr)

/-- The failure of making a text from a value by means of an encoding. -/
def cannotDecode (h : Heap) (v encoding : Value) : Failure :=
  .badType (if encoding.text?.isNone then
      "str() argument 'encoding' must be str, not " ++ mostBriefly (h.qualifiedTypeName encoding)
    else if v.text?.isSome then "decoding str is not supported"
    else "decoding to str: need a bytes-like object, " ++ briefly (h.qualifiedTypeName v) ++
      " found")

/-- The failure of filling an object of a kind from too few or too many values. -/
def misfilled (k : Kind) (count : Nat) : Failure :=
  let missing := fun (what : String) => " missing " ++ what
  let tooMany := fun (allowed : String) =>
    " takes " ++ allowed ++ " positional arguments but " ++ (count + 1).repr ++ " were given"
  let problem := match k, count with
    | .foreign, 0 => missing "3 required positional arguments: 'pairs', 'fail', and 'exc'"
    | .foreign, 1 => missing "2 required positional arguments: 'fail' and 'exc'"
    | .foreign, 2 => missing "1 required positional argument: 'exc'"
    | .foreign, _ => tooMany "4"
    | .keyed, 0 => missing "1 required positional argument: 'key'"
    | .metadata, 0 => missing "1 required positional argument: 'name'"
    | .metadata, _ => tooMany "from 2 to 3"
    | .options, _ => tooMany "from 1 to 3"
    | .predicate, 0 => missing "1 required positional argument: 'check'"
    | .predicate, 1 => missing "1 required keyword-only argument: 'name'"
    | .constructionError, 0 =>
      missing "2 required positional arguments: 'factory' and 'message'"
    | .constructionError, 1 => missing "1 required positional argument: 'message'"
    | .constructionError, _ => tooMany "3"
    | .assertError, 0 => missing "1 required positional argument: 'message'"
    | .assertError, 1 =>
      missing "2 required keyword-only arguments: 'rendered_value' and 'predicate_name'"
    | _, _ => tooMany "2"
  .badArguments (k.name ++ "." ++ Method.initialisation.name ++ "()" ++ problem)

end Failure

namespace Run

/-! ## Parts -/

/-- A scalar of a class, with an identity of its own unless it exists only once. -/
def newScalar (cls : Class) (s : Scalar) : Run Value := do
  if cls == .kind s.kind && s.isShared then return .scalar cls 0 s
  return .scalar cls (← fresh) s

/-- A number, a text or bytes of the built-in class. -/
def plainScalar (s : Scalar) : Run Value := newScalar (.kind s.kind) s

/-- A tuple of a class. -/
def newTuple (cls : Class) (items : List Value) : Run Value := do
  if cls == .kind .tuple then tuple items else return .tuple cls (← fresh) items

/-- A function with none of its arguments bound.  Binding is not repeated for what is bound
already, unless that has attributes. -/
def bind (cls : Class) (fn : Value) : Run Value := do
  let h ← heap
  if !h.isCallable fn then throw (.badType "the first argument must be callable")
  let fn := match fn with
    | .bound _ _ inner =>
      if (h.ownAttributes fn).isEmpty && (h.namespace? fn).isNone then inner else fn
    | fn => fn
  return .bound cls (← fresh) fn

/-! ## Objects from nothing

Most classes that take an argument can do without it.  What they make then is empty, or zero. -/

/-- Values as texts. -/
def joinTexts (vs : List Value) : Run (List String) := do
  match ← joinable 0 (vs.map .value) with
  | _ => return vs.filterMap Value.text?

/-- A new object of a class that has no contents. -/
def newBareObject (cls : Class) : Run Value := do
  let h ← heap
  if !h.isAbstract cls then return .object (← fresh) cls
  match ← abstractNames? cls with
  | none => throw (.badAttribute abstractAttribute)
  | some names =>
    let methods ← joinTexts (← sorted (← iterate names))
    throw (.abstractClass (h.qualifiedClassName cls) methods)

/-- A new object of a class whose objects have contents of the given kind, or no contents. -/
def makeEmpty (cls : Class) (contents : Kind) : Run Value := do
  match contents with
  | .null => return .null
  | .ellipsis => return .object 0 (.kind .ellipsis)
  | .bool => return .bool false
  | .int => newScalar cls (.int 0)
  | .float => newScalar cls (.float 0)
  | .complex => return .complex cls (← fresh) 0 0
  | .text => newScalar cls (.text "")
  | .bytes => newScalar cls (.bytes [])
  | .tuple => newTuple cls []
  | .frozenSet => newFrozenSet cls []
  | .buffer => alloc cls (.buffer [])
  | .list => alloc cls (.list [])
  | .dict | .orderedDict => alloc cls (.dict [])
  | .set => alloc cls (.set [])
  | .queue => alloc cls (.queue [])
  | .predicate | .metadata | .options | .constructionError | .assertError =>
    return .object (← fresh) cls
  | .listing .. | .iterator _ | .builtin | .coroutine | .memberField =>
    throw (.notCreatable ((← heap).qualifiedClassName cls))
  | .view => throw (.badArguments "mappingproxy() missing required argument 'mapping' (pos 1)")
  | .range => throw (.badArguments "range expected at least 1 argument, got 0")
  | .function => throw (.badArguments "function() missing required argument 'code' (pos 1)")
  | .method => throw (.badArguments "method expected 2 arguments, got 0")
  | .bound => throw (.badArguments "type 'partial' takes at least one argument")
  | .generic => throw (.badArguments "GenericAlias expected 2 arguments, got 0")
  | .kind => do
    if cls == .kind .kind then throw (.badArguments "type() takes 1 or 3 arguments")
    if (← heap).hasKind cls .abstractKind then
      throw (.badArguments ("ABCMeta.__new__() missing 3 required positional arguments: 'name', " ++
        "'bases', and 'namespace'"))
    throw (.badArguments "type.__new__() takes exactly 3 arguments (0 given)")
  | _ =>
    if (← heap).hasKind cls .parameterized then
      throw (.badArguments ("_GenericAlias.__init__() missing 2 required positional arguments: " ++
        "'origin' and 'args'"))
    newBareObject cls

/-- The object that a class derived from the class of the absent value remembers as its only one. -/
def onlyObject (cls : Class) : Run Value := do
  match ← readAttribute (.ofClass cls) Heap.instanceAttribute with
  | .null =>
    let object ← makeEmpty cls ((← heap).contentKind cls)
    modifyHeap fun h => h.assign (.ofClass cls) Heap.instanceAttribute object
    return object
  | object => return object

/-! ## Objects from values -/

/-- Refuses the argument of a class that takes none. -/
def refuseArgument (cls : Class) : Run Value := do
  let h ← heap
  match cls with
  | .kind .null => throw (.takesNoArgument "NoneType takes no arguments")
  | .kind .ellipsis => throw (.takesNoArgument "EllipsisType takes no arguments")
  | .kind .parameterized =>
    throw (.badArguments
      "_GenericAlias.__init__() missing 1 required positional argument: 'args'")
  | cls =>
    throw (.takesNoArgument (Failure.briefly (h.qualifiedClassName cls) ++ "() takes no arguments"))

/-- A new object of a class that has no contents and is given an argument, which is left to the
method that fills it, if the class has one. -/
def makeBare (cls : Class) : Run Value := do
  if ((← heap).classSlot? .initialisation cls).isSome then newBareObject cls else refuseArgument cls

/-- A text, unless the value is one of the class already. -/
def makeText (cls : Class) (v : Value) : Run Value := do
  let form ← plainForm v
  if cls == .kind .text then return form
  return .scalar cls (← fresh) (.text (form.text?.getD ""))

/-- A number or bytes, unless the value is one of the built-in class already. -/
def makeScalar (cls : Class) (v : Value) (convert : Value → Run Scalar) : Run Value := do
  let s ← convert v
  match v with
  | .scalar c _ _ => if c == cls && cls == .kind s.kind then return v else newScalar cls s
  | _ => newScalar cls s

/-- A complex number, unless the value is one of the built-in class already. -/
def makeComplex (cls : Class) (v : Value) : Run Value := do
  let (re, im) ← toComplex v
  match v with
  | .complex (.kind .complex) _ _ _ =>
    if cls == .kind .complex then return v else return .complex cls (← fresh) re im
  | _ => return .complex cls (← fresh) re im

/-- A tuple, unless the value is one of the built-in class already. -/
def makeTuple (cls : Class) (v : Value) : Run Value := do
  match v, cls with
  | v, .kind .tuple => toTuple v
  | .tuple (.kind .tuple) _ items, cls => newTuple cls items
  | v, cls => do newTuple cls (← iterate v)

/-- An immutable set, unless the value is one of the built-in class already. -/
def makeFrozenSet (cls : Class) (v : Value) : Run Value := do
  match v, cls with
  | .frozenSet (.kind .frozenSet) .., .kind .frozenSet => return v
  | v, cls =>
    let members ← toMembers v
    return .frozenSet cls (← fresh) members

/-- A read-only mapping that shows a value.  The value needs parts that can be looked up, and must
not be a list, a tuple or a queue. -/
def makeView (v : Value) : Run Value := do
  let h ← heap
  let isSuitable := match v, h.contents? v, h.slot? .item v with
    | .tuple .., _, _ | _, some (.list _), _ | _, _, none => false
    | _, _, some (.native .queue) => h.hasMixedItems (h.classOf v)
    | _, _, some _ => true
  if isSuitable then view v
  else throw (.badType ("mappingproxy() argument must be a mapping, not " ++ h.qualifiedTypeName v))

/-- A new object of a class whose objects have contents of the given kind, made from a value. -/
def makeFrom (cls : Class) (contents : Kind) (v : Value) : Run Value := do
  match contents with
  | .bool => return .bool (← truth v)
  | .int => makeScalar cls v fun v => .int <$> toInt v
  | .float => makeScalar cls v fun v => .float <$> toDouble v
  | .complex => makeComplex cls v
  | .text => makeText cls v
  | .bytes => do
    match cls, (← heap).slot? .toBytes v with
    | .kind .bytes, some (.assigned method) => bytesGiven method v
    | cls, _ =>
      makeScalar cls v fun v => .bytes <$> toBytes .bytes "bytes must be in range(0, 256)" v
  | .tuple => makeTuple cls v
  | .frozenSet => makeFrozenSet cls v
  | .range => do
    let stop ← asIndex v
    return .range (← fresh) 0 stop 1
  | .view => makeView v
  | .bound => bind cls v
  | .buffer | .list | .dict | .orderedDict | .set | .queue | .predicate | .metadata | .options
  | .constructionError | .assertError | .listing .. | .iterator _ | .builtin | .coroutine
  | .memberField =>
    makeEmpty cls contents
  | .function => throw (.badArguments "function() missing required argument 'globals' (pos 2)")
  | .method => throw (.badArguments "method expected 2 arguments, got 1")
  | .generic => throw (.badArguments "GenericAlias expected 2 arguments, got 1")
  | .kind => do
    if (← heap).hasKind cls .abstractKind then
      throw (.badArguments
        "ABCMeta.__new__() missing 2 required positional arguments: 'bases' and 'namespace'")
    throw (.badArguments "type.__new__() takes exactly 3 arguments (1 given)")
  | _ => makeBare cls

/-- A new object of a class whose objects have contents of the given kind, made from two values or
more. -/
def makeFromMany (cls : Class) (contents : Kind) (vs : List Value) : Run Value := do
  match contents, vs with
  | .int, [_, base] =>
    discard (asIndex base)
    throw (.badType "int() can't convert non-string with explicit base")
  | .text, [v, encoding] => throw (.cannotDecode (← heap) v encoding)
  | .range, [start, stop] =>
    let start ← asIndex start
    let stop ← asIndex stop
    return .range (← fresh) start stop 1
  | .buffer, _ | .list, _ | .dict, _ | .orderedDict, _ | .set, _ | .queue, _ | .predicate, _
  | .metadata, _ | .options, _ | .constructionError, _ | .assertError, _ | .listing .., _
  | .iterator _, _ | .builtin, _ | .coroutine, _ | .memberField, _ => makeEmpty cls contents
  | .object, _ | .null, _ | .ellipsis, _ => makeBare cls
  | .kind, _ => throw (.badArguments "type() takes 1 or 3 arguments")
  | contents, vs => throw (.overfilled contents.name vs.length)

/-- Keeps what a failure is made from. -/
def keepArguments (object : Value) (args : List Value) : Run Value := do
  let items ← tuple args
  modifyHeap fun h => h.assign object failureArguments items
  return object

/-- Makes an object of a class, by the method of a kind. -/
def nativeMake (k : Kind) (cls : Class) (args : List Value) : Run Value := do
  let contents := (← heap).contentKind cls
  match k, args with
  | .undefined, [] => onlyObject cls
  | .undefined, args =>
    throw (.badArguments (Kind.undefined.name ++ "." ++ Method.creation.name ++
      "() takes 1 positional argument but " ++ (args.length + 1).repr ++ " were given"))
  | _, args =>
    let object ← match args with
      | [] => makeEmpty cls contents
      | [v] => makeFrom cls contents v
      | args => makeFromMany cls contents args
    if contents == .constructionError || contents == .assertError then keepArguments object args
    else return object

/-- Makes an object of a class. -/
def make (cls : Class) (args : List Value) : Run Value := do
  match (← heap).classSlot? .creation cls with
  | some (.assigned method) => call method (.ofClass cls :: args)
  | some (.native k) => nativeMake k cls args
  | none => nativeMake .object cls args

/-! ## Filling

Collections that can change and records are empty when they are made, and get their contents in a
second step. -/

/-- The contents of a collection that is filled from a value. -/
def filling (k : Kind) (v : Value) : Run Contents := do
  match k with
  | .buffer => do return .buffer (← toBytes .buffer byteRangeText v)
  | .set => do return .set (← toMembers v)
  | .queue => do return .queue (← elements (← cursor v))
  | _ => do return .list (← iterate v)

/-- Puts the entries that a value amounts to into a mapping. -/
def fillDict (object v : Value) : Run Unit := do
  let added ← toEntries v
  let es ← added.foldlM (fun es e => insertEntry e.1 e.2 es) (((← heap).entries? object).getD [])
  overwrite object (.dict es)

/-- Puts the entries that a value stands for into an ordered mapping, one after the other.  A value
without keys is asked for its entries, and one without entries is taken for them. -/
def fillOrdered (object v : Value) : Run Unit := do
  let h ← heap
  let put := fun (e : Value × Value) => do discard (setItem object e.1 e.2)
  let putPair := fun (_ : Unit) pair => do put (← splitPair pair)
  match h.entries? v, h.classOf v with
  | some es, .kind .dict => es.forM fun e => put (e.1.value, e.2)
  | _, _ =>
    match ← listing? .keys v with
    | some keys => fold (fun _ key => do put (key, ← item v key)) () (← openListing keys)
    | none =>
      match ← listing? .items v with
      | some entries => fold putPair () (← openListing entries)
      | none => fold putPair () (← cursor v)

/-- Fills an object by the method of a kind. -/
def fillBy (k : Kind) (object : Value) (args : List Value) : Run Value := do
  let cls := (← heap).classOf object
  match k, args with
  | .dict, [] | .orderedDict, [] => return object
  | .list, [] | .set, [] | .queue, [] | .buffer, [] => do
    ((← heap).contents? object).forM fun c => overwrite object c.emptied
    return object
  | .list, [v] | .set, [v] | .queue, [v] | .buffer, [v] => do
    ((← heap).contents? object).forM fun c => overwrite object c.emptied
    overwrite object (← filling k v)
    return object
  | .dict, [v] => do
    fillDict object v
    return object
  | .orderedDict, [v] => do
    fillOrdered object v
    return object
  | .list, vs | .set, vs | .dict, vs => throw (.overfilled k.name vs.length)
  | .orderedDict, vs =>
    throw (.badArguments ("expected at most 1 arguments, got " ++ vs.length.repr))
  | .metadata, [name] => newMetadata cls name (.tuple (.kind .tuple) 0 [])
  | .metadata, [name, args] => newMetadata cls name args
  | .options, [] => newOptions cls (.int defaultThreshold) (.int defaultMaxDepth)
  | .options, [threshold] => newOptions cls threshold (.int defaultMaxDepth)
  | .options, [threshold, maxDepth] => newOptions cls threshold maxDepth
  | .foreign, [pairs, failing, failure] => do
    [(entriesAttribute, pairs), (failingAttribute, failing), ("exc", failure)].forM fun a => discard do
      setAttribute object (.keptText a.1) a.2
    return object
  | .constructionError, [factory, detail] => do
    discard (setAttribute object (.keptText "factory") factory)
    discard (setAttribute object (.keptText "detail") detail)
    let text := (← formatted factory) ++ ": " ++ (← formatted detail)
    keepArguments object [← newText text]
  | .keyed, [key] => do
    discard (setAttribute object (.keptText keyAttribute) key)
    return object
  | .kind, _ => return object
  | k, args => throw (.misfilled k args.length)

/-- Fills an object that has just been made. -/
def fill (object : Value) (args : List Value) : Run Value := do
  match (← heap).slot? .initialisation object with
  | some (.assigned method) =>
    match ← callBound method object args with
    | .null => return object
    | result =>
      throw (.badType (Method.initialisation.name ++ "() should return None, not '" ++
        Failure.briefly ((← heap).qualifiedTypeName result) ++ "'"))
  | some (.native k) => fillBy k object args
  | none => return object

/-! ## Calling classes -/

/-- Calls a class.  The class of classes gives the class of its argument. -/
def callClass (cls : Class) (args : List Value) : Run Value := do
  match cls, args with
  | .kind .kind, [v] => return .ofClass ((← heap).classOf v)
  | cls, args =>
    let object ← make cls args
    if (← heap).isInstance object cls then fill object args else return object

end Run

end ValueShape
