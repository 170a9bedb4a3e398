import ValueShape.Conduct.Mapping
import ValueShape.Number.Written

/-!
# Written values

The written form of a value, in which texts are quoted and containers show their parts.

* `Scalar.write?` writes a number, a text or bytes; `Value.writePlain` writes these, null and the
  truth values.  An integer with too many digits has no written form, and nothing else can go wrong.
* `Run.writeOnce` writes any value, by the method of its class.  A container that is met again while
  it is being written is abbreviated.  Sets of a derived class, queues, ordered mappings, buffers
  and records show the name of their class.
* `Run.writeParameters` writes the parameters of a class, in which classes and functions go by name.
* `Run.plainForm` leaves out the quotes of a value that is a text and the mark of a read-only
  mapping, and `Run.formatted` is how a value stands inside a longer text.
* `Run.displayName` is the name that a value is shown with: that of a predicate, a function or a
  class, or else the name of the class of the value.
-/

set_option autoImplicit false

namespace ValueShape

/-! ## Parts -/

/-- The written form of a scalar. -/
def Scalar.write? : Scalar → Option (List Char)
  | int n => writeInt? n
  | float bits => some (writeDouble bits)
  | text s => some (quote s.toList)
  | bytes bs => some (quoteBytes bs)

/-- The written form of the absent value. -/
def undefinedText : String := "UNDEFINED"

/-- The written form of null, a truth value or a scalar; of other values, nothing. -/
def Value.writePlain : Value → Except Failure (List Char)
  | .null => .ok "None".toList
  | .bool b => .ok (if b then "True".toList else "False".toList)
  | .scalar _ _ s =>
    match s.write? with
    | some cs => .ok cs
    | none => .error .tooManyDigits
  | _ => .ok []

/-- Items with a separator between them, between brackets. -/
def enclose (opener : List Char) (items : List (List Char)) (closer : List Char) : List Char :=
  opener ++ ", ".toList.intercalate items ++ closer

/-- Items between braces. -/
def braced (items : List (List Char)) : List Char := enclose ['\x7b'] items ['\x7d']

/-- Items between square brackets. -/
def bracketed (items : List (List Char)) : List Char := enclose ['['] items [']']

/-- The call of a class with arguments. -/
def callForm (className : String) (arguments : List (List Char)) : List Char :=
  enclose (className.toList ++ ['(']) arguments [')']

/-- What follows the name of a predicate in its written form: its facets, if it has any. -/
def facetSuffix (f : Facets) : String :=
  let facets :=
    (if f.optional then ["optional"] else []) ++ (if f.readonly then ["readonly"] else [])
  if facets.isEmpty then "" else " [" ++ ", ".intercalate facets ++ "]"

/-- What stands for a container inside itself. -/
def Heap.writeCycle (h : Heap) (v : Value) : List Char :=
  match v with
  | .tuple .. => "(...)".toList
  | .metadata .. | .options .. | .bound .. => "...".toList
  | .frozenSet .. => callForm (h.typeName v) ["...".toList]
  | v =>
    match h.contents? v with
    | some (.dict _) => if h.isOfKind v .orderedDict then "...".toList else braced ["...".toList]
    | some (.set _) => callForm (h.typeName v) ["...".toList]
    | some (.listing ..) => "...".toList
    | _ => bracketed ["...".toList]

/-- Whether the written form of a value is one text for good. -/
def Heap.hasKeptForm (h : Heap) (v : Value) : Bool :=
  match v with
  | .bool _ => true
  | v => h.provider? .writing v == some .undefined

/-- The written form of a buffer. -/
def writeBuffer (h : Heap) (v : Value) : List Char :=
  callForm (h.shortTypeName v) [quoteBuffer ((h.bytes? v).getD [])]

namespace Run

/-! ## Texts

A container that is being written is noted in the session.  If it is met again inside itself, it is
abbreviated. -/

/-- The written form of a value, as characters. -/
def writtenChars (v : Value) : Run (List Char) := do return (← written v).toList

/-- The text that a method gives. -/
def requireText (method : Method) (result : Value) : Run Value := do
  if result.text?.isSome then return result
  throw (.wrongResult method.name "string" ((← heap).qualifiedTypeName result))

/-- The written form of a value inside which the value itself is abbreviated. -/
def entering (v : Value) (write : Run (List Char)) : Run (List Char) := do
  if (← get).writing.any v.identical then return (← heap).writeCycle v
  modify fun s => { s with writing := v :: s.writing }
  let result ← tryCatch (Except.ok <$> write) fun e => return Except.error e
  modify fun s => { s with writing := s.writing.drop 1 }
  ofExcept result

/-! ## Plain forms -/

/-- The name of the attribute that holds what a failure was made from. -/
def failureArguments : String := "args"

/-- The written form of a value without quotes, if it is a text, nested at most `fuel` deep in
read-only mappings and failures. -/
def plainFormUpTo : Nat → Value → Run Value
  | 0, _ => throw .tooDeep
  | fuel + 1, .view _ source => plainFormUpTo fuel source
  | fuel + 1, v => do
    let h ← heap
    match h.slot? .plainForm v, v with
    | some (.assigned method), v => do requireText .plainForm (← callBound method v [])
    | some (.native .text), .scalar (.kind .text) id (.text s) =>
      return .scalar (.kind .text) id (.text s)
    | some (.native .text), .scalar _ _ (.text s) =>
      if s.isEmpty then return .text "" else ownText s
    | some (.native .bytes), .scalar _ _ (.bytes bs) => ownText (String.ofList (quoteBytes bs))
    | some (.native .buffer), v => ownText (String.ofList (writeBuffer h v))
    | some (.native .constructionError), v | some (.native .assertError), v =>
      match h.part? v failureArguments with
      | some (.tuple _ _ [item]) => plainFormUpTo fuel item
      | some (.tuple cls id (item :: items)) => write (.tuple cls id (item :: items))
      | _ => return .text ""
    | _, v =>
      match h.slot? .writing v with
      | some (.assigned method) => do requireText .plainForm (← callBound method v [])
      | _ => write v

/-- The written form of a value without quotes, if it is a text.  A read-only mapping has the plain
form of the value that it shows.  Bytes are written in their own way, whatever method for writing
was assigned to their class. -/
def plainForm (v : Value) : Run Value := plainFormUpTo 1000 v

/-- How a value stands inside a longer text, as a value. -/
def formatValue : Value → Run Value
  | .scalar (.kind .text) id (.text s) => return .scalar (.kind .text) id (.text s)
  | v => do
    match (← heap).slot? .format v with
    | some (.assigned method) =>
      let result ← callBound method v [.text ""]
      if result.text?.isSome then return result
      throw (.badType (Method.format.name ++ " must return a str, not " ++
        Failure.briefly ((← heap).qualifiedTypeName result)))
    | _ => plainForm v

/-- How a value stands inside a longer text. -/
def formatted (v : Value) : Run String := do return (← formatValue v).text?.getD ""

/-- How the written form of a value stands inside a longer text. -/
def shown (v : Value) : Run String := do formatted (← write v)

/-- How the name of the class of a value stands inside a longer text. -/
def shownClass (v : Value) : Run String := do formatted ((← heap).typeNameValue v)

/-! ## Names -/

/-- The name of the attribute that holds the name of a predicate. -/
def nameAttribute : String := "name"

/-- The name that a value is shown with. -/
def displayName (v : Value) : Run Value := do
  if ← isOfKind v .predicate then readAttribute v nameAttribute
  else
    let typeName := do identified ((← heap).typeNameValue v)
    match ← attribute? v Heap.nameField with
    | none => typeName
    | some name =>
      if !(← isOfKind name .text) then typeName
      else if ← truth name then return name else typeName

/-! ## Parameters -/

/-- A name together with its module, which built-in names go without. -/
def placedName (moduleName name : Value) : Run (List Char) := do
  if moduleName.text? == some Heap.builtinModule then
    return ((← plainForm name).text?.getD "").toList
  let moduleText ← plainForm moduleName
  return (moduleText.text?.getD "" ++ "." ++ (← plainForm name).text?.getD "").toList

/-- Whether a value looks like a class with a parameter. -/
def looksGeneric (v : Value) : Run Bool := do
  if (← attribute? v "__origin__").isNone then return false
  return (← attribute? v "__args__").isSome

/-- A parameter of a built-in class, in which all that has a name and a module goes by these. -/
def writeBuiltinParameter (v : Value) : Run (List Char) := do
  match v with
  | .object _ (.kind .ellipsis) => return "...".toList
  | .generic .. => writtenChars v
  | v =>
    if ← looksGeneric v then writtenChars v
    else match ← attribute? v Heap.nestedNameAttribute with
      | none => writtenChars v
      | some name =>
        match (← attribute? v Heap.moduleAttribute).filter fun m => !m.identical .null with
        | none => writtenChars v
        | some moduleName => placedName moduleName name

/-- A parameter of the class of predicates.  A text stands for something that is not known yet. -/
def writeForwardParameter (v : Value) : Run (List Char) := do
  match v with
  | .ofClass _ =>
    let moduleName ← readAttribute v Heap.moduleAttribute
    placedName moduleName (← readAttribute v Heap.nestedNameAttribute)
  | .object _ (.kind .ellipsis) => return "...".toList
  | .scalar _ _ (.text s) => return "ForwardRef(".toList ++ quote s.toList ++ [')']
  | v =>
    if v.isFunction then return (← formatted (← readAttribute v Heap.nameField)).toList
    else writtenChars v

/-- The class that has parameters, in front of them. -/
def writeOrigin (c : Class) : Run (List Char) :=
  if c == .kind .predicate then writeForwardParameter (.ofClass c)
  else writeBuiltinParameter (.ofClass c)

/-- The parameters of a class, between which commas stand. -/
def writeParameters (origin : Class) (v : Value) : Run (List (List Char)) := do
  if origin == .kind .predicate then return [← writeForwardParameter v]
  match v with
  | .tuple _ _ [] => return ["()".toList]
  | .tuple _ _ items => items.mapM writeBuiltinParameter
  | v => return [← writeBuiltinParameter v]

/-! ## Containers -/

/-- The written form of an entry between braces. -/
def writeEntry (e : Entry) : Run (List Char) := do
  return (← writtenChars e.1.value) ++ ": ".toList ++ (← writtenChars e.2)

/-- The written form of a pair. -/
def writePair (e : Entry) : Run (List Char) := do
  return enclose ['('] [← writtenChars e.1.value, ← writtenChars e.2] [')']

/-- The written form of a set.  Only one of the class `plain` goes without its name. -/
def writeSet (plain : Kind) (v : Value) : Run (List Char) := do
  let h ← heap
  let className := h.typeName v
  if h.count v == 0 then return callForm className []
  let members := braced (← (← iterate v).mapM writtenChars)
  return if h.classOf v == .kind plain then members else callForm className [members]

/-- The written form of a mapping that keeps an order. -/
def writeOrdered (v : Value) (es : List Entry) : Run (List Char) := do
  let h ← heap
  let className := h.shortTypeName v
  if es.isEmpty then return callForm className []
  if h.classOf v == .kind .orderedDict then
    return callForm className [bracketed (← es.mapM writePair)]
  return callForm className [bracketed (← (← readParts .items v).mapM writtenChars)]

/-- The written form of a record: the name of its class, and its fields by name. -/
def writeRecord (v : Value) : Run (List Char) := do
  let h ← heap
  let write := fun (field : String × Value) => do
    return (field.1 ++ "=").toList ++ (← shown (← readAttribute v field.1)).toList
  return callForm (h.nestedClassName (h.classOf v)) (← (Heap.recordFields v).mapM write)

/-- The written form of a predicate: its name and its facets. -/
def writePredicate (v : Value) : Run (List Char) := do
  let optional ← readAttribute v "_optional"
  let readonly ← readAttribute v "_readonly"
  let suffix := facetSuffix ⟨← truth optional, ← truth readonly⟩
  return ("<Predicate " ++ (← formatted (← readAttribute v "_name")) ++ suffix ++ ">").toList

/-- The written form of a field or another member of a class. -/
def writeField (owner : Kind) (name : String) : Run (List Char) := do
  let ofObjects := fun (what : String) => do
    return ("<" ++ what ++ " '" ++ name ++ "' of '" ++ (← heap).qualifiedClassName (.kind owner) ++
      "' objects>").toList
  match owner.fieldKind name with
  | .computedField => return "<property object>".toList
  | .methodDescriptor | .classDescriptor => ofObjects "method"
  | .wrapperDescriptor => ofObjects "slot wrapper"
  | .partDescriptor => ofObjects "attribute"
  | .memberField => ofObjects "member"
  | _ => return ("<function " ++ (← heap).nestedName (.field owner name) ++ ">").toList

/-- The written form of a member of a class that was read through an object. -/
def writeBound (owner : Kind) (name : String) (self : Value) : Run (List Char) := do
  let h ← heap
  let typeName := h.qualifiedTypeName self
  match owner.boundKind name with
  | .boundWrapper => return ("<method-wrapper '" ++ name ++ "' of " ++ typeName ++ " object>").toList
  | .method =>
    return ("<bound method " ++ h.nestedName (.field owner name) ++ " of ").toList ++
      (← writtenChars self) ++ ['>']
  | _ => return ("<built-in method " ++ name ++ " of " ++ typeName ++ " object>").toList

/-! ## Values -/

/-- The written form of a value in the heap. -/
def writeContents (v : Value) : Run (List Char) := do
  let h ← heap
  match h.contents? v with
  | some (.list _) => entering v do
      return bracketed (← each (fun _ item => writtenChars item) (.elements v 0))
  | some (.dict es) => entering v do
      if h.isOfKind v .orderedDict then writeOrdered v es else return braced (← es.mapM writeEntry)
  | some (.set _) => entering v (writeSet .set v)
  | some (.queue _) | some (.listing ..) => entering v do
      return callForm (h.shortTypeName v) [bracketed (← (← iterate v).mapM writtenChars)]
  | some (.buffer _) => return writeBuffer h v
  | _ => return ("<" ++ h.typeName v ++ " object>").toList

/-- The written form of a failure: the name of its class and what it was made from. -/
def writeFailure (v : Value) : Run (List Char) := do
  let h ← heap
  let items := match h.part? v failureArguments with
    | some (.tuple _ _ items) => items
    | _ => []
  return callForm (h.shortTypeName v) (← items.mapM writtenChars)

/-- The written form of a value, by what it is. -/
def nativeForm (v : Value) : Run (List Char) := do
  let h ← heap
  match v with
  | .null | .bool _ | .scalar .. => ofExcept v.writePlain
  | .complex _ _ re im => return writeComplex re im
  | .tuple _ _ [item] => entering v do return '(' :: (← writtenChars item) ++ [',', ')']
  | .tuple _ _ items => entering v do return enclose ['('] (← items.mapM writtenChars) [')']
  | .frozenSet .. => entering v (writeSet .set v)
  | .view _ source => return callForm (h.typeName v) [← writtenChars source]
  | .range _ start stop step => do
    let parts := [Value.int start, .int stop] ++ if step = 1 then [] else [.int step]
    return callForm (h.typeName v) (← parts.mapM writtenChars)
  | .predicate .. => writePredicate v
  | .metadata .. | .options .. => entering v (writeRecord v)
  | .generic _ starred c parameter => do
    return (if starred then ['*'] else []) ++ (← writeOrigin c) ++
      bracketed (← writeParameters c parameter)
  | .builtin _ b => return ("<built-in function " ++ b.name ++ ">").toList
  | .code _ => return "<code object>".toList
  | .method _ (.field owner name) self => writeBound owner name self
  | .method _ fn self => do
    return ("<bound method " ++ h.nestedName fn ++ " of ").toList ++ (← writtenChars self) ++ ['>']
  | .bound _ _ fn => entering v do
    return callForm (h.qualifiedTypeName v) [← writtenChars fn]
  | .ofClass c => return ("<class '" ++ h.writtenClassName c ++ "'>").toList
  | .object _ (.kind .ellipsis) => return "Ellipsis".toList
  | .object _ (.kind .notImplemented) => return "NotImplemented".toList
  | .field owner name => writeField owner name
  | v =>
    match h.contentKind (h.classOf v) with
    | .predicate => writePredicate v
    | .constructionError | .assertError => writeFailure v
    | _ => writeContents v

/-- The written form of a value, where parts are written under the conduct at hand. -/
def writeOnce (v : Value) : Run Value := do
  let h ← heap
  match h.slot? .writing v with
  | some (.assigned method) => do requireText .writing (← callBound method v [])
  | some (.native .undefined) => return .keptText undefinedText
  | _ =>
    let text := String.ofList (← nativeForm v)
    if h.hasKeptForm v then return .keptText text else ownText text

end Run

end ValueShape
