import ValueShape.Member.Interpolation
import ValueShape.Member.Iterator
import ValueShape.Member.Mapping
import ValueShape.Member.Number
import ValueShape.Member.Object
import ValueShape.Member.Sequence
import ValueShape.Member.Set

/-!
# Calling members

What happens when a member of a kind is called like any other function.

* `Run.callSpecial?` carries out the methods that operations are carried out by.  A method that does
  not know an answer gives a value that says so.
* `Run.callOfKind` carries out all other methods, and `Run.callOfOwnClass` those of the class itself.
* `Run.callMember` calls any member.  The first argument has to be an object of the kind, and the
  others as many as the member takes.
-/

set_option autoImplicit false

namespace ValueShape

namespace Run

/-! ## Methods that operations are carried out by -/

/-- The written form of a value, by the method of a kind. -/
def formByKind (k : Kind) (v : Value) : Run (List Char) := do
  match k, v, (← heap).entries? v with
  | .int, .bool b, _ => return if b then ['1'] else ['0']
  | .dict, _, some es => entering v do return braced (← es.mapM writeEntry)
  | _, v, _ => nativeForm v

/-- An index that a queue is given, as an integer. -/
def queueKey (k : Kind) (key : Value) : Run Value := do
  if k == .queue then newInt (← fitting .tooLarge key (← asIndex key)) else return key

/-- The parts of a mapping, as a collection of the kind that its mappings show them in. -/
def shownParts (k : Kind) (part : Part) (v : Value) : Run Value := do
  if k == .dict || k == .orderedDict then newListing part (k == .orderedDict) v
  else list (← readListing (← nativeListing k part v))

/-- Carries out a method by which an operation on a read-only mapping is carried out, if it passes it
on to the value that it shows. -/
def callSpecialOfView? (c : MemberCall) (m : Method) : Option (Run Value) :=
  match m, c.arguments with
  | .length, _ => some do newInt (← size c.self)
  | .iteration, _ => some (iteratorOf c.self)
  | .item, [key] => some (item c.self key)
  | .membership, [x] => some do return .bool (← contains c.self x)
  | .get, _ | .keys, _ | .values, _ | .items, _ => some (callOfView c)
  | _, _ => none

/-- Carries out a method by which an operation is carried out, if it is one that several kinds have.
Calling and deciding are left to `callSelf`. -/
def callSpecial? (callSelf : Value → List Value → Run Value) (c : MemberCall) (m : Method) :
    Option (Run Value) :=
  let v := c.self
  match m, c.arguments with
  | .length, _ => some do newInt (← nativeSize c.owner v)
  | .iteration, _ => some (newIterator c.owner v)
  | .next, _ => some (requireNext v)
  | .item, [key] => some do nativeItem c.owner v (← queueKey c.owner key)
  | .membership, [x] => some do return .bool (← nativeContains c.owner v x)
  | .equality, [w] => some do return answered (← nativeAnswer c.owner v w)
  | .inequality, [w] => some do return answered (← contrary (nativeAnswer c.owner v w))
  | .less, [w] | .atMost, [w] | .greater, [w] | .atLeast, [w] => some do
    return answered (← nativeOrder m c.owner v w)
  | .hash, _ => some do newInt (← nativeHash c.owner v).toInt
  | .truth, _ => some do return .bool (nativeTruth (← heap) c.owner v)
  | .writing, _ => some do
    if c.owner == .undefined then return .keptText undefinedText
    ownText (String.ofList (← formByKind c.owner v))
  | .plainForm, _ => some (plainForm v)
  | .format, [how] => some (formatBy c.owner v how)
  | .get, [key] => some (nativeGet c.owner v key .null)
  | .get, [key, default] => some (nativeGet c.owner v key default)
  | .keys, _ => some (shownParts c.owner .keys v)
  | .values, _ => some (shownParts c.owner .values v)
  | .items, _ => some (shownParts c.owner .items v)
  | .setItem, [key, value] => some <| changing do nativeSetItem v (← queueKey c.owner key) value
  | .readAttribute, [_] | .setAttribute, _ | .deleteAttribute, _ =>
    some (callOfObject { c with owner := .object })
  | .initialisation, args => some (changing (discard (fillBy c.owner v args)))
  | .call, args => some (callSelf v args)
  | _, _ => none

/-! ## Other methods -/

/-- Carries out a method of the kind that it belongs to. -/
def callOfKind (c : MemberCall) : Run Value := do
  let h ← heap
  match c.owner, c.self with
  | .bool, _ | .int, _ | .float, _ | .complex, _ => callOfNumber c
  | .text, v =>
    let s := v.text?.getD ""
    match (callOfConcatenation? c).or (callOfInterpolation? c), c.name, c.arguments with
    | some act, _, _ => act
    | none, "encode", _ => do
      let (e, rule) ← encodingArguments c
      identified (.scalar (.kind .bytes) unidentified (.bytes (← encodeText e rule s.toList)))
    | none, "format", args => fillTemplate v ⟨some args, none⟩
    | none, "format_map", [m] => fillTemplate v ⟨none, some m⟩
    | none, _, _ => callOfText c s
  | .bytes, v | .buffer, v =>
    ((callOfConcatenation? c).or (callOfInterpolation? c)).getD
      (callOfBytes c ((h.bytes? v).getD []))
  | .list, _ | .tuple, _ | .queue, _ | .range, _ | .sequence, _ => callOfSequence c
  | .dict, _ | .orderedDict, _ => callOfMapping c
  | .view, _ => callOfView c
  | .set, _ | .frozenSet, _ => callOfSet c
  | .listing .., _ => callOfListing c
  | .iterator _, _ => callOfIterator c
  | .kind, .ofClass cls | .abstractKind, .ofClass cls => callOfClass c cls
  | .constructionError, _ | .assertError, _ => callOfFailure c
  | .undefined, _ => return if c.name == Method.reduction.name then .keptText undefinedText else .null
  | _, _ => callOfFunction c

/-- Carries out a member of a kind for one of its objects. -/
def carryOut (callSelf : Value → List Value → Run Value) (c : MemberCall) : Run Value :=
  match c.owner, (Method.ofName? c.name).bind fun m => if c.owner == .view then
      (callSpecialOfView? c m).or (callSpecial? callSelf c m) else callSpecial? callSelf c m with
  | .object, _ => callOfObject c
  | _, some act => act
  | _, none => if c.name == "__reversed__" then newReversed c.owner c.self else callOfKind c

/-! ## Members of classes

These are called with a class in place of an object.  What they make belongs to that class, even if
it is a derived one. -/

/-- A value made for a class, which is given to the class unless it is of the built-in one. -/
def madeFor (k : Kind) (cls : Class) (v : Value) : Run Value :=
  if cls == .kind k then return v else call (.ofClass cls) [v]

/-- How the numbers of a kind are stored. -/
def floatFormat (v : Value) : Run Value := do
  match v.text? with
  | some "double" | some "float" => newText "IEEE, little-endian"
  | some _ => throw (.badValue "__getformat__() argument 1 must be 'double' or 'float'")
  | none =>
    throw (.badType ("__getformat__() argument must be str, not " ++ (← argumentTypeName v)))

/-- Carries out a method of a class itself. -/
def callOfOwnClass (c : MemberCall) (cls : Class) : Run Value := do
  match c.owner, c.name, c.arguments with
  | .float, "fromhex", [x] => do madeFor .float cls (← newDouble (← doubleFromHex x))
  | .bytes, "fromhex", [x] => do
    let bs ← bytesFromHex c x
    madeFor .bytes cls (← identified (.scalar (.kind .bytes) unidentified (.bytes bs)))
  | .buffer, "fromhex", [x] => do
    madeFor .buffer cls (← alloc (.kind .buffer) (.buffer (← bytesFromHex c x)))
  | .int, "from_bytes", _ => do madeFor .int cls (← newInt (← intFromBytes c))
  | _, "fromkeys", keys :: rest => fromKeys cls keys (rest.head?.getD .null)
  | _, "__class_getitem__", [key] => parameterize cls key
  | _, "_from_iterable", args => call (.ofClass cls) args
  | _, "__subclasshook__", _ => return .unanswered
  | .kind, "__prepare__", _ => newDict (.kind .dict) []
  | .float, "__getformat__", [x] => floatFormat x
  | _, _, _ => return .null

/-- Makes an object by the method of a kind, if that is the one by which the class makes its
objects. -/
def createBy (k : Kind) (args : List Value) : Run Value := do
  let h ← heap
  let place := k.qualifiedName ++ "." ++ Method.creation.name
  match args with
  | [] => throw (.badArguments (place ++ "(): not enough arguments"))
  | .ofClass cls :: rest => do
    let name := h.qualifiedClassName cls
    if !h.derives cls (.kind k) then
      throw (.badType (place ++ "(" ++ name ++ "): " ++ name ++ " is not a subtype of " ++
        k.qualifiedName))
    let maker := ((h.kinds cls).find? fun b => b.isCreating || b == .undefined).getD .object
    if maker != k && maker != .undefined then
      throw (.badType (place ++ "(" ++ name ++ ") is not safe, use " ++ maker.qualifiedName ++ "." ++
        Method.creation.name ++ "()"))
    nativeMake k cls rest
  | v :: _ =>
    throw (.badType (place ++ "(X): X is not a type object (" ++ h.qualifiedTypeName v ++ ")"))

/-- Carries out a function of a class that is given no object. -/
def callStatic (c : MemberCall) : Run Value := do
  if c.name == Method.creation.name then return ← createBy c.owner c.arguments
  match c.owner, c.arguments with
  | .text, args => newTable args
  | _, [sources, targets] => newByteTable sources targets
  | _, _ => return .null

/-! ## Calls -/

/-- The failure of calling a member of a kind without an object. -/
def lacksObject (owner : Kind) (name : String) : Failure :=
  let fullName := owner.name ++ "." ++ name
  match owner.fieldKind name with
  | .wrapperDescriptor =>
    .badType ("descriptor '" ++ name ++ "' of '" ++ owner.qualifiedName ++
      "' object needs an argument")
  | .methodDescriptor => .badType ("unbound method " ++ fullName ++ "() needs an argument")
  | _ => .badArguments (fullName ++ "() missing 1 required positional argument: 'self'")

/-- The failure of calling a member of a kind for an object of another one. -/
def misfitsObject (h : Heap) (owner : Kind) (name : String) (v : Value) : Failure :=
  match owner.fieldKind name with
  | .wrapperDescriptor =>
    .badType ("descriptor '" ++ name ++ "' requires a '" ++
      Failure.moreBriefly owner.qualifiedName ++ "' object but received a '" ++
      Failure.moreBriefly (h.qualifiedTypeName v) ++ "'")
  | _ => h.partMismatch owner name v

/-- The name of the class that a member goes by which was read through a value. -/
def nameThrough (h : Heap) : Value → String
  | .ofClass c => h.nestedClassName c
  | v => h.nestedClassName (h.classOf v)

/-- Calls a member of a kind, which may have been read through the first argument. -/
def callMember (callSelf : Value → List Value → Run Value) (bound : Bool) (owner : Kind)
    (name : String) (args : List Value) : Run Value := do
  let h ← heap
  let member := fun (self : Value) (rest : List Value) =>
    MemberCall.mk owner name (if bound then nameThrough h self else owner.name) self rest
  let fitting := fun (c : MemberCall) (act : Run Value) => do
    (owner.arity? name).forM fun a => (c.misfit? a).forM throw
    act
  match owner.memberSort? name, args with
  | some .classMethod, .ofClass cls :: rest => do
    let c := member (.ofClass cls) rest
    fitting c (callOfOwnClass c cls)
  | some .static, args =>
    let c := { member .null args with through := owner.name }
    fitting c (callStatic c)
  | some .classMethod, _ => return .null
  | some .computed, _ | some .stored, _ | none, _ =>
    throw (.notCallable (owner.fieldKind name).name)
  | _, [] => throw (lacksObject owner name)
  | sort, self :: rest => do
    if sort != some .function && !h.isOfKind self owner then throw (misfitsObject h owner name self)
    let c := member self rest
    fitting c (carryOut callSelf c)

end Run

end ValueShape
