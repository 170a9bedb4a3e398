import ValueShape.Conduct.Equality

/-!
# Running checks

`Check.run c x` is the verdict of a check on a value, where the callables of the check are functions
that can be asked.

* A check first looks at the outside of the value: its kind, its length, and for a strict object its
  keys.  If that does not fit, the verdict is negative and nothing is asked.
* After that it asks its callables in the order in which they were declared, and stops as soon as
  the verdict is settled.  An answer counts by its truth value.
* Asking may change the value.  Elements and fields are looked up when their turn comes, so a change
  is seen by what comes later; the values of a record and the keys of a strict object are looked up
  once, before anything is asked.
* A failure of a callable is a failure of the check.  An ordinary failure in reading a mapping is a
  negative verdict instead.
* Many checks ask their callables by means of a generator, which does not let the end of an iteration
  out as such: `Check.yielding` says which ones.
* `Leaf.test` is what the ready-made predicates say.  A leaf looks at the kind of the value only: an
  array is a list or a tuple, so texts and bytes are none, and a truth value is not a number.
-/

set_option autoImplicit false

namespace ValueShape

/-! ## Leaves -/

/-- Whether a value is a list or a tuple. -/
def Heap.isArray (h : Heap) (v : Value) : Bool := (h.sequence? v).isSome

/-- What a leaf says about a value. -/
def Leaf.test (h : Heap) : Leaf → Value → Bool
  | any, _ | unknown, _ => true
  | string, v => v.text?.isSome
  | number, v =>
    match v with
    | .scalar _ _ (.int _) | .scalar _ _ (.float _) => true
    | _ => false
  | int, v => v.int?.isSome
  | boolean, v =>
    match v with
    | .bool _ => true
    | _ => false
  | array, v => h.isArray v
  | record, v => h.isOfKind v .mapping
  | function, v => h.isCallable v
  | syncFunction, v => h.isCallable v && !v.isAsync
  | asyncFunction, v => h.isCallable v && v.isAsync
  | null, v => v.identical .null
  | undefined, v => h.isOfKind v .undefined
  | nullish, v => v.identical .null || h.isOfKind v .undefined
  | primitive, v => h.isPrimitive v

namespace Run

/-- Whether a value looks like a function to one who asks for the attributes of functions, and
whether what it does is asynchronous then. -/
def looksAsync (v : Value) : Run Bool := do
  if ← isOfKind v .kind then return false
  let name ← attribute? v Heap.nameField
  let code ← attribute? v "__code__"
  let defaults ← attribute? v "__defaults__"
  let named ← attribute? v "__kwdefaults__"
  let annotations ← attribute? v "__annotations__"
  let h ← heap
  let isNullOr := fun (v : Value) (k : Kind) => v.identical .null || h.isOfKind v k
  match code, name, defaults, named with
  | some (.code _), some name, some defaults, some named =>
    if name.text?.isSome && isNullOr defaults .tuple && isNullOr named .dict &&
        annotations.all fun a => isNullOr a .dict then
      match ← readAttribute v "__code__" with
      | .code async => return async
      | _ => return false
    else return false
  | _, _, _, _ => return false

/-- Whether a call of the value gives a pending result instead of a verdict, as far as the value
says so itself. -/
def isAsync (v : Value) : Run Bool := do
  match v with
  | .function .. | .leaf _ | .operation _ | .rule .. | .ofClass _ | .builtin .. | .field .. =>
    return v.isAsync
  | .method _ fn _ => return fn.isAsync
  | .bound _ _ fn => unwrapped fn
  | v => looksInside v
where
  /-- Whether what stands below bound arguments is asynchronous. -/
  unwrapped : Value → Run Bool
    | .bound _ _ fn => unwrapped fn
    | .method _ fn _ => return fn.isAsync
    | .object id c => looksInside (.object id c)
    | v => return v.isAsync
  /-- Whether an object is asynchronous, by its attributes. -/
  looksInside (v : Value) : Run Bool := do
    if ← isOfAnyKind v [.method, .bound, .function] then return false else looksAsync v

end Run

/-- What a leaf says about a value, as far as the value says so itself. -/
def Leaf.ask (l : Leaf) (v : Value) : Run Bool := do
  let h ← Run.heap
  let either := fun (ks : List Kind) => Run.isOfAnyKind v ks
  match l, ← Run.asksForClass v with
  | syncFunction, _ => if h.isCallable v then (! ·) <$> Run.isAsync v else return false
  | asyncFunction, _ => if h.isCallable v then Run.isAsync v else return false
  | string, true => either [.text]
  | number, true => if ← either [.int, .float] then (! ·) <$> either [.bool] else return false
  | int, true => if ← either [.int] then (! ·) <$> either [.bool] else return false
  | boolean, true => either [.bool]
  | array, true => either [.list, .tuple]
  | record, true => either [.mapping]
  | undefined, true => either [.undefined]
  | nullish, true => either [.undefined]
  | primitive, true => Run.isPrimitive v
  | l, _ => return l.test h v

/-! ## Answers

The answer to a question may be any value.  It counts by its truth value, and asking for that may
call a method of its class. -/

/-- A function that can be asked about a value. -/
abbrev Asked := Value → Run Value

namespace Asked

/-- Whether the answer about a value is positive. -/
def accepts (ask : Asked) (x : Value) : Run Bool := do Run.truth (← ask x)

/-- The function as a generator asks it.  The answers that it yields count by their truth values
outside of the generator. -/
def yielded (ask : Asked) : Asked := fun x => Run.yielded (ask x)

end Asked

/-! ## Verdicts

Some checks ask their callables in a loop, and others by a generator, out of which the end of an
iteration comes as another failure.  `Check.yielding` tells them apart, and `Check.consult` is the
same for both. -/

namespace Check

open Run

/-- Whether the elements of an iteration are accepted position by position, as far as both go. -/
def runHead : List Asked → Cursor → Run Bool
  | [], _ => return true
  | ask :: asks, c => do
    match ← next c with
    | none => return true
    | some (v, c) => if ← ask.accepts v then runHead asks c else return false

/-- Whether arguments are accepted, from position `i` on.  Those beyond the first `length` stand for
the absent value. -/
def runArguments (x : Value) (length : Nat) : List Asked → Nat → Run Bool
  | [], _ => return true
  | ask :: asks, i => do
    let v ← if i < length then do item x (← identified (.int i)) else pure .undefined
    if ← ask.accepts v then runArguments x length asks (i + 1) else return false

/-- Whether the rest, if it is asked for, accepts what remains after the first `n` elements. -/
def runRest (rest : Option Asked) (x : Value) (n : Nat) : Run Bool := do
  match rest with
  | none => return true
  | some ask => ask.accepts (← dropFirst x n)

/-- Whether fields are accepted under their names.  A missing name stands for the absent value. -/
def runFields (x : Value) : List (Name × Asked) → Run Bool
  | [] => return true
  | (name, ask) :: fields => do
    match ← guarded (getValue x (.ofName name) .undefined) with
    | none => return false
    | some v => if ← ask.accepts v then runFields x fields else return false

/-- Whether all keys of a mapping are among the allowed ones, and no more in number. -/
def runKeys (allowed : List (Key Value)) (x : Value) : Run Bool := do
  match ← guarded (readParts .keys x) with
  | none => return false
  | some keys =>
    if allowed.length < keys.length then return false
    return (← guarded (keys.allM (containsMember allowed))).getD false

/-- Whether a value is a list or a tuple, as far as it says so itself. -/
def isArray (x : Value) : Run Bool := do
  if ← asksForClass x then isOfAnyKind x [.list, .tuple] else return (← heap).isArray x

/-- The check, where callables that are asked by a generator are asked in that way.  Those for the
elements, the values, the head of a tuple and the members are; arguments, fields, what remains, and
the inside of an optional layer are asked directly. -/
def yielding : Check Asked Value → Check Asked Value
  | array ask => array ask.yielded
  | record ask => record ask.yielded
  | tuple asks rest => tuple (asks.map Asked.yielded) rest
  | oneOf asks => oneOf (asks.map Asked.yielded)
  | allOf asks => allOf (asks.map Asked.yielded)
  | c => c

/-- The verdict of a check, where every callable is asked as it stands. -/
def consult (c : Check Asked Value) (x : Value) : Run Bool := do
  match c with
  | array ask => if ← isArray x then do allFrom ask.accepts (← cursor x) else return false
  | record ask =>
    if !(← isOfKind x .mapping) then return false
    match ← guarded (readParts .values x) with
    | none => return false
    | some values => values.allM ask.accepts
  | tuple asks rest =>
    if !(← isArray x) then return false
    let length ← size x
    if length < asks.length || (rest.isNone && asks.length < length) then return false
    if ← runHead asks (← cursor x) then runRest rest x asks.length else return false
  | parameters asks required rest =>
    if !(← isArray x) then return false
    if (← size x) < required then return false
    if rest.isNone then
      if asks.length < (← size x) then return false
    if ← runArguments x (← size x) asks 0 then runRest rest x asks.length else return false
  | object fields allowed =>
    if !(← isOfKind x .mapping) then return false
    match allowed with
    | none => runFields x fields
    | some allowed => if ← runKeys allowed x then runFields x fields else return false
  | oneOf asks => asks.anyM fun ask => ask.accepts x
  | allOf asks => asks.allM fun ask => ask.accepts x
  | literal l => matchesLiteral x l
  | literals ls => ls.anyM fun l => do truth (← yielded (matchLiteral x l))
  | instanceOf cls => isInstance x cls
  | optional ask => if x.identical .undefined then return true else ask.accepts x

/-- The verdict of a check. -/
def run (c : Check Asked Value) (x : Value) : Run Bool := c.yielding.consult x

end Check

end ValueShape
