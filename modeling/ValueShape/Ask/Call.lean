import ValueShape.Ask.Check
import ValueShape.Conduct.Hash
import ValueShape.Member.Call
import ValueShape.Operation

/-!
# Calling values

What happens when a value is called.

* `Ask.callWith host f args` calls any value.  A predicate asks the callable that decides for it and
  answers with a truth value; a rule runs its check; a function of the caller is recorded in the
  journal before it acts; an asynchronous function acts later, and only gives a pending result.
* A `Host` is the surrounding program.  It takes notice of the calls of the caller's functions, and
  does what those of the `script` kind ask for.
* A predicate contains the callables that it asks, so their calls are nested as deeply as values
  are, and the recursion is on the callable.  All else that a call leads to, such as a method that
  was assigned to a class, is left to the conduct at hand.
* `Ask.conduct host n` is how values behave when at most `n` such steps are taken inside each other.
* `Ask.callWith_predicate` and `Ask.callWith_rule` say what a call of a predicate and of a rule
  does.
-/

set_option autoImplicit false

namespace ValueShape

/-- The surrounding program, as far as calls reach into it. -/
structure Host where
  /-- What the script of the given number does with an argument. -/
  script : Nat → Value → Run Value
  /-- What happens to the argument of a function before the call is recorded. -/
  notice : Value → Run Unit

/-- A program without scripts. -/
def Host.none : Host := ⟨fun _ _ => return .undefined, fun _ => return ()⟩

instance : Inhabited Host := ⟨Host.none⟩

namespace Ask

open Run

/-! ## Functions

Each call of a function of the caller goes into the journal.  So a session tells which of them were
asked, about what, and in which order. -/

/-- The values that stand for arguments of a function that are left out. -/
def defaults (h : Heap) (fn : Value) : List Value :=
  match h.assigned? fn "__defaults__" with
  | some (.tuple _ _ vs) => vs
  | _ => []

/-- The failure of calling a function of one argument with another number of them. -/
def misfitCall (h : Heap) (fn : Value) (parameter : String) (args : List Value) : Failure :=
  let optional := (defaults h fn).length
  let problem := ((Signature.unary parameter).misfit? ⟨args, []⟩).getD "()"
  .badArguments (h.nestedName fn ++
    if optional == 0 || args.length ≤ 1 then problem
    else "() takes from " ++ (1 - (optional : Int)).repr ++ " to 1 positional arguments but " ++
      args.length.repr ++ " were given")

/-- The only argument of a call of a function of one argument, which may be left out if there is a
value that stands for it. -/
def onlyArgument (fn : Value) (parameter : String) (args : List Value) : Run Value := do
  let h ← heap
  match args, (defaults h fn).getLast? with
  | [x], _ | [], some x => return x
  | args, _ => throw (misfitCall h fn parameter args)

/-- Records the call of a function of the caller. -/
def record (host : Host) (name : Name) (x : Value) : Run Unit := do
  let c := ⟨name, x, ← heap⟩
  host.notice x
  recordCall c

/-- The pending result of an asynchronous function, which goes by the name of the function. -/
def pendingResult (fn : Value) : Run Value := do
  let pending := .object (← fresh) (.kind .coroutine)
  modifyHeap fun h => h.assign pending Heap.nameField ((h.nameAttribute fn).getD .null)
  return pending

/-- Calls a function of the caller. -/
def callFunction (host : Host) (name : Name) (body : Body Value) (x : Value) : Run Value := do
  match body with
  | .silent v => return v
  | .returns v =>
    record host name x
    return v
  | .raises r =>
    record host name x
    throw (.raised r)
  | .script n =>
    record host name x
    host.script n x

/-- Calls a ready-made function. -/
def callBuiltin (b : Builtin) (args : List Value) : Run Value := do
  let given := " (" ++ args.length.repr ++ " given)"
  match b, args with
  | .length, [x] => identified (.int (← size x))
  | .callable, [x] => return .bool ((← heap).isCallable x)
  | b, _ => throw (.badArguments (b.name ++ "() takes exactly one argument" ++ given))

/-! ## Objects -/

/-- The name of the attribute that holds what decides for a predicate. -/
def deciderAttribute : String := "_check"

/-- The failure of calling an object of a kind with too few or too many arguments. -/
def misfitObject (k : Kind) (args : List Value) : Failure :=
  .badArguments (k.name ++ "." ++ Method.call.name ++
    if args.isEmpty then "() missing 1 required positional argument: 'x'"
    else "() takes 2 positional arguments but " ++ (args.length + 1).repr ++ " were given")

/-- Calls a predicate by its attributes. -/
def callPredicate (f : Value) (args : List Value) : Run Value := do
  match args with
  | [x] =>
    let decider ← readAttribute f deciderAttribute
    return .bool (← truth (← call decider [x]))
  | args => throw (misfitObject .predicate args)

/-- Calls a value by the method of its class, if it can be called at all. -/
def callObject (f : Value) (args : List Value) : Run Value := do
  let h ← heap
  match h.slot? .call f with
  | some (.assigned method) => callBound method f args
  | some (.native .predicate) => callPredicate f args
  | some (.native k) =>
    if !k.isAccepting then throw (.notCallable (h.qualifiedTypeName f))
    if args.length != 1 then throw (misfitObject k args)
    return .bool true
  | none => throw (.notCallable (h.qualifiedTypeName f))

/-- The name of the attribute that holds the class with a parameter that an object was made by. -/
def parameterizedAttribute : String := "__orig_class__"

/-- Calls a class with a parameter.  The object remembers it, if it can. -/
def callGeneric (f : Value) (origin : Class) (args : List Value) : Run Value := do
  let object ← callClass origin args
  let remember := setAttribute object (.keptText parameterizedAttribute) f
  discard (recovering (fun e => e.isOfAttribute || e.isOfType) remember)
  return object

/-- Carries out the method of a kind for calling one of its objects. -/
def callSelf (f : Value) (args : List Value) : Run Value := do
  match f with
  | .predicate .. => callPredicate f args
  | f =>
    match (← heap).slot? .call f with
    | some (.native k) =>
      if !k.isAccepting then call f args
      else if args.length != 1 then throw (misfitObject k args)
      else return .bool true
    | _ => call f args

/-- Calls a value that asks no other callable. -/
def callPlain (host : Host) (f : Value) (args : List Value) : Run Value := do
  match f, args with
  | .leaf l, [x] => return .bool (← l.ask x)
  | .leaf l, args => do return .bool (← l.ask (← onlyArgument f l.parameter args))
  | .operation o, args => o.apply ⟨args, []⟩
  | .function _ name async body, args =>
    let x ← onlyArgument f "x" args
    if async then pendingResult f else callFunction host name body x
  | .builtin _ b, args => callBuiltin b args
  | .method _ (.field owner name) object, args => callMember callSelf true owner name (object :: args)
  | .method _ fn object, args => call fn (object :: args)
  | .field owner name, args => callMember callSelf false owner name args
  | .generic _ _ c _, args => callGeneric f c args
  | .ofClass c, args => callClass c args
  | f, args => callObject f args

/-! ## Calls

A predicate hands its check over to functions that can be asked.  There is one definition for each
place in which a check keeps its callables, so that the recursion is seen to be on parts. -/

mutual

/-- Calls a value. -/
def callWith (host : Host) : Value → List Value → Run Value
  | .predicate _ _ _ decider, [x] => do
    return .bool (← Asked.accepts (fun x => callWith host decider [x]) x)
  | .rule _ check, [x] => do return .bool (← (askedCheck host check).run x)
  | .bound (.kind _) _ fn, args => callWith host fn args
  | .bound cls id fn, args => do
    match (← heap).slot? .call (.bound cls id fn) with
    | some (.assigned method) => callBound method (.bound cls id fn) args
    | _ => callWith host fn args
  | .predicate .., args => throw (misfitObject .predicate args)
  | .rule id check, args => do throw (misfitCall (← heap) (.rule id check) "x" args)
  | f, args => callPlain host f args

/-- A check whose callables are functions that can be asked. -/
def askedCheck (host : Host) : Check Value Value → Check Asked Value
  | .array p => .array fun x => callWith host p [x]
  | .record p => .record fun x => callWith host p [x]
  | .tuple ps rest => .tuple (askedList host ps) (askedOption host rest)
  | .parameters ps required rest =>
    .parameters (askedList host ps) required (askedOption host rest)
  | .object fields allowed => .object (askedFields host fields) allowed
  | .oneOf ps => .oneOf (askedList host ps)
  | .allOf ps => .allOf (askedList host ps)
  | .literal l => .literal l
  | .literals ls => .literals ls
  | .instanceOf cls => .instanceOf cls
  | .optional p => .optional fun x => callWith host p [x]

/-- Callables as functions that can be asked. -/
def askedList (host : Host) : List Value → List Asked
  | [] => []
  | p :: ps => (fun x => callWith host p [x]) :: askedList host ps

/-- A callable that may be missing, as a function that can be asked. -/
def askedOption (host : Host) : Option Value → Option Asked
  | none => none
  | some p => some fun x => callWith host p [x]

/-- Fields with functions that can be asked. -/
def askedFields (host : Host) : List (Name × Value) → List (Name × Asked)
  | [] => []
  | (name, p) :: fields => (name, fun x => callWith host p [x]) :: askedFields host fields

end

/-- A callable as a function that can be asked. -/
def asked (host : Host) (f : Value) : Asked := fun x => callWith host f [x]

/-! ## Conduct

What a value does may run methods that were assigned to its class, and these may call the library
again.  So the conduct for `n + 1` steps carries out one of them, and leaves all that it leads to to
the conduct for `n`. -/

/-- Whether a predicate is called in the way that it was made for, unless its class has other
methods for that. -/
def callsDecider (h : Heap) (f : Value) : Bool :=
  match f with
  | .predicate .. =>
    h.provider? .call f == some .predicate &&
      (h.inherited? (h.classOf f) deciderAttribute).any Heap.isField
  | _ => true

/-- Calls a value, where other calls are made under the conduct at hand. -/
def callOnce (host : Host) (f : Value) (args : List Value) : Run Value := do
  if callsDecider (← heap) f then callWith host f args else callObject f args

/-- How values behave when at most `n` steps are taken inside each other. -/
def conduct (host : Host) : Nat → Conduct
  | 0 => .none
  | n + 1 => {
      call := fun f args => (callOnce host f args).run (conduct host n)
      compare := fun v w => (compareOnce v w).run (conduct host n)
      order := fun m v w => (orderOnce m v w).run (conduct host n)
      hash := fun v => (hashOnce v).run (conduct host n)
      write := fun v => (writeOnce v).run (conduct host n) }

/-- The number of steps that are taken inside each other at most. -/
def maxDepth : Nat := 1000

/-- A computation in the surroundings of a program. -/
def run {α : Type} (host : Host) (action : Run α) : Action α :=
  ReaderT.run action (conduct host maxDepth)

/-! ## What a call does -/

variable (host : Host)

theorem askedList_eq_map (ps : List Value) : askedList host ps = ps.map (asked host) := by
  induction ps with
  | nil => rfl
  | cons p ps ih => simp only [askedList, List.map_cons, ih]; rfl

theorem askedOption_eq_map (p : Option Value) : askedOption host p = p.map (asked host) := by
  cases p <;> rfl

theorem askedFields_eq_map (fields : List (Name × Value)) :
    askedFields host fields = fields.map fun e => (e.1, asked host e.2) := by
  induction fields with
  | nil => rfl
  | cons e fields ih => obtain ⟨name, p⟩ := e; simp only [askedFields, List.map_cons, ih]; rfl

theorem askedCheck_eq_map (c : Check Value Value) :
    askedCheck host c = c.map (asked host) := by
  cases c <;>
    simp only [askedCheck, Check.map, askedList_eq_map, askedOption_eq_map, askedFields_eq_map] <;>
    rfl

/-- **A predicate asks the callable that decides for it.** -/
theorem callWith_predicate (id : Nat) (name : Name) (f : Facets) (decider x : Value) :
    callWith host (.predicate id name f decider) [x] =
      do return .bool (← (asked host decider).accepts x) := by
  rw [callWith]; rfl

/-- **A rule runs its check**, asking its parts as any callable is asked. -/
theorem callWith_rule (id : Nat) (c : Check Value Value) (x : Value) :
    callWith host (.rule id c) [x] = do return .bool (← (c.map (asked host)).run x) := by
  rw [callWith, askedCheck_eq_map]

/-- A predicate of the library answers with the verdict of its rule. -/
theorem callWith_predicate_rule (id id' : Nat) (name : Name) (f : Facets) (c : Check Value Value)
    (x : Value) :
    callWith host (.predicate id name f (.rule id' c)) [x] =
      do return .bool (← (c.map (asked host)).run x) := by
  rw [callWith_predicate]
  simp only [Asked.accepts, asked, callWith_rule, bind_assoc, pure_bind, truth_bool]

end Ask

end ValueShape
