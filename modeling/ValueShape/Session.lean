import ValueShape.Value.Class

/-!
# Sessions

The state that the library works on, and the computations over it.

* A `Session` is a heap, the register of metadata, the log of events so far, and the journal of the
  calls of the caller's functions.
* A `Conduct` says how values behave: what it means to call them, to compare, order, hash and write
  them.
  All of these may run functions of the caller, which may do anything in turn.
* An `Action α` computes an `α` in a session or fails; a `Run α` does so under a given conduct.  A
  failure does not undo what was done before it.
* An `Event` is written to the log when metadata is attached and when a modifier has decided what to
  do.
-/

set_option autoImplicit false

namespace ValueShape

/-! ## The log and the journal -/

/-- What a modifier has done with its argument. -/
inductive Outcome
  /-- Built a predicate around it. -/
  | wrap
  /-- Returned it. -/
  | noop
  /-- Returned what it had been built around. -/
  | unwrap
deriving DecidableEq, Repr

/-- The name of an outcome. -/
def Outcome.name : Outcome → String
  | wrap => "wrap"
  | noop => "noop"
  | unwrap => "unwrap"

/-- An entry of the log. -/
inductive Event
  /-- Metadata with so many arguments was attached. -/
  | attached (factory : Value) (argCount : Nat)
  /-- A modifier was applied to the callable of that name. -/
  | modified (modifier : Modifier) (outcome : Outcome) (predicate : Value)

/-- A call of a function of the caller. -/
structure Call where
  /-- The name of the function. -/
  name : Name
  /-- What it was applied to. -/
  argument : Value
  /-- The contents of all values at that moment, which the function may have changed since. -/
  heap : Heap

/-! ## The register -/

/-- An entry of the register of metadata. -/
structure Registration where
  /-- The value that the metadata belongs to, with the hash that it was registered under. -/
  key : Key Value
  /-- The metadata. -/
  metadata : Value

/-! ## The session -/

/-- The state that the library works on. -/
structure Session where
  /-- The contents of the values that can change. -/
  heap : Heap
  /-- The metadata of values, in the order of attachment. -/
  register : List Registration
  /-- The log, in order. -/
  events : List Event
  /-- The calls of the caller's functions, in order. -/
  calls : List Call
  /-- The values that are being written, the innermost first. -/
  writing : List Value
deriving Inhabited

/-- The session in which nothing has happened yet. -/
def Session.start : Session := ⟨.start, [], [], [], []⟩

/-- A computation in a session, which may fail. -/
abbrev Action := EStateM Failure Session

/-- How values behave. -/
structure Conduct where
  /-- What a value gives when it is called with arguments. -/
  call : Value → List Value → Action Value
  /-- What comparing two values for equality gives. -/
  compare : Value → Value → Action Value
  /-- What asking whether two values stand in an order gives; the method says in which. -/
  order : Method → Value → Value → Action Value
  /-- What a value is found by as a key. -/
  hash : Value → Action Hash
  /-- The written form of a value. -/
  write : Value → Action Value

/-- The conduct of values that do not do anything.  Where something is being written, a recursion of
calls is reported like any other. -/
def Conduct.none : Conduct where
  call _ _ := do throw (if (← get).writing.isEmpty then .callTooDeep else .tooDeep)
  compare _ _ := throw .tooDeep
  order _ _ _ := throw .tooDeep
  hash _ := throw .tooDeep
  write _ := throw .tooDeep

/-- A computation in a session under a conduct, which may fail. -/
abbrev Run := ReaderT Conduct Action

namespace Run

/-! ## Conduct

What values do is a parameter of all computations.  So the library can be described before it is
said what calls do, and calls can use the library. -/

/-- Calls a value. -/
def call (f : Value) (args : List Value) : Run Value := fun c => c.call f args

/-- Compares two values for equality.  The result counts by its truth value. -/
def compare (v w : Value) : Run Value := fun c => c.compare v w

/-- Asks whether two values stand in an order.  The result counts by its truth value. -/
def order (m : Method) (v w : Value) : Run Value := fun c => c.order m v w

/-- The hash of a value. -/
def hash (v : Value) : Run Hash := fun c => c.hash v

/-- The written form of a value, which is a text. -/
def write (v : Value) : Run Value := fun c => c.write v

/-! ## The state -/

/-- The heap of the session. -/
def heap : Run Heap := do return (← get).heap

/-- Changes the heap of the session. -/
def modifyHeap (f : Heap → Heap) : Run Unit := modify fun s => { s with heap := f s.heap }

/-- A fresh identity. -/
def fresh : Run Nat := do
  let s ← get
  set { s with heap := { s.heap with next := s.heap.next + 1 } }
  return s.heap.next

/-- A fresh value of the heap, of the given class and with the given contents. -/
def alloc (cls : Class) (contents : Contents) : Run Value := do
  let s ← get
  let (v, heap) := s.heap.alloc ⟨cls, contents⟩
  set { s with heap }
  return v

/-- Overwrites the contents of a value of the heap. -/
def overwrite (v : Value) (c : Contents) : Run Unit := modifyHeap fun h => h.write v c

/-- Writes an event to the log. -/
def log (e : Event) : Run Unit :=
  modify fun s => { s with events := s.events ++ [e] }

/-- Records the call of a function of the caller. -/
def recordCall (c : Call) : Run Unit := modify fun s => { s with calls := s.calls ++ [c] }

/-! ## Failures

A failure leaves the session as it has become.  Only the result is replaced where it is noticed. -/

/-- A result, or a failure. -/
def ofExcept {α : Type} : Except Failure α → Run α
  | .ok a => return a
  | .error e => throw e

/-- The result of a computation, or nothing if it fails in one of the given ways. -/
def recovering {α : Type} (fails : Failure → Bool) (run : Run α) : Run (Option α) :=
  tryCatch (some <$> run) fun e => if fails e then return none else throw e

/-- The result of a computation, or nothing if it fails in an ordinary way. -/
def guarded {α : Type} (run : Run α) : Run (Option α) := recovering Failure.isOrdinary run

/-- A computation inside of a generator, on the way to an item that it yields. -/
def yielded {α : Type} (run : Run α) : Run α := tryCatch run fun e => throw e.yielded

/-! ## New values -/

/-- A value that can be told from others: a number, text or bytes that have just been computed get
an identity, unless they exist only once. -/
def identified (v : Value) : Run Value := do
  match v with
  | .scalar c id s =>
    if id != unidentified || Value.isUnique c s then return v else return .scalar c (← fresh) s
  | v => return v

/-- A new integer. -/
def newInt (n : Int) : Run Value := identified (.int n)

/-- A new double. -/
def newDouble (bits : UInt64) : Run Value :=
  identified (.scalar (.kind .float) unidentified (.float bits))

/-- A new complex number. -/
def newComplex (re im : UInt64) : Run Value := do
  return .complex (.kind .complex) (← fresh) re im

/-- A new text. -/
def newText (s : String) : Run Value := identified (.text s)

/-- A text of its own, even if it is so short that it would exist only once. -/
def ownText (s : String) : Run Value := do
  return .scalar (.kind .text) (← fresh) (.text s)

/-- A list with the given elements. -/
def list (items : List Value) : Run Value := alloc (.kind .list) (.list items)

/-- A tuple with the given elements.  There is one empty tuple only. -/
def tuple (items : List Value) : Run Value := do
  if items.isEmpty then return .tuple (.kind .tuple) 0 []
  return .tuple (.kind .tuple) (← fresh) items

/-- A read-only mapping that shows a value. -/
def view (source : Value) : Run Value := do
  return .view (← fresh) source

end Run

end ValueShape
