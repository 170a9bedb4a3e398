import ValueShape.Conduct.Equality
import ValueShape.Conduct.Writing

/-!
# Provenance

Which factory built a predicate, and from which arguments.

* `Run.registration?` looks a value up in the register.  A registered value is found through any
  value that has the hash it was registered under and equals it.  A value that cannot be hashed, or
  cannot be referred to without being kept alive, is never found.
* `Run.attach` registers metadata for a value, once and for all.  It writes to the log if the
  metadata has a name and arguments.  Any value may serve as metadata; `Run.newMetadata` makes a
  record that has both.
* `Run.isProductOf` compares the name in the metadata of a value.
-/

set_option autoImplicit false

namespace ValueShape

namespace Run

/-! ## Looking up -/

/-- The place of a key among registrations.  Sameness alone is not enough. -/
def findRegistration? (key : Key Value) : List Registration → Run (Option Nat)
  | [] => return none
  | r :: rs => do
    let found ← if r.key.hash.same key.hash then equal r.key.value key.value else pure false
    if found then return some 0
    else return (← findRegistration? key rs).map (· + 1)

/-- The registration of a value, and its place. -/
def registration? (v : Value) : Run (Option Registration) := do
  if !(← heap).isReferable v then return none
  let find := do
    let key ← keyed v
    let register := (← get).register
    return (← findRegistration? key register).bind fun place => register[place]?
  return (← recovering Failure.isOfType find).join

/-- The metadata registered for a value.  Null is none. -/
def metadata? (v : Value) : Run (Option Value) := do
  return ((← registration? v).map (·.metadata)).filter fun m => !m.identical .null

/-- The name attribute of metadata, which names a factory. -/
def factoryOf (metadata : Value) : Run Value := readAttribute metadata nameAttribute

/-- Whether metadata is registered for a value under a factory name, as the comparison of the names
tells. -/
def isProductOf (v factory : Value) : Run Value := do
  match ← metadata? v with
  | some m => do compare (← factoryOf m) factory
  | none => return .bool false

/-! ## Attaching

A failure while the log is written does not undo the registration, which comes before it. -/

/-- Refuses something on behalf of the factory that a value names. -/
def refuse {α : Type} (factory : Value) (detail : String) : Run α := do
  throw (.construction factory (← formatted factory) detail)

/-- Writes to the register.  A registration of the same key is used again. -/
def register (key : Key Value) (metadata : Value) : Run Unit := do
  let rs := (← get).register
  let place ← findRegistration? key rs
  modify fun s =>
    { s with
      register := match place with
        | some place => s.register.modify place fun r => { r with metadata }
        | none => s.register ++ [⟨key, metadata⟩] }

/-- The name of the attribute of metadata that holds the arguments. -/
def argumentsAttribute : String := "args"

/-- Registers metadata for a value that has none. -/
def attach (v metadata : Value) : Run Unit := do
  let h ← heap
  if !h.isReferable v then
    let factory ← factoryOf metadata
    refuse factory ("predicate of type " ++ (← shownClass v) ++ " cannot carry metadata")
  if (← metadata? v).isSome then
    refuse (← factoryOf metadata) "predicate already carries factory metadata"
  register (← keyed v) metadata
  let factory ← factoryOf metadata
  log (.attached factory (← size (← readAttribute metadata argumentsAttribute)))

/-! ## Records -/

/-- Stores a field of a new record.  If something else stands for the field in the class, it becomes
an attribute of the record like any other. -/
def storeField (record : Value) (field : String) (value : Value) : Run Unit := do
  let h ← heap
  match h.inherited? (h.classOf record) field, h.classOf record with
  | some (.assigned (.field ..)), _ => return ()
  | _, .declared _ => modifyHeap fun h => h.assign record field value
  | _, .kind _ =>
    throw (.badAttribute ("'" ++ Failure.mostBriefly (h.qualifiedTypeName record) ++
      "' object attribute '" ++ field ++ "' is read-only"))

/-- Whether a value is a text that counts as a name. -/
def isName (v : Value) : Run Bool := do
  if ← isOfKind v .text then truth v else return false

/-- A new record.  The factory must be named by a text that is not empty, and the arguments are
copied unless they are a tuple already. -/
def newMetadata (cls : Class) (factory args : Value) : Run Value := do
  let refusal := Failure.refusal "metadata" "factory name must be a non-empty string"
  match factory.name? with
  | none => throw refusal
  | some name =>
    let record := Value.metadata cls (← fresh) name args
    storeField record nameAttribute factory
    storeField record argumentsAttribute args
    if !(← isName (← readAttribute record nameAttribute)) then throw refusal
    let args ← readAttribute record argumentsAttribute
    if ← isOfKind args .tuple then return record
    else
      let args ← toTuple args
      storeField record argumentsAttribute args
      match record with
      | .metadata cls id name _ => return .metadata cls id name args
      | record => return record

end Run

end ValueShape
