import ValueShape.Creation
import ValueShape.Conduct.Hash
import ValueShape.Member.Arity

/-!
# Methods of objects

The methods that every object has, and those of classes, functions and failures.

* `Run.callOfObject` carries out a method that every object has.
* `Run.callOfClass` carries out a method of classes, and `Run.callOfFunction` one of functions, which
  become methods when they are read through an object.
* `Run.callOfFailure` carries out a method of failures.
-/

set_option autoImplicit false

namespace ValueShape

namespace Run

/-- An answer, or what stands for none. -/
def answered (v : Option Value) : Value := v.getD .unanswered

/-! ## Objects -/

/-- Refuses to fill an object that nothing fills, unless the class makes something of the
arguments. -/
def refuseFilling (c : MemberCall) : Run Value := do
  let h ← heap
  let refusal := fun (name : String) =>
    throw (.badArguments (name ++ "." ++ Method.initialisation.name ++
      "() takes exactly one argument (the instance to initialize)"))
  if c.arguments.isEmpty then return .null
  if (h.slot? .initialisation c.self).isSome then refusal Kind.object.name
  else if (h.slot? .creation c.self).isNone then
    refusal (Failure.briefly (h.qualifiedTypeName c.self))
  else return .null

/-- The plain form of an object, for which a text may say how it is to be formed. -/
def formatObject (v how : Value) : Run Value := do
  let h ← heap
  match how.text? with
  | some "" => plainForm v
  | some _ =>
    throw (.badType ("unsupported format string passed to " ++
      Failure.briefly (h.qualifiedTypeName v) ++ "." ++ Method.format.name))
  | none =>
    throw (.badType (Method.format.name ++ "() argument must be str, not " ++
      (if how.identical .null then "None" else Failure.mostBriefly (h.qualifiedTypeName how))))

/-- The attributes of an object, as a mapping of their own; nothing if there are none. -/
def stateOfObject (v : Value) : Run Value := do
  let h ← heap
  let own := (h.ownAttributes v).filter fun a => !h.isStoredApart v a.1
  if own.isEmpty then return .null
  newDict (.kind .dict) (own.map fun a => (.keptText a.1, a.2))

/-- Carries out a method that every object has. -/
def callOfObject (c : MemberCall) : Run Value := do
  match Method.ofName? c.name, c.arguments with
  | some .writing, _ => do ownText (String.ofList (← writeContents c.self))
  | some .plainForm, _ => write c.self
  | some .format, [how] => formatObject c.self how
  | some .hash, _ => newInt c.self.identityHash.toInt
  | some .equality, [w] => return if c.self.identical w then .bool true else .unanswered
  | some .inequality, [w] => do return answered (← contrary (answer c.self w))
  | some .setAttribute, [name, value] =>
    changing do assignAttribute c.self name (← attributeText name) value
  | some .deleteAttribute, [name] =>
    changing do unassignAttribute c.self name (← attributeText name)
  | some .readAttribute, [name] => do
    let name ← attributeText name
    readFound readAttribute c.self name ((← heap).find? c.self name)
  | some .initialisation, _ => refuseFilling c
  | some .less, _ | some .greater, _ | some .atMost, _ | some .atLeast, _ => return .unanswered
  | _, _ =>
    match c.name with
    | "__getstate__" => stateOfObject c.self
    | "__sizeof__" => newInt 16
    | _ => return .null

/-! ## Classes -/

/-- The class that a value is, if it is one. -/
def requireClass (v : Value) : Run Class := do
  match v with
  | .ofClass c => return c
  | _ => throw (.badType "issubclass() arg 1 must be a class")

/-- Carries out a method of classes. -/
def callOfClass (c : MemberCall) (cls : Class) : Run Value := do
  let h ← heap
  match c.name, c.arguments with
  | "mro", _ => list ((h.lineage cls).map .ofClass)
  | "__subclasses__", _ =>
    let declared := (List.range h.declarations.size).map Class.declared
    let known := Kind.all.map Class.kind ++ declared
    list ((known.filter fun d => (basesOf h d).contains cls).map .ofClass)
  | "__instancecheck__", [x] => do return .bool (← isInstance x cls)
  | "__subclasscheck__", [x] => do return .bool (h.derives (← requireClass x) cls)
  | "__repr__", _ => do ownText (String.ofList (← nativeForm c.self))
  | _, _ => return .null

/-! ## Functions -/

/-- A function, as it is read through an object, or through the class alone. -/
def boundTo (fn : Value) (args : List Value) : Run Value := do
  match args with
  | [.null] | [.null, .null] => throw (.badType "__get__(None, None) is invalid")
  | .null :: _ => return fn
  | object :: _ => return .method (← fresh) fn object
  | [] => return fn

/-- What a member of a class tells about an object. -/
def memberOf (v : Value) (args : List Value) : Run Value := do
  match v, args with
  | .field .., [.null] | .field .., [.null, .null] =>
    throw (.badType "__get__(None, None) is invalid")
  | .field .., .null :: _ => return v
  | .field owner name, object :: _ => readPart readAttribute object owner name
  | _, _ => return v

/-- Carries out a method of functions and of members of classes. -/
def callOfFunction (c : MemberCall) : Run Value := do
  match c.owner, c.name with
  | .function, "__get__" => boundTo c.self c.arguments
  | .generic, "__mro_entries__" =>
    match c.self with
    | .generic _ _ origin _ => tuple [.ofClass origin]
    | _ => return .null
  | .generic, "__instancecheck__" =>
    throw (.badType "isinstance() argument 2 cannot be a parameterized generic")
  | .generic, "__subclasscheck__" =>
    throw (.badType "issubclass() argument 2 cannot be a parameterized generic")
  | _, "__get__" => memberOf c.self c.arguments
  | _, _ => return .null

/-! ## Failures -/

/-- The name of the attribute that holds what was added to a failure. -/
def notesAttribute : String := "__notes__"

/-- Adds a note to a failure. -/
def addNote (v note : Value) : Run Unit := do
  if note.text?.isNone then
    throw (.badType ("note must be a str, not '" ++
      Failure.briefly ((← heap).qualifiedTypeName note) ++ "'"))
  match ← attribute? v notesAttribute with
  | some notes => discard (append notes note)
  | none => do
    let notes ← list [note]
    discard (setAttribute v (.keptText notesAttribute) notes)

/-- Carries out a method of failures. -/
def callOfFailure (c : MemberCall) : Run Value := do
  match c.name, c.arguments with
  | "add_note", [note] => changing (addNote c.self note)
  | "with_traceback", [.null] => return c.self
  | "with_traceback", _ => throw (.badType "__traceback__ must be a traceback or None")
  | _, _ => return .null

end Run

end ValueShape
