import ValueShape.Ask.Verdict
import ValueShape.Build.Choice
import ValueShape.Build.Custom
import ValueShape.Build.Derived
import ValueShape.Build.Sequence
import ValueShape.Creation

/-!
# Operations

`Operation.apply` calls an operation with arguments.

* `Arguments` are the arguments of a call, by position and by name.  A parameter takes the argument
  at its position, or else the one under its name.
* A `Signature` tells which parameters a function has; `Signature.misfit?` is what is wrong with a
  call that leaves out too many arguments or has too many of them.
* `Operation.toValue` is an operation as a value.
* `constant?` finds the constants that a caller can name: the names that combinators and modifiers
  go by in metadata, messages and log events, and the limits that names are rendered with.
-/

set_option autoImplicit false

namespace ValueShape

/-! ## Arguments -/

/-- The arguments of a call. -/
structure Arguments where
  /-- The arguments by position. -/
  positional : List Value
  /-- The arguments by name. -/
  named : List (String × Value)

namespace Arguments

/-- The argument given under a name. -/
def named? (a : Arguments) (parameter : String) : Option Value :=
  (a.named.find? fun n => n.1 == parameter).map (·.2)

/-- The argument given at a position or under a name. -/
def at? (a : Arguments) (position : Nat) (parameter : String) : Option Value :=
  (a.positional[position]?).or (a.named? parameter)

/-- The argument of a parameter, which defaults to null. -/
def get (a : Arguments) (position : Nat) (parameter : String) : Value :=
  (a.at? position parameter).getD .null

/-- The argument of a parameter that may be left out or null. -/
def optional? (a : Arguments) (position : Nat) (parameter : String) : Option Value :=
  (a.at? position parameter).filter fun v => !v.identical .null

end Arguments

/-! ## Signatures

A call is matched with the signature before the operation begins.  So wrong arguments are refused in
the same way by all of them. -/

/-- The parameters that a function takes by position. -/
structure Signature where
  /-- The names of the parameters that have to be given. -/
  required : List String
  /-- The names of those that may be left out. -/
  optional : List String

namespace Signature

/-- The signature of a function of one argument. -/
def unary (parameter : String) : Signature := ⟨[parameter], []⟩

/-- Names between quotes, as an enumeration. -/
def enumerate (names : List String) : String :=
  let quoted := names.map fun name => "'" ++ name ++ "'"
  match quoted with
  | [a, b] => a ++ " and " ++ b
  | quoted =>
    match quoted.getLast? with
    | some last =>
      if quoted.length ≤ 1 then last else ", ".intercalate quoted.dropLast ++ ", and " ++ last
    | none => ""

/-- A number of things. -/
def countOf (n : Nat) (what : String) : String :=
  n.repr ++ " " ++ what ++ (if n == 1 then "" else "s")

/-- What is wrong with a call, in the words that follow the name of the function. -/
def misfit? (s : Signature) (a : Arguments) : Option String :=
  let given := a.positional.length
  let most := s.required.length + s.optional.length
  let missing := (s.required.drop given).filter fun parameter => (a.named? parameter).isNone
  if most < given then
    let range := if s.optional.isEmpty then countOf most "positional argument"
      else "from " ++ s.required.length.repr ++ " to " ++ countOf most "positional argument"
    some ("() takes " ++ range ++ " but " ++ given.repr ++
      (if given == 1 then " was" else " were") ++ " given")
  else if missing.isEmpty then none
  else some ("() missing " ++ countOf missing.length "required positional argument" ++ ": " ++
    enumerate missing)

end Signature

/-! ## Calls -/

namespace Operation

/-- The parameters of an operation. -/
def signature : Operation → Signature
  | tupleOf | readonlyTupleOf | parametersOf => ⟨["preds"], ["rest"]⟩
  | uniformTupleOf | readonlyUniformTupleOf => ⟨["n"], ["pred"]⟩
  | objectOf => .unary "descriptor"
  | oneOf | allOf => .unary "preds"
  | literalOf => .unary "value"
  | literalOneOf => .unary "values"
  | instanceOf => .unary "cls"
  | pickOf | omitOf => ⟨["pred", "keys"], []⟩
  | attachMetadata => ⟨["pred", "metadata"], []⟩
  | isProductOf => ⟨["pred", "factory"], []⟩
  | newMetadata => ⟨["name"], ["args"]⟩
  | newOptions => ⟨[], ["threshold", "max_depth"]⟩
  | newUndefined => ⟨[], []⟩
  | newPredicate => .unary "check"
  | inspect => ⟨["value"], ["options"]⟩
  | requireCallable => ⟨["factory", "value"], ["label"]⟩
  | requireCallables => ⟨["factory", "values"], ["label"]⟩
  | customProduct => ⟨["factory", "args", "check"], []⟩
  | demand | ensure | maybe => ⟨["x", "pred"], []⟩
  | _ => .unary "pred"

/-- What an operation does with arguments that suit it. -/
def perform (o : Operation) (a : Arguments) : Run Value :=
  match o with
  | arrayOf => Build.array pred
  | tupleOf => Build.tuple .plain preds rest
  | readonlyTupleOf => Build.tuple .readonly preds rest
  | uniformTupleOf => Build.uniformTuple .plain (a.get 0 "n") item
  | readonlyUniformTupleOf => Build.uniformTuple .readonly (a.get 0 "n") item
  | recordOf => Build.record pred
  | objectOf => Build.object (a.get 0 "descriptor") (flag "strict")
  | parametersOf => Build.parameters preds rest
  | oneOf => Build.oneOf preds
  | allOf => Build.allOf preds
  | literalOf => Build.literal (a.get 0 "value")
  | literalOneOf => Build.literals (a.get 0 "values")
  | instanceOf => Build.instanceOf (a.get 0 "cls")
  | partialOf => Build.partialObject pred
  | requiredOf => Build.requiredObject pred
  | pickOf => Build.pickFields pred (a.get 1 "keys")
  | omitOf => Build.omitFields pred (a.get 1 "keys")
  | strictOf => Build.strictObject pred
  | makeOptional => Build.optional pred
  | makeRequired => Build.required pred
  | makeReadonly => Build.readonly pred
  | isOptional => Build.isOptional pred
  | isReadonly => Build.isReadonly pred
  | attachMetadata => Build.attachValue pred (a.get 1 "metadata")
  | metadataOf => do return (← Run.metadata? pred).getD .null
  | hasMetadata => do return .bool (← Run.metadata? pred).isSome
  | isProductOf => Run.isProductOf pred (a.get 1 "factory")
  | newPredicate => do
    match a.named? "name" with
    | some name => Build.custom (a.get 0 "check") name (flag "optional") (flag "readonly")
    | none => throw (.misfilled .predicate 1)
  | newMetadata =>
    Run.newMetadata (.kind .metadata) (a.get 0 "name")
      ((a.at? 1 "args").getD (.tuple (.kind .tuple) 0 []))
  | newOptions =>
    Run.newOptions (.kind .options) ((a.at? 0 "threshold").getD (.int defaultThreshold))
      ((a.at? 1 "max_depth").getD (.int defaultMaxDepth))
  | newUndefined => Run.callClass (.kind .undefined) []
  | inspect => Run.inspect (a.get 0 "value") (a.get 1 "options")
  | displayName => do Run.identified (← Run.displayName pred)
  | requireCallable =>
    Build.requireFor factory (a.get 1 "value") ((a.at? 2 "label").getD (.keptText "pred"))
  | requireCallables =>
    Build.requireAllFor factory (a.get 1 "values") ((a.at? 2 "label").getD (.keptText "preds"))
  | customProduct =>
    Build.customProduct factory (a.get 1 "args") (a.get 2 "check") ((a.named? "name").getD .null)
      (flag "optional") (flag "readonly")
  | demand => Ask.demand (a.get 0 "x") (a.get 1 "pred") ((a.named? "message").getD .null)
  | ensure => Ask.ensure (a.get 0 "x") (a.get 1 "pred") ((a.named? "message").getD .null)
  | maybe => Ask.maybe (a.get 0 "x") (a.get 1 "pred")
where
  /-- The predicate that most operations are about. -/
  pred : Value := a.get 0 "pred"
  /-- The predicates that a combinator is about. -/
  preds : Value := a.get 0 "preds"
  /-- The predicate for what remains of a sequence. -/
  rest : Option Value := a.optional? 1 "rest"
  /-- The predicate for all positions, which defaults to the one that accepts everything. -/
  item : Value := (a.at? 1 "pred").getD (.leaf .any)
  /-- The factory on whose behalf arguments are checked. -/
  factory : Value := a.get 0 "factory"
  /-- An argument that defaults to false. -/
  flag (parameter : String) : Value := (a.named? parameter).getD (.bool false)

/-- Calls an operation. -/
def apply (o : Operation) (a : Arguments) : Run Value :=
  match o.signature.misfit? a with
  | none => o.perform a
  | some problem => throw (.badArguments (o.name ++ problem))

/-- An operation as a value.  Those that make new objects are classes. -/
def toValue : Operation → Value
  | newPredicate => .ofClass (.kind .predicate)
  | newMetadata => .ofClass (.kind .metadata)
  | newOptions => .ofClass (.kind .options)
  | newUndefined => .ofClass (.kind .undefined)
  | o => .operation o

end Operation

/-! ## Named constants -/

/-- The named constants. -/
def constants : List (String × Value) := [
  ("FACTORY_ARRAY_OF", .keptText Operation.arrayOf.name),
  ("FACTORY_TUPLE_OF", .keptText Operation.tupleOf.name),
  ("FACTORY_READONLY_TUPLE_OF", .keptText Operation.readonlyTupleOf.name),
  ("FACTORY_UNIFORM_TUPLE_OF", .keptText Operation.uniformTupleOf.name),
  ("FACTORY_READONLY_UNIFORM_TUPLE_OF", .keptText Operation.readonlyUniformTupleOf.name),
  ("FACTORY_RECORD_OF", .keptText Operation.recordOf.name),
  ("FACTORY_OBJECT_OF", .keptText Operation.objectOf.name),
  ("FACTORY_PARAMETERS_OF", .keptText Operation.parametersOf.name),
  ("FACTORY_ONE_OF", .keptText Operation.oneOf.name),
  ("FACTORY_ALL_OF", .keptText Operation.allOf.name),
  ("FACTORY_LITERAL_OF", .keptText Operation.literalOf.name),
  ("FACTORY_LITERAL_ONE_OF", .keptText Operation.literalOneOf.name),
  ("FACTORY_INSTANCE_OF", .keptText Operation.instanceOf.name),
  ("FACTORY_OPTIONAL", .keptText Modifier.optional.name),
  ("FACTORY_READONLY", .keptText Modifier.readonly.name),
  ("MODIFIER_REQUIRED", .keptText Modifier.required.name),
  ("DEFAULT_INSPECT_THRESHOLD", .int defaultThreshold),
  ("DEFAULT_INSPECT_MAX_DEPTH", .int defaultMaxDepth),
  ("INSPECT_INDENT", .keptText (String.ofList indent))]

/-- The constant with the given name. -/
def constant? (s : String) : Option Value := constants.lookup s

end ValueShape
