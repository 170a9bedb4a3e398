/-!
# The vocabulary of the library

The predicates and operations that a caller can name.

* `Leaf` are the ready-made predicates, which test one value without looking inside it.
* `Operation` is everything else that can be called: the combinators that build predicates, the
  modifiers, the derived object shapes, the metadata functions, rendering and the assertions.
* `Leaf.ofName?` and `Operation.ofName?` find them by name.  Leaves, combinators and modifiers have
  a second name, a short one inside the namespace `is_` or `as_`.
-/

set_option autoImplicit false

namespace ValueShape

/-! ## Leaves -/

/-- The ready-made predicates. -/
inductive Leaf
  | any
  | unknown
  | string
  | number
  | int
  | boolean
  | array
  | record
  | function
  | syncFunction
  | asyncFunction
  | null
  | undefined
  | nullish
  | primitive
deriving DecidableEq, Repr

namespace Leaf

/-- Every leaf. -/
def all : List Leaf :=
  [any, unknown, string, number, int, boolean, array, record, function, syncFunction,
    asyncFunction, null, undefined, nullish, primitive]

/-- The name of a leaf. -/
def name : Leaf → String
  | any => "is_any"
  | unknown => "is_unknown"
  | string => "is_string"
  | number => "is_number"
  | int => "is_int"
  | boolean => "is_boolean"
  | array => "is_array"
  | record => "is_record"
  | function => "is_function"
  | syncFunction => "is_sync_function"
  | asyncFunction => "is_async_function"
  | null => "is_null"
  | undefined => "is_undefined"
  | nullish => "is_nullish"
  | primitive => "is_primitive"

/-- The name of a leaf inside its namespace. -/
def shortName : Leaf → String
  | any => "is_.Any"
  | unknown => "is_.Unknown"
  | string => "is_.String"
  | number => "is_.Number"
  | int => "is_.Int"
  | boolean => "is_.Boolean"
  | array => "is_.Array"
  | record => "is_.Record"
  | function => "is_.Function"
  | syncFunction => "is_.SyncFunction"
  | asyncFunction => "is_.AsyncFunction"
  | null => "is_.Null"
  | undefined => "is_.Undefined"
  | nullish => "is_.Nullish"
  | primitive => "is_.Primitive"

/-- The name of the parameter of a leaf. -/
def parameter : Leaf → String
  | any | unknown => "_x"
  | _ => "x"

/-- The module that leaves belong to. -/
def moduleName : String := "shapeguard.leaves"

/-- The leaf with the given name. -/
def ofName? (s : String) : Option Leaf :=
  all.find? fun l => l.name == s || l.shortName == s

theorem mem_all (l : Leaf) : l ∈ all := by cases l <;> decide

theorem ofName?_name (l : Leaf) : ofName? l.name = some l := by cases l <;> decide

theorem ofName?_shortName (l : Leaf) : ofName? l.shortName = some l := by cases l <;> decide

end Leaf

/-! ## Modifiers -/

/-- The three operations on the facets of a predicate.  Their names stand in metadata, messages and
log events. -/
inductive Modifier
  | optional
  | required
  | readonly
deriving DecidableEq, Repr

/-- The name of a modifier. -/
def Modifier.name : Modifier → String
  | optional => "optional"
  | required => "required"
  | readonly => "readonly"

/-! ## Operations -/

/-- What can be called, apart from leaves. -/
inductive Operation
  | arrayOf
  | tupleOf
  | readonlyTupleOf
  | uniformTupleOf
  | readonlyUniformTupleOf
  | recordOf
  | objectOf
  | parametersOf
  | oneOf
  | allOf
  | literalOf
  | literalOneOf
  | instanceOf
  | partialOf
  | requiredOf
  | pickOf
  | omitOf
  | strictOf
  | makeOptional
  | makeRequired
  | makeReadonly
  | isOptional
  | isReadonly
  | attachMetadata
  | metadataOf
  | hasMetadata
  | isProductOf
  | newPredicate
  | newMetadata
  | newOptions
  | newUndefined
  | inspect
  | displayName
  | requireCallable
  | requireCallables
  | customProduct
  | demand
  | ensure
  | maybe
deriving DecidableEq, Repr

namespace Operation

/-- Every operation. -/
def all : List Operation :=
  [arrayOf, tupleOf, readonlyTupleOf, uniformTupleOf, readonlyUniformTupleOf, recordOf, objectOf,
    parametersOf, oneOf, allOf, literalOf, literalOneOf, instanceOf, partialOf, requiredOf, pickOf,
    omitOf, strictOf, makeOptional, makeRequired, makeReadonly, isOptional, isReadonly,
    attachMetadata, metadataOf, hasMetadata, isProductOf, newPredicate, newMetadata, newOptions,
    newUndefined, inspect, displayName, requireCallable, requireCallables, customProduct, demand,
    ensure, maybe]

/-- The name of an operation.  Combinators and derived shapes also appear under this name in
metadata, messages and log events. -/
def name : Operation → String
  | arrayOf => "array_of"
  | tupleOf => "tuple_of"
  | readonlyTupleOf => "readonly_tuple_of"
  | uniformTupleOf => "uniform_tuple_of"
  | readonlyUniformTupleOf => "readonly_uniform_tuple_of"
  | recordOf => "record_of"
  | objectOf => "object_of"
  | parametersOf => "parameters_of"
  | oneOf => "one_of"
  | allOf => "all_of"
  | literalOf => "literal_of"
  | literalOneOf => "literal_one_of"
  | instanceOf => "instance_of"
  | partialOf => "partial_of"
  | requiredOf => "required_of"
  | pickOf => "pick_of"
  | omitOf => "omit_of"
  | strictOf => "strict_of"
  | makeOptional => "make_optional"
  | makeRequired => "make_required"
  | makeReadonly => "make_readonly"
  | isOptional => "is_optional_predicate"
  | isReadonly => "is_readonly_predicate"
  | attachMetadata => "set_predicate_factory_metadata"
  | metadataOf => "get_predicate_factory_metadata"
  | hasMetadata => "has_predicate_factory_metadata"
  | isProductOf => "is_product_of"
  | newPredicate => "Predicate"
  | newMetadata => "PredicateFactoryMetadata"
  | newOptions => "InspectOptions"
  | newUndefined => "UndefinedType"
  | inspect => "inspect"
  | displayName => "predicate_name"
  | requireCallable => "require_predicate"
  | requireCallables => "require_predicates"
  | customProduct => "build_predicate"
  | demand => "assert_type"
  | ensure => "ensure"
  | maybe => "maybe"

/-- The name of a combinator, a derived shape or a modifier inside its namespace. -/
def shortName? : Operation → Option String
  | arrayOf => some "is_.ArrayOf"
  | tupleOf => some "is_.TupleOf"
  | readonlyTupleOf => some "is_.ReadonlyTupleOf"
  | uniformTupleOf => some "is_.UniformTupleOf"
  | readonlyUniformTupleOf => some "is_.ReadonlyUniformTupleOf"
  | recordOf => some "is_.RecordOf"
  | objectOf => some "is_.ObjectOf"
  | parametersOf => some "is_.ParametersOf"
  | oneOf => some "is_.OneOf"
  | allOf => some "is_.AllOf"
  | literalOf => some "is_.LiteralOf"
  | literalOneOf => some "is_.LiteralOneOf"
  | instanceOf => some "is_.InstanceOf"
  | partialOf => some "is_.PartialOf"
  | requiredOf => some "is_.RequiredOf"
  | pickOf => some "is_.PickOf"
  | omitOf => some "is_.OmitOf"
  | strictOf => some "is_.StrictOf"
  | makeOptional => some "as_.Optional"
  | makeRequired => some "as_.Required"
  | makeReadonly => some "as_.Readonly"
  | _ => none

/-- The module that an operation belongs to. -/
def moduleName : Operation → String
  | makeOptional | makeRequired | makeReadonly | isOptional | isReadonly => "shapeguard.modifiers"
  | attachMetadata | metadataOf | hasMetadata | isProductOf | newMetadata => "shapeguard.metadata"
  | newOptions | inspect => "shapeguard.formatting"
  | newPredicate | newUndefined | displayName => "shapeguard.types"
  | requireCallable | requireCallables | customProduct => "shapeguard.factory"
  | demand | ensure | maybe => "shapeguard.assertions"
  | _ => "shapeguard.combinators"

/-- The operation with the given name. -/
def ofName? (s : String) : Option Operation :=
  all.find? fun o => o.name == s || o.shortName? == some s

theorem mem_all (o : Operation) : o ∈ all := by cases o <;> decide

theorem ofName?_name (o : Operation) : ofName? o.name = some o := by cases o <;> decide

end Operation

end ValueShape
