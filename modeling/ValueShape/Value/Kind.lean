/-!
# Built-in kinds

Every value belongs to a class, and the classes that exist without being declared are the *kinds*.
A `Class` is a kind, or a declared class, which is known by its place in a heap.

* `Kind.name` is the name a kind is shown with, `Kind.qualifiedName` the longer one that messages
  about an operation on a value use, and `Kind.writtenName` the one that stands in the written form
  of the class, with the module that the class belongs to.
* `Kind.ofName?` finds a kind by its name.
* `Kind.lineage` are the kinds that a kind is derived from.
* `Kind.isA` is the subkind relation.  It includes the abstract kinds: a kind may be a `mapping`, a
  `sequence` or a `setLike` without being derived from it.
* The other properties say what the classes of a kind and its objects support.  Which methods a kind
  has is told by `Kind.provides`, in the module on methods.
-/

set_option autoImplicit false

namespace ValueShape

/-- What a mapping is read for. -/
inductive Part
  /-- Its keys. -/
  | keys
  /-- Its values. -/
  | values
  /-- Its entries, as pairs. -/
  | items
deriving DecidableEq, Repr

/-- The ways of going through a value, each of which has iterators of a kind of its own. -/
inductive Traversal
  | list
  | listBack
  | tuple
  | text
  | asciiText
  | bytes
  | buffer
  /-- Through a part of a mapping. -/
  | entries (part : Part)
  /-- Through a part of a mapping, from the end. -/
  | entriesBack (part : Part)
  /-- Through any part of a mapping that keeps an order, in either direction. -/
  | ordered
  | set
  | queue
  | queueBack
  | range
  /-- Through a range with an integer that has more than 64 bits. -/
  | longRange
  | generic
  /-- In the course of a computation. -/
  | generator
deriving DecidableEq, Repr

/-- The classes that exist without being declared. -/
inductive Kind
  | object
  | kind
  | abstractKind
  | null
  | undefined
  | bool
  | int
  | float
  | complex
  | text
  | bytes
  | buffer
  | list
  | tuple
  | dict
  | orderedDict
  | view
  /-- A part of a mapping, shown as a collection.  Mappings that keep an order have kinds of their
  own for that. -/
  | listing (part : Part) (ordered : Bool)
  | set
  | frozenSet
  | queue
  | range
  | slice
  /-- An iterator. -/
  | iterator (way : Traversal)
  | ellipsis
  | function
  | builtin
  | method
  | memberField
  | computedField
  | bound
  | generic
  | parameterized
  | coroutine
  | sized
  | iterable
  | container
  | collection
  | reversible
  | mapping
  | sequence
  | setLike
  | predicate
  | metadata
  | options
  | constructionError
  | assertError
  | foreign
  | point
  | callable
  | unreferable
  | unhashable
  | keyed
  | derivedText
  | derivedInt
  | derivedFloat
  | derivedBytes
  | derivedList
  | derivedTuple
  | derivedDict
  | code
  | notImplemented
  | methodDescriptor
  | wrapperDescriptor
  | classDescriptor
  | partDescriptor
  | boundWrapper
deriving DecidableEq, Repr

namespace Part

/-- Every part of a mapping. -/
def all : List Part := [keys, values, items]

/-- The name of the method through which a part of a mapping is read. -/
def name : Part → String
  | keys => "keys"
  | values => "values"
  | items => "items"

/-- The name of one of the parts. -/
def singularName : Part → String
  | keys => "key"
  | values => "value"
  | items => "item"

end Part

namespace Traversal

/-- Every way of going through a value. -/
def all : List Traversal :=
  [list, listBack, tuple, text, asciiText, bytes, buffer, ordered, set, queue, queueBack, range,
    longRange, generic, generator] ++ Part.all.map entries ++ Part.all.map entriesBack

/-- The name of the kind of an iterator. -/
def name : Traversal → String
  | list => "list_iterator"
  | listBack => "list_reverseiterator"
  | tuple => "tuple_iterator"
  | text => "str_iterator"
  | asciiText => "str_ascii_iterator"
  | bytes => "bytes_iterator"
  | buffer => "bytearray_iterator"
  | entries part => "dict_" ++ part.singularName ++ "iterator"
  | entriesBack part => "dict_reverse" ++ part.singularName ++ "iterator"
  | ordered => "odict_iterator"
  | set => "set_iterator"
  | queue => "_deque_iterator"
  | queueBack => "_deque_reverse_iterator"
  | range => "range_iterator"
  | longRange => "longrange_iterator"
  | generic => "generic_alias_iterator"
  | generator => "generator"

end Traversal

namespace Kind

/-- The name a kind is shown with. -/
def name : Kind → String
  | object => "object"
  | kind => "type"
  | abstractKind => "ABCMeta"
  | null => "NoneType"
  | undefined => "UndefinedType"
  | bool => "bool"
  | int => "int"
  | float => "float"
  | complex => "complex"
  | text => "str"
  | bytes => "bytes"
  | buffer => "bytearray"
  | list => "list"
  | tuple => "tuple"
  | dict => "dict"
  | orderedDict => "OrderedDict"
  | view => "mappingproxy"
  | listing part ordered => (if ordered then "odict_" else "dict_") ++ part.name
  | set => "set"
  | frozenSet => "frozenset"
  | queue => "deque"
  | range => "range"
  | slice => "slice"
  | iterator way => way.name
  | ellipsis => "ellipsis"
  | function => "function"
  | builtin => "builtin_function_or_method"
  | method => "method"
  | memberField => "member_descriptor"
  | computedField => "property"
  | bound => "partial"
  | generic => "GenericAlias"
  | parameterized => "_GenericAlias"
  | coroutine => "coroutine"
  | sized => "Sized"
  | iterable => "Iterable"
  | container => "Container"
  | collection => "Collection"
  | reversible => "Reversible"
  | mapping => "Mapping"
  | sequence => "Sequence"
  | setLike => "Set"
  | predicate => "Predicate"
  | metadata => "PredicateFactoryMetadata"
  | options => "InspectOptions"
  | constructionError => "PredicateConstructionError"
  | assertError => "AssertError"
  | foreign => "Foreign"
  | point => "Point"
  | callable => "CallableObj"
  | unreferable => "NoWeakref"
  | unhashable => "Unhashable"
  | keyed => "EqCallable"
  | derivedText => "SubStr"
  | derivedInt => "SubInt"
  | derivedFloat => "SubFloat"
  | derivedBytes => "SubBytes"
  | derivedList => "SubList"
  | derivedTuple => "SubTuple"
  | derivedDict => "SubDict"
  | code => "code"
  | notImplemented => "NotImplementedType"
  | methodDescriptor => "method_descriptor"
  | wrapperDescriptor => "wrapper_descriptor"
  | classDescriptor => "classmethod_descriptor"
  | partDescriptor => "getset_descriptor"
  | boundWrapper => "method-wrapper"

/-- Whether the class of a kind is made where its name is not found. -/
def isLocal : Kind → Bool
  | derivedText | derivedInt | derivedFloat | derivedBytes | derivedList | derivedTuple
  | derivedDict => true
  | _ => false

/-- Whether a kind belongs to the surrounding program, and not to the library or to what both are
built on. -/
def isHosted : Kind → Bool
  | foreign | point | callable | unreferable | unhashable | keyed => true
  | k => k.isLocal

/-- A name inside a module; the built-in names have none. -/
def inModule (moduleName name : String) : String :=
  if moduleName.isEmpty then name else moduleName ++ "." ++ name

/-- The module that the classes of the surrounding program belong to. -/
def hostModule : String := "__main__"

/-- The module that the class of a kind belongs to; empty for the built-in ones. -/
def moduleName : Kind → String
  | undefined | predicate => "shapeguard.types"
  | metadata => "shapeguard.metadata"
  | options => "shapeguard.formatting"
  | constructionError | assertError => "shapeguard.errors"
  | abstractKind => "abc"
  | orderedDict | queue => "collections"
  | iterator .queue | iterator .queueBack => "_collections"
  | bound => "functools"
  | generic => "types"
  | parameterized => "typing"
  | sized | iterable | container | collection | reversible | mapping | sequence | setLike =>
    "collections.abc"
  | k => if k.isHosted then hostModule else ""

/-- The name of a kind in messages about an operation that its values do not support. -/
def qualifiedName : Kind → String
  | k@(.orderedDict) | k@(.queue) | k@(.iterator _) | k@(.bound) | k@(.generic) =>
    inModule k.moduleName k.name
  | k => k.name

/-- The name of a kind in the written form of the class itself. -/
def writtenName (k : Kind) : String := inModule k.moduleName k.name

/-- The kinds of the parts of mappings. -/
def listings : List Kind := Part.all.flatMap fun part => [listing part false, listing part true]

/-- Every kind. -/
def all : List Kind :=
  [object, kind, abstractKind, null, undefined, bool, int, float, complex, text, bytes, buffer,
    list, tuple, dict, orderedDict, view, set, frozenSet, queue, range, slice, ellipsis, function,
    builtin, method, memberField, computedField, bound, generic, parameterized, coroutine, sized, iterable, container, collection, reversible, mapping, sequence, setLike,
    predicate, metadata, options, constructionError, assertError, foreign, point, callable,
    unreferable, unhashable, keyed, derivedText, derivedInt, derivedFloat, derivedBytes,
    derivedList, derivedTuple, derivedDict, code, notImplemented, methodDescriptor,
    wrapperDescriptor, classDescriptor, partDescriptor, boundWrapper] ++
    listings ++ Traversal.all.map iterator

/-- The kind with the given name. -/
def ofName? (s : String) : Option Kind := all.find? fun k => k.name == s

/-! ## Derivation

The built-in mappings and sequences belong to abstract kinds without being derived from them, so to
belong to a kind is more than to be derived from it. -/

/-- The kinds that a kind is derived from, nearest first, apart from `object`. -/
def bases : Kind → List Kind
  | bool | derivedInt => [int]
  | derivedFloat => [float]
  | derivedText => [text]
  | derivedBytes => [bytes]
  | derivedList => [list]
  | derivedTuple => [tuple]
  | derivedDict | orderedDict => [dict]
  | listing part true => [listing part false]
  | abstractKind => [kind]
  | reversible => [iterable]
  | collection => [sized, iterable, container]
  | mapping | setLike => [collection, sized, iterable, container]
  | sequence => [reversible, collection, sized, iterable, container]
  | foreign => [mapping, collection, sized, iterable, container]
  | _ => []

/-- The kinds that the class of a kind names as its bases. -/
def directBases : Kind → List Kind
  | object => []
  | collection => [sized, iterable, container]
  | mapping | setLike => [collection]
  | sequence => [reversible, collection]
  | foreign => [mapping]
  | k => if k.bases.isEmpty then [object] else k.bases

/-- A kind and the kinds that it is derived from, nearest first. -/
def lineage (k : Kind) : List Kind :=
  if k = object then [object] else k :: k.bases ++ [object]

/-- The abstract kind that a kind belongs to without being derived from it. -/
def abstraction? : Kind → Option Kind
  | text | bytes | buffer | list | tuple | range | queue => some sequence
  | dict | view => some mapping
  | set | frozenSet | listing .keys false | listing .items false => some setLike
  | _ => none

/-- The subkind relation. -/
def isA (k above : Kind) : Bool :=
  k.lineage.any fun b => b == above || b.abstraction? == some above

/-! ## Properties of classes -/

/-- The kinds whose methods are only there to be replaced. -/
def isAbstract : Kind → Bool
  | sized | iterable | container | collection | reversible | mapping | sequence | setLike => true
  | _ => false

/-- The kinds whose classes are themselves of the abstract kind. -/
def hasAbstractClass (k : Kind) : Bool := k.isAbstract || k == foreign

/-- The kinds that no class can be derived from. -/
def isFinal : Kind → Bool
  | null | bool | view | listing .. | range | slice | iterator _ | ellipsis | function | builtin | method
  | memberField | coroutine | code | notImplemented | methodDescriptor | wrapperDescriptor
  | classDescriptor | partDescriptor | boundWrapper => true
  | _ => false

/-- The kinds whose classes take new attributes, and whose objects may change to another class. -/
def isOpenClass : Kind → Bool
  | abstractKind | undefined | predicate | metadata | options | constructionError | assertError
  | foreign | point | callable | unreferable | unhashable | keyed | derivedText | derivedInt
  | derivedFloat | derivedBytes | derivedList | derivedTuple | derivedDict | parameterized => true
  | k => k.isAbstract

/-- The kinds whose classes can be given parameters. -/
def isGeneric : Kind → Bool
  | kind | list | tuple | dict | orderedDict | set | frozenSet | queue | view | bound | mapping
  | sequence | setLike | foreign | predicate | derivedList | derivedTuple | derivedDict => true
  | _ => false

/-- The kinds whose objects have contents of their own.  A class derived from one of them makes
objects with such contents, and a class can be derived from two of them only if one is derived from
the other. -/
def hasContents : Kind → Bool
  | kind | int | float | complex | text | bytes | buffer | list | tuple | dict | orderedDict | set
  | frozenSet | queue | computedField | bound | generic | predicate | metadata | options
  | constructionError | assertError => true
  | k => k.isFinal

/-! ## Properties of objects -/

/-- The kinds whose objects accept everything when they are called. -/
def isAccepting : Kind → Bool
  | callable | unreferable | unhashable | keyed => true
  | _ => false

/-- The kinds whose objects take new attributes. -/
def isOpen : Kind → Bool
  | function | bound | orderedDict | constructionError | assertError | foreign | point | callable | unhashable | keyed | derivedText
  | derivedInt | derivedFloat | derivedBytes | derivedList | derivedTuple | derivedDict => true
  | _ => false

/-- The kinds whose objects can be referred to without being kept alive. -/
def isReferable : Kind → Bool
  | kind | abstractKind | function | builtin | method | code | bound | generic | parameterized
  | coroutine | iterator .generator | predicate | frozenSet | set | queue | orderedDict
  | constructionError | assertError | foreign | point | callable | unhashable | keyed | derivedText | derivedFloat | derivedList | derivedDict => true
  | _ => false

/-- The kinds with objects of varying size, which leave no room for anything else in the objects of
a derived class. -/
def isVariable : Kind → Bool
  | int | bytes | tuple => true
  | _ => false

/-! ## Laws -/

theorem mem_all (k : Kind) : k ∈ all := by
  cases k with
  | listing part ordered => cases part <;> cases ordered <;> decide
  | iterator way =>
    cases way with
    | entries part | entriesBack part => cases part <;> decide
    | _ => decide
  | _ => decide

theorem mem_lineage (k : Kind) : k ∈ k.lineage := by
  unfold lineage
  split <;> simp_all

theorem object_mem_lineage (k : Kind) : object ∈ k.lineage := by
  unfold lineage
  split <;> simp_all

theorem isA_refl (k : Kind) : k.isA k = true :=
  List.any_eq_true.mpr ⟨k, mem_lineage k, by simp⟩

theorem isA_object (k : Kind) : k.isA .object = true :=
  List.any_eq_true.mpr ⟨object, object_mem_lineage k, by simp⟩

end Kind

/-! ## Classes -/

/-- A class. -/
inductive Class
  /-- A class that exists without being declared. -/
  | kind (k : Kind)
  /-- A declared class, by its place among the declarations of a heap. -/
  | declared (place : Nat)
deriving DecidableEq, Repr

end ValueShape
