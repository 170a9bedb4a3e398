import ValueShape.Value.Kind

/-!
# Methods

What the values of a kind do by themselves.

* A `Method` has a name, `Method.name`, under which a class can be given another one in its place.
* `Kind.provides` tells which methods a kind has of its own.  A class may be derived from several
  kinds; for each method, the nearest class in its lineage that has it decides.
* The methods of an abstract kind work on nothing: a collection that has its methods from there is
  empty, and its parts are missing.  Only the ways of reading a mapping, and equality, are complete.
* A kind may have a method that refuses to work: `Kind.isHashable` tells whose values have a hash.
-/

set_option autoImplicit false

namespace ValueShape

/-- The methods that tell kinds apart. -/
inductive Method
  /-- The number of elements. -/
  | length
  /-- A guess at the number of elements. -/
  | lengthHint
  /-- What iteration yields. -/
  | iteration
  /-- The next element of an iterator. -/
  | next
  /-- The part under a key or an index. -/
  | item
  /-- The part under a key that is missing. -/
  | missing
  /-- The parameter of a class. -/
  | classItem
  /-- Putting a value under a key. -/
  | setItem
  /-- Adding an element at the end. -/
  | append
  /-- Whether a value occurs. -/
  | membership
  /-- Equality with another value. -/
  | equality
  /-- Inequality with another value. -/
  | inequality
  /-- Being less than another value. -/
  | less
  /-- Being at most another value. -/
  | atMost
  /-- Being greater than another value. -/
  | greater
  /-- Being at least another value. -/
  | atLeast
  /-- What the value is found by as a key. -/
  | hash
  /-- The truth value. -/
  | truth
  /-- The written form. -/
  | writing
  /-- The plain form, without quotes. -/
  | plainForm
  /-- The form inside a longer text. -/
  | format
  /-- The integer that the value is. -/
  | index
  /-- The integer that the value converts to. -/
  | toInt
  /-- The integer part. -/
  | truncation
  /-- The double that the value converts to. -/
  | toFloat
  /-- The complex number that the value converts to. -/
  | toComplex
  /-- The bytes that the value converts to. -/
  | toBytes
  /-- The value under a key of a mapping, or another one if there is none. -/
  | get
  /-- The keys of a mapping. -/
  | keys
  /-- The values of a mapping. -/
  | values
  /-- The entries of a mapping. -/
  | items
  /-- Calling the value. -/
  | call
  /-- Reading an attribute. -/
  | readAttribute
  /-- Reading an attribute that is not there. -/
  | missingAttribute
  /-- Assigning an attribute. -/
  | setAttribute
  /-- Deleting an attribute. -/
  | deleteAttribute
  /-- Making an object. -/
  | creation
  /-- Filling an object that has just been made. -/
  | initialisation
  /-- What a copy is made from. -/
  | reduction
deriving DecidableEq, Repr

namespace Method

/-- The name of a method. -/
def name : Method → String
  | length => "__len__"
  | lengthHint => "__length_hint__"
  | iteration => "__iter__"
  | next => "__next__"
  | item => "__getitem__"
  | missing => "__missing__"
  | classItem => "__class_getitem__"
  | setItem => "__setitem__"
  | append => "append"
  | membership => "__contains__"
  | equality => "__eq__"
  | inequality => "__ne__"
  | less => "__lt__"
  | atMost => "__le__"
  | greater => "__gt__"
  | atLeast => "__ge__"
  | hash => "__hash__"
  | truth => "__bool__"
  | writing => "__repr__"
  | plainForm => "__str__"
  | format => "__format__"
  | index => "__index__"
  | toInt => "__int__"
  | truncation => "__trunc__"
  | toFloat => "__float__"
  | toComplex => "__complex__"
  | toBytes => "__bytes__"
  | get => "get"
  | keys => "keys"
  | values => "values"
  | items => "items"
  | call => "__call__"
  | readAttribute => "__getattribute__"
  | missingAttribute => "__getattr__"
  | setAttribute => "__setattr__"
  | deleteAttribute => "__delattr__"
  | creation => "__new__"
  | initialisation => "__init__"
  | reduction => "__reduce__"

/-- Every method. -/
def all : List Method :=
  [length, lengthHint, iteration, next, item, missing, classItem, setItem, append, membership,
    equality, inequality, less, atMost, greater, atLeast, hash, truth, writing, plainForm, format,
    index, toInt, truncation, toFloat, toComplex, toBytes, get, keys, values, items, call,
    readAttribute, missingAttribute, setAttribute, deleteAttribute, creation, initialisation,
    reduction]

/-- The method with the given name. -/
def ofName? (s : String) : Option Method := all.find? fun m => m.name == s

theorem mem_all (m : Method) : m ∈ all := by cases m <;> decide

end Method

namespace Kind

/-- The kinds of collections that iterate over contents of their own. -/
def isCollection : Kind → Bool
  | text | bytes | buffer | list | tuple | dict | orderedDict | view | listing .. | set | frozenSet
  | queue | range => true
  | _ => false

/-- The kinds of collections with methods of their own for what collections do.  Those that keep an
order go by the methods of the kinds they are derived from. -/
def isBasicCollection : Kind → Bool
  | orderedDict | listing _ true => false
  | k => k.isCollection

/-- The kinds of iterators. -/
def isIterator : Kind → Bool
  | iterator _ => true
  | _ => false

/-- The kinds of numbers. -/
def isNumeric : Kind → Bool
  | int | float | complex => true
  | _ => false

/-- The kinds of collections that are compared with others. -/
def isComparedCollection : Kind → Bool
  | listing .values _ => false
  | orderedDict => true
  | k => k.isBasicCollection

/-- The kinds whose values say how they stand in order to others.  Some of them never know. -/
def isOrdering (k : Kind) : Bool :=
  k.isComparedCollection || k.isNumeric || [builtin, method, slice, generic, setLike].contains k

/-- The kinds whose values are mappings by themselves. -/
def isMapping : Kind → Bool
  | dict | orderedDict | view | mapping | foreign => true
  | _ => false

/-- The kinds of containers that elements can be added to. -/
def canGrow (k : Kind) : Bool := [list, queue, buffer].contains k

/-- Whether a kind has a method of its own. -/
def provides (k : Kind) : Method → Bool
  | .length => k.isBasicCollection || k == sized || k == foreign
  | .iteration =>
    k.isCollection || k.isIterator ||
      [generic, parameterized, iterable, sequence, foreign].contains k
  | .next => k.isIterator
  | .item =>
    [text, bytes, buffer, list, tuple, dict, view, queue, range, generic, parameterized, mapping,
      sequence, foreign].contains k
  | .classItem => k.isGeneric && k != kind
  | .setItem => [list, dict, orderedDict, queue, buffer].contains k
  | .append => k.canGrow
  | .membership =>
    (k.isBasicCollection && k != listing .values false) || [container, mapping, sequence].contains k
  | .equality =>
    k.isComparedCollection || k.isNumeric ||
      [builtin, method, boundWrapper, slice, generic, parameterized, mapping, setLike, metadata,
        options, keyed].contains k
  | .inequality =>
    k.isComparedCollection || k.isNumeric ||
      [builtin, method, boundWrapper, slice, generic].contains k
  | .less | .atMost | .greater | .atLeast => k.isOrdering
  | .hash =>
    k.isComparedCollection || k.isNumeric ||
      [builtin, method, boundWrapper, slice, generic, parameterized, mapping, setLike, metadata,
        options, keyed, unhashable].contains k
  | .truth => k.isNumeric || k == null || k == undefined || k == range
  | .writing =>
    (k.hasContents && !(k.isIterator && k != iterator .generator) && !(k matches listing _ true)) ||
      k == undefined
  | .plainForm => [text, bytes, buffer, view, constructionError, assertError].contains k
  | .index => k == int
  | .toInt | .truncation | .toFloat => k == int || k == float
  | .toComplex => k == complex
  | .toBytes => k == bytes
  | .get => k.isMapping && k != orderedDict
  | .keys | .values | .items => k.isMapping
  | .call =>
    [kind, function, builtin, method, methodDescriptor, wrapperDescriptor, classDescriptor,
        boundWrapper, bound, generic, parameterized, predicate].contains k ||
      k.isAccepting
  | .creation =>
    (k.hasContents && !([predicate, metadata, options].contains k)) || k == undefined
  | .initialisation =>
    [list, dict, orderedDict, set, queue, buffer, kind, predicate, metadata, options,
      constructionError, assertError, foreign, keyed].contains k
  | .reduction =>
    [undefined, set, frozenSet, queue, buffer, orderedDict, range, bound, generic,
        constructionError, assertError].contains k ||
      (k.isIterator && k != iterator .generator)
  | .setAttribute | .deleteAttribute => [predicate, metadata, options].contains k
  | _ => false

/-- The methods that a kind only names, so that it has no objects of its own, in alphabetical
order. -/
def missingMethods : Kind → List Method
  | sized => [.length]
  | iterable | reversible => [.iteration]
  | container => [.membership]
  | collection | setLike => [.membership, .iteration, .length]
  | mapping => [.item, .iteration, .length]
  | sequence => [.item, .length]
  | _ => []

/-- Whether the values of a kind that decides about the hash have one. -/
def isHashable : Kind → Bool
  | buffer | list | dict | orderedDict | view | listing .. | set | queue | slice | mapping | setLike
  | unhashable => false
  | _ => true

end Kind

end ValueShape
