import ValueShape.Value.Method

/-!
# Members

What the classes of the kinds have by themselves, by name.

* A `MemberSort` says what stands in the class: something that becomes a method of the objects, or
  something that tells a part of them.
* `Kind.memberSort?` finds the sort of a member, `MemberSort.descriptorKind` the kind of that which stands
  for it in the class.
-/

set_option autoImplicit false

namespace ValueShape

/-- The sorts of members of a class. -/
inductive MemberSort
  /-- A method. -/
  | method
  /-- A method that an operation on the object is carried out by. -/
  | wrapper
  /-- A function that becomes a method. -/
  | function
  /-- A method of the class itself. -/
  | classMethod
  /-- A function that stays what it is. -/
  | static
  /-- A part of an object that is computed on request. -/
  | computed
  /-- A part that is stored in the object. -/
  | stored
deriving DecidableEq, Repr

namespace MemberSort

/-- Every sort of members. -/
def all : List MemberSort := [method, wrapper, function, classMethod, static, computed, stored]

/-- Whether a member tells a part of the objects, so that it goes before what they hold under the
same name. -/
def isPart : MemberSort → Bool
  | computed | stored => true
  | _ => false

/-- Whether a member is given an object as its first argument when it is called through that
object. -/
def isBinding : MemberSort → Bool
  | method | wrapper | function => true
  | _ => false

/-- The kind of what stands in the class. -/
def descriptorKind : MemberSort → Kind
  | method => .methodDescriptor
  | wrapper => .wrapperDescriptor
  | function => .function
  | classMethod => .classDescriptor
  | static => .builtin
  | computed => .partDescriptor
  | stored => .memberField

/-- The kind of a member of this sort, read through an object. -/
def boundKind : MemberSort → Kind
  | wrapper => .boundWrapper
  | function => .method
  | _ => .builtin

end MemberSort

namespace Kind

/-! ## Names -/

/-- The pieces of a text between blanks, which may be empty. -/
def blankPieces : List Char → List (List Char)
  | [] => [[]]
  | ' ' :: cs => [] :: blankPieces cs
  | c :: cs =>
    match blankPieces cs with
    | [] => [[c]]
    | piece :: pieces => (c :: piece) :: pieces

/-- The words of a text. -/
def words (s : String) : List String :=
  ((blankPieces s.toList).filter fun w => !w.isEmpty).map String.ofList

/-- The names of the comparisons. -/
def comparisons : List String := words "__lt__ __le__ __eq__ __ne__ __gt__ __ge__"

/-- The names of the methods of a kind. -/
def methodNames : Kind → List String
  | .object => words "__reduce_ex__ __reduce__ __getstate__ __format__ __sizeof__ __dir__"
  | .kind => words "mro __subclasses__ __instancecheck__ __subclasscheck__ __dir__ __sizeof__"
  | .int =>
    words ("conjugate bit_length bit_count to_bytes as_integer_ratio __trunc__ __floor__ " ++
      "__ceil__ __round__ __getnewargs__ __format__ __sizeof__")
  | .float =>
    words ("conjugate __trunc__ __floor__ __ceil__ __round__ as_integer_ratio hex " ++
      "is_integer __getnewargs__ __format__")
  | .complex => words "conjugate __complex__ __getnewargs__ __format__"
  | .text =>
    words ("encode replace split rsplit join capitalize casefold title center count " ++
      "expandtabs find partition index ljust lower lstrip rfind rindex rjust rstrip " ++
      "rpartition splitlines strip swapcase translate upper startswith endswith " ++
      "removeprefix removesuffix isascii islower isupper istitle isspace isdecimal " ++
      "isdigit isnumeric isalpha isalnum isidentifier isprintable zfill format " ++
      "format_map __format__ __sizeof__ __getnewargs__")
  | .bytes =>
    words ("__getnewargs__ __bytes__ capitalize center count decode endswith expandtabs " ++
      "find hex index isalnum isalpha isascii isdigit islower isspace istitle isupper " ++
      "join ljust lower lstrip partition replace removeprefix removesuffix rfind " ++
      "rindex rjust rpartition rsplit rstrip split splitlines startswith strip " ++
      "swapcase title translate upper zfill")
  | .buffer =>
    words ("__alloc__ __reduce__ __reduce_ex__ __sizeof__ append capitalize center clear copy count " ++
      "decode endswith expandtabs extend find hex index insert isalnum isalpha " ++
      "isascii isdigit islower isspace istitle isupper join ljust lower lstrip " ++
      "partition pop remove replace removeprefix removesuffix reverse rfind rindex " ++
      "rjust rpartition rsplit rstrip split splitlines startswith strip swapcase " ++
      "title translate upper zfill")
  | .list =>
    words ("__getitem__ __reversed__ __sizeof__ clear copy append insert extend pop remove " ++
      "index count reverse sort")
  | .tuple => words "__getnewargs__ index count"
  | .dict =>
    words ("__getitem__ __contains__ __sizeof__ get setdefault pop popitem keys items " ++
      "values update clear copy __reversed__")
  | .orderedDict =>
    words ("__sizeof__ __reduce__ setdefault pop popitem keys values items update clear " ++
      "copy __reversed__ move_to_end")
  | .view => words "get keys values items copy __reversed__"
  | .listing .keys false | .listing .items false => words "isdisjoint __reversed__"
  | .listing .. => words "__reversed__"
  | .set =>
    words ("__contains__ add clear copy discard difference difference_update intersection " ++
      "intersection_update isdisjoint issubset issuperset pop __reduce__ remove " ++
      "__sizeof__ symmetric_difference symmetric_difference_update union update")
  | .frozenSet =>
    words ("__contains__ copy difference intersection isdisjoint issubset issuperset " ++
      "__reduce__ __sizeof__ symmetric_difference union")
  | .queue =>
    words ("append appendleft clear __copy__ copy count extend extendleft index insert pop " ++
      "popleft __reduce__ remove __reversed__ reverse rotate __sizeof__")
  | .range => words "__reversed__ __reduce__ count index"
  | .slice => words "indices __reduce__"
  | .iterator .generator => words "send throw close __sizeof__"
  | .iterator .ordered | .iterator .generic => words "__reduce__"
  | .iterator (.entries _) | .iterator (.entriesBack _) | .iterator .set | .iterator .queue
  | .iterator .queueBack => words "__length_hint__ __reduce__"
  | .iterator _ => words "__length_hint__ __reduce__ __setstate__"
  | .ellipsis | .builtin | .method | .memberField | .methodDescriptor | .wrapperDescriptor
  | .boundWrapper => words "__reduce__"
  | .computedField => words "getter setter deleter"
  | .bound => words "__reduce__ __setstate__"
  | .generic => words "__mro_entries__ __instancecheck__ __subclasscheck__ __reduce__ __dir__"
  | .coroutine => words "send throw close __sizeof__"
  | .constructionError | .assertError => words "with_traceback add_note"
  | _ => []

/-- The names of the methods that operations on the objects of a kind are carried out by. -/
def wrapperNames : Kind → List String
  | .object =>
    comparisons ++
      words ("__repr__ __hash__ __str__ __getattribute__ __setattr__ " ++
      "__delattr__ __init__")
  | .kind =>
    words ("__repr__ __call__ __getattribute__ __setattr__ __delattr__ __init__ __or__ " ++
      "__ror__")
  | .null => words "__repr__ __bool__"
  | .bool => words "__repr__ __and__ __rand__ __xor__ __rxor__ __or__ __ror__"
  | .int =>
    comparisons ++
      words ("__repr__ __hash__ __getattribute__ __add__ __radd__ __sub__ " ++
      "__rsub__ __mul__ __rmul__ __mod__ __rmod__ __divmod__ " ++
      "__rdivmod__ __pow__ __rpow__ __neg__ __pos__ __abs__ __bool__ " ++
      "__invert__ __lshift__ __rlshift__ __rshift__ __rrshift__ __and__ " ++
      "__rand__ __xor__ __rxor__ __or__ __ror__ __int__ __float__ " ++
      "__floordiv__ __rfloordiv__ __truediv__ __rtruediv__ __index__")
  | .float =>
    comparisons ++
      words ("__repr__ __hash__ __getattribute__ __add__ __radd__ __sub__ " ++
      "__rsub__ __mul__ __rmul__ __mod__ __rmod__ __divmod__ " ++
      "__rdivmod__ __pow__ __rpow__ __neg__ __pos__ __abs__ __bool__ " ++
      "__int__ __float__ __floordiv__ __rfloordiv__ __truediv__ " ++
      "__rtruediv__")
  | .complex =>
    comparisons ++
      words ("__repr__ __hash__ __getattribute__ __add__ __radd__ __sub__ " ++
      "__rsub__ __mul__ __rmul__ __pow__ __rpow__ __neg__ __pos__ " ++
      "__abs__ __bool__ __truediv__ __rtruediv__")
  | .text | .bytes =>
    comparisons ++
      words ("__repr__ __hash__ __str__ __getattribute__ __iter__ __mod__ " ++
      "__rmod__ __len__ __getitem__ __add__ __mul__ __rmul__ " ++
      "__contains__")
  | .buffer =>
    comparisons ++
      words ("__repr__ __str__ __getattribute__ __iter__ __init__ __mod__ " ++
      "__rmod__ __len__ __getitem__ __setitem__ __delitem__ __add__ " ++
      "__mul__ __rmul__ __contains__ __iadd__ __imul__")
  | .list =>
    comparisons ++
      words ("__repr__ __getattribute__ __iter__ __init__ __len__ __setitem__ " ++
      "__delitem__ __add__ __mul__ __rmul__ __contains__ __iadd__ " ++
      "__imul__")
  | .tuple =>
    comparisons ++
      words ("__repr__ __hash__ __getattribute__ __iter__ __len__ __getitem__ " ++
      "__add__ __mul__ __rmul__ __contains__")
  | .dict =>
    comparisons ++
      words ("__repr__ __getattribute__ __iter__ __init__ __or__ __ror__ " ++
      "__ior__ __len__ __setitem__ __delitem__")
  | .orderedDict =>
    comparisons ++
      words ("__repr__ __iter__ __init__ __or__ __ror__ __ior__ __setitem__ " ++
      "__delitem__")
  | .view =>
    comparisons ++
      words ("__repr__ __str__ __getattribute__ __iter__ __or__ __ror__ " ++
      "__ior__ __len__ __getitem__ __contains__")
  | .listing _ true => words "__iter__"
  | .listing .values false => words "__repr__ __getattribute__ __iter__ __len__"
  | .listing _ false =>
    comparisons ++
      words ("__repr__ __getattribute__ __iter__ __sub__ __rsub__ __and__ " ++
      "__rand__ __xor__ __rxor__ __or__ __ror__ __len__ __contains__")
  | .set =>
    comparisons ++
      words ("__repr__ __getattribute__ __iter__ __init__ __sub__ __rsub__ " ++
      "__and__ __rand__ __xor__ __rxor__ __or__ __ror__ __isub__ " ++
      "__iand__ __ixor__ __ior__ __len__")
  | .frozenSet =>
    comparisons ++
      words ("__repr__ __hash__ __getattribute__ __iter__ __sub__ __rsub__ " ++
      "__and__ __rand__ __xor__ __rxor__ __or__ __ror__ __len__")
  | .queue =>
    comparisons ++
      words ("__repr__ __getattribute__ __iter__ __init__ __len__ __add__ " ++
      "__mul__ __rmul__ __getitem__ __setitem__ __delitem__ " ++
      "__contains__ __iadd__ __imul__")
  | .range =>
    comparisons ++
      words ("__repr__ __hash__ __getattribute__ __iter__ __bool__ __len__ " ++
      "__getitem__ __contains__")
  | .slice => comparisons ++ words "__repr__ __getattribute__"
  | .iterator .generator => words "__repr__ __getattribute__ __iter__ __next__ __del__"
  | .iterator _ => words "__getattribute__ __iter__ __next__"
  | .ellipsis => words "__repr__ __getattribute__"
  | .function => words "__repr__ __call__ __get__"
  | .builtin => comparisons ++ words "__repr__ __hash__ __call__ __getattribute__"
  | .method =>
    comparisons ++
      words ("__repr__ __hash__ __call__ __getattribute__ __setattr__ " ++
      "__delattr__")
  | .memberField => words "__repr__ __getattribute__ __get__ __set__ __delete__"
  | .computedField => words "__getattribute__ __get__ __set__ __delete__ __init__"
  | .bound => words "__repr__ __call__ __getattribute__ __setattr__ __delattr__"
  | .generic =>
    comparisons ++
      words ("__repr__ __hash__ __call__ __getattribute__ __iter__ __or__ " ++
      "__ror__ __getitem__")
  | .coroutine => words "__repr__ __getattribute__ __del__ __await__"
  | .methodDescriptor | .wrapperDescriptor | .classDescriptor =>
    words "__repr__ __call__ __getattribute__ __get__"
  | .partDescriptor => words "__repr__ __getattribute__ __get__ __set__ __delete__"
  | .boundWrapper => comparisons ++ words "__repr__ __hash__ __call__ __getattribute__"
  | .constructionError | .assertError => words "__repr__ __str__ __getattribute__"
  | _ => []

/-- The names of the functions of a kind that become methods. -/
def functionNames : Kind → List String
  | .abstractKind => words "register __instancecheck__ __subclasscheck__"
  | .sized => words "__len__"
  | .iterable => words "__iter__"
  | .container => words "__contains__"
  | .reversible => words "__reversed__"
  | .mapping => words "__getitem__ get __contains__ keys items values __eq__"
  | .sequence => words "__getitem__ __iter__ __contains__ __reversed__ index count"
  | .setLike =>
    words ("__le__ __lt__ __gt__ __ge__ __eq__ __and__ __rand__ isdisjoint __or__ __ror__ " ++
      "__sub__ __rsub__ __xor__ __rxor__ _hash")
  | .parameterized =>
    words ("__init__ __eq__ __hash__ __or__ __ror__ __getitem__ _determine_new_args " ++
      "_make_substitution copy_with __repr__ __reduce__ __mro_entries__ __iter__")
  | .undefined => words "__repr__ __bool__ __reduce__ __new__"
  | .predicate => words "__init__ __call__ __setattr__ __delattr__ __repr__"
  | .metadata | .options =>
    words ("__init__ __post_init__ __repr__ __eq__ __hash__ __setattr__ __delattr__ " ++
      "__getstate__ __setstate__")
  | .constructionError | .assertError => words "__init__"
  | .foreign => words "__init__ __getitem__ __iter__ __len__ get keys values items"
  | .callable | .unreferable | .unhashable => words "__call__"
  | .keyed => words "__init__ __call__ __eq__ __hash__"
  | _ => []

/-- The names of the methods of the class of a kind. -/
def classMethodNames : Kind → List String
  | .int => words "from_bytes"
  | .float => words "fromhex __getformat__"
  | .bytes | .buffer => words "fromhex"
  | .dict | .orderedDict => words "fromkeys"
  | .setLike => words "_from_iterable"
  | .object => words "__init_subclass__ __subclasshook__"
  | .kind => words "__prepare__"
  | .sized | .collection | .reversible => words "__subclasshook__"
  | .iterable | .container => words "__subclasshook__ __class_getitem__"
  | _ => []

/-- The names of the functions of a kind that stay what they are. -/
def staticNames : Kind → List String
  | .text | .bytes | .buffer => words "maketrans"
  | _ => []

/-- The names of the computed parts of the objects of a kind. -/
def computedNames : Kind → List String
  | .kind => words "__bases__ __annotations__ __abstractmethods__"
  | .int => words "real imag numerator denominator"
  | .float => words "real imag"
  | .listing _ false => words "mapping"
  | .iterator .generator => words "gi_yieldfrom gi_running gi_frame gi_suspended"
  | .queue => words "maxlen"
  | .function => words "__code__ __defaults__ __kwdefaults__ __annotations__"
  | .builtin => words "__self__"
  | .boundWrapper => words "__objclass__"
  | .computedField => words "__isabstractmethod__"
  | .generic => words "__parameters__ __typing_unpacked_tuple_args__"
  | .coroutine => words "cr_await cr_running cr_frame cr_suspended"
  | .constructionError | .assertError => words "args __traceback__ __context__ __cause__"
  | _ => []

/-- The names of the stored parts of the objects of a kind. -/
def storedNames : Kind → List String
  | .kind =>
    words ("__basicsize__ __itemsize__ __flags__ __weakrefoffset__ __base__ __dictoffset__ " ++
      "__mro__")
  | .complex => words "real imag"
  | .range | .slice => words "start stop step"
  | .function => words "__closure__ __globals__ __builtins__"
  | .method => words "__func__ __self__"
  | .memberField | .methodDescriptor | .wrapperDescriptor | .classDescriptor | .partDescriptor =>
    words "__objclass__"
  | .boundWrapper => words "__self__"
  | .computedField => words "fget fset fdel"
  | .bound => words "func args keywords"
  | .generic => words "__origin__ __args__ __unpacked__"
  | .coroutine => words "cr_code cr_origin"
  | .iterator .generator => words "gi_code"
  | _ => []

/-- The names of what functions and members of a kind tell about themselves, and which cannot be
changed. -/
def fixedNames : Kind → List String
  | .builtin | .boundWrapper => words "__name__ __qualname__ __doc__ __text_signature__"
  | .methodDescriptor | .wrapperDescriptor | .classDescriptor =>
    words "__qualname__ __doc__ __text_signature__"
  | .partDescriptor | .memberField => words "__qualname__ __doc__"
  | _ => []

/-! ## Lookup -/

/-- The kinds that have a function of their own by which objects are made. -/
def isCreating (k : Kind) : Bool :=
  [object, kind, null, bool, int, float, complex, text, bytes, buffer, list, tuple, dict, view, set,
    frozenSet, queue, range, slice, ellipsis, function, method, computedField, bound, generic,
    notImplemented, constructionError, assertError].contains k

/-- The names of the members of a kind that are of one sort. -/
def memberNames (k : Kind) : MemberSort → List String
  | .method => k.methodNames
  | .wrapper => k.wrapperNames
  | .function => k.functionNames
  | .classMethod => k.classMethodNames ++ if k.provides .classItem then [Method.classItem.name] else []
  | .static =>
    k.staticNames ++ if k.isCreating then [Method.creation.name] else []
  | .computed => k.computedNames
  | .stored => k.storedNames

/-- The name that a member itself goes by.  The mirrored operations on sets that are the same in both
directions are the plain ones. -/
def shownMemberName (k : Kind) (name : String) : String :=
  if k == .setLike && (words "__rand__ __ror__ __rxor__").contains name then
    "__" ++ String.ofList (name.toList.drop 3)
  else name

/-- The sort of the member of a kind with the given name. -/
def memberSort? (k : Kind) (name : String) : Option MemberSort :=
  MemberSort.all.find? fun s => (k.memberNames s).contains name

end Kind

end ValueShape
