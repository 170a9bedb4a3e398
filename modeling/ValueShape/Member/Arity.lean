import ValueShape.Conduct.Order

/-!
# Arguments of members

How many arguments the methods of the kinds take, and what is wrong with a call that has others.

* A `MemberCall` is a call of a member of a kind for an object.
* An `Arity` is how many arguments a method takes, together with the way in which it counts them:
  methods that differ in this say different things about a call that they refuse.
* `Kind.arity?` is the arity of a method.  Methods that take any arguments have none, and neither
  have those that are checked by what carries them out.
* `MemberCall.misfit?` is the failure of a call with too few or too many arguments.
-/

set_option autoImplicit false

namespace ValueShape

/-- A call of a member of a kind. -/
structure MemberCall where
  /-- The kind. -/
  owner : Kind
  /-- The name of the member. -/
  name : String
  /-- The name of the class that the member is called through. -/
  through : String
  /-- The object. -/
  self : Value
  /-- The arguments. -/
  arguments : List Value

/-- How many arguments a method takes. -/
inductive Arity
  /-- None. -/
  | none
  /-- One. -/
  | one
  /-- A varying number, or a fixed one beyond one. -/
  | between (least most : Nat)
  /-- A varying number, with the first ones told apart by their places. -/
  | placed (least most : Nat)
  /-- At least one argument with a name, and at most so many. -/
  | named (first : String) (most : Nat)
  /-- The operands of an operation. -/
  | operands (count : Nat)
  /-- The operands of an operation that takes them together. -/
  | together (least most : Nat)
deriving DecidableEq, Repr

/-- A number of arguments in words. -/
def countArguments (n : Nat) : String :=
  n.repr ++ if n == 1 then " argument" else " arguments"

namespace MemberCall

/-- The name of a member together with that of the class that it is called through. -/
def fullName (c : MemberCall) : String := c.through ++ "." ++ c.name

/-- The text about so many arguments where others are taken. -/
def outOfBounds (least most given : Nat) : String :=
  " expected " ++ (if least == most then "" else if given < least then "at least " else "at most ") ++
    countArguments (if given < least then least else most) ++ ", got " ++ given.repr

/-- What is wrong with the number of the arguments of a call, if anything. -/
def misfit? (c : MemberCall) (a : Arity) : Option Failure :=
  let given := c.arguments.length
  let counted := " (" ++ given.repr ++ " given)"
  let within := fun (least most : Nat) (text : String) =>
    if least ≤ given && given ≤ most then Option.none else some (.badArguments text)
  match a with
  | .none => within 0 0 (c.fullName ++ "() takes no arguments" ++ counted)
  | .one => within 1 1 (c.fullName ++ "() takes exactly one argument" ++ counted)
  | .between least most => within least most (c.name ++ outOfBounds least most given)
  | .placed least most =>
    let bound := fun (word : String) (n : Nat) => word ++ countArguments n
    within least most (c.name ++ "() takes " ++
      (if least == most then bound "exactly " most
      else if given < least then bound "at least " least else bound "at most " most) ++ counted)
  | .named first most =>
    within 1 most (c.name ++ "() " ++
      if given == 0 then "missing required argument '" ++ first ++ "' (pos 1)"
      else "takes at most " ++ countArguments most ++ counted)
  | .operands count =>
    within count count ("expected " ++ countArguments count ++ ", got " ++ given.repr)
  | .together least most => within least most (outOfBounds least most given)

end MemberCall

namespace Kind

/-! ## Arities

The number of the arguments is checked before a method does anything.  Methods with the same number
are listed by their names. -/

/-- The names of the operations on one object. -/
def unaryNames : List String :=
  words ("__repr__ __str__ __hash__ __len__ __iter__ __next__ __bool__ __int__ __float__ " ++
    "__index__ __neg__ __pos__ __abs__ __invert__ __await__ __del__")

/-- The names of the operations that take their operands together. -/
def jointNames : List (String × Arity) :=
  (words "__mul__ __rmul__ __imul__").map (·, .together 1 1) ++
    (words "__setattr__ __setitem__ __set__").map (·, .together 2 2) ++
    (words "__pow__ __rpow__ __get__").map (·, .together 1 2)

/-- The arity of an operation. -/
def operationArity? (k : Kind) (name : String) : Option Arity :=
  if name == "__call__" || name == "__init__" then none
  else if unaryNames.contains name then some (.operands 0)
  else match jointNames.lookup name with
    | some a => some (if k.isNumeric && name != "__pow__" && name != "__rpow__" then .operands 1 else a)
    | none => some (.operands 1)

/-- The names of the methods of texts and bytes that look for something in a part of them. -/
def searchNames : List String := words "count endswith find index rfind rindex startswith"

/-- The arity of a method of texts or bytes, apart from those without an argument. -/
def textualArity? (name : String) : Option Arity :=
  if searchNames.contains name then some (.placed 1 3)
  else if (words "strip lstrip rstrip").contains name then some (.between 0 1)
  else if (words "center ljust rjust").contains name then some (.between 1 2)
  else if (words "split rsplit encode decode hex").contains name then some (.placed 0 2)
  else if (words "splitlines expandtabs").contains name then some (.placed 0 1)
  else if (words "join partition rpartition removeprefix removesuffix zfill").contains name then
    some .one
  else if name == "replace" then some (.between 2 3)
  else none

/-- The names of the methods that take one argument. -/
def oneNames : List String :=
  words ("__getitem__ __contains__ __format__ __reduce_ex__ __setstate__ __instancecheck__ " ++
    "__subclasscheck__ append appendleft extend extendleft remove add discard isdisjoint " ++
    "issubset issuperset symmetric_difference symmetric_difference_update fromhex format_map " ++
    "indices send __getformat__ __subclasshook__ __class_getitem__ __mro_entries__ getter setter deleter with_traceback add_note")

/-- The names of the methods that take any number of arguments. -/
def freeNames : List String :=
  words ("union update difference difference_update intersection intersection_update format " ++
    "throw to_bytes from_bytes __new__ __prepare__")

/-- The arity of a method, by its name, apart from those that differ between kinds. -/
def namedArity (name : String) : Option Arity :=
  if oneNames.contains name then some .one
  else if freeNames.contains name then none
  else some .none

/-- The arity of a method. -/
def methodArity? (k : Kind) (name : String) : Option Arity :=
  match k, name with
  | .int, "__round__" | .float, "__round__" | .dict, "update" | .list, "pop" | .buffer, "pop"
  | .buffer, "__reduce_ex__" => some (.between 0 1)
  | .text, "translate" | .range, "index" | .list, "count" | .tuple, "count" | .range, "count"
  | .queue, "count" => some .one
  | .list, "index" | .tuple, "index" | .text, "maketrans" => some (.between 1 3)
  | .queue, "index" => some (.placed 1 3)
  | .bytes, "translate" | .buffer, "translate" => none
  | .bytes, "maketrans" | .buffer, "maketrans" | .list, "insert" | .buffer, "insert" =>
    some (.between 2 2)
  | .queue, "insert" => some (.placed 2 2)
  | .dict, "get" | .view, "get" | .dict, "pop" | .dict, "setdefault" | .dict, "fromkeys" =>
    some (.between 1 2)
  | .orderedDict, "move_to_end" | .orderedDict, "pop" | .orderedDict, "setdefault" =>
    some (.named "key" 2)
  | .orderedDict, "fromkeys" => some (.named "iterable" 2)
  | .orderedDict, "popitem" => some (.placed 0 1)
  | .queue, "rotate" => some (.between 0 1)
  | .list, "sort" => none
  | .text, name | .bytes, name | .buffer, name =>
    (textualArity? name).or (namedArity name)
  | _, name => namedArity name

/-- The arity of a member of a kind. -/
def arity? (k : Kind) (name : String) : Option Arity :=
  match k.memberSort? name with
  | some .wrapper => k.operationArity? name
  | some .method | some .classMethod | some .static => k.methodArity? name
  | _ => none

end Kind

/-- The operation of which a method carries out the mirrored form: the one with the object as second
operand. -/
def mirroredOperation? (name : String) : Option String :=
  let isOther := (Kind.words "__repr__ __round__ __reduce__ __reversed__ __reduce_ex__ __rshift__")
    |>.contains name
  if name.startsWith "__r" && !isOther then some ("__" ++ String.ofList (name.toList.drop 3))
  else none

/-- Whether a method gives the result of an operation to the object itself. -/
def changesOperand (name : String) : Bool :=
  ["__iadd__", "__imul__", "__iand__", "__ior__", "__isub__", "__ixor__"].contains name

namespace Run

/-- A change that gives nothing. -/
def changing (act : Run Unit) : Run Value := do
  act
  return .null

/-- The integer that an argument stands for, unless it is beyond all indices. -/
def indexOf (v : Value) : Run Int := do
  let n ← asIndex v
  if -(maxIndex : Int) ≤ n && n < maxIndex then return n
  throw (.tooLarge "Python int too large to convert to C ssize_t")

end Run

end ValueShape
