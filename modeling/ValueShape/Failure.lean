import ValueShape.Text.Cut
import ValueShape.Text.Quoted
import ValueShape.Value.Basic

/-!
# Failures

Everything that can go wrong, by cause.

* `Failure` has one constructor per cause, with the data of the case.  The library itself refuses
  in two ways only: `construction`, when a predicate cannot be built from the given arguments, and
  `assertion`, when a value fails to satisfy a predicate that was required of it.  All other
  failures come from values that do not support what is asked of them, or from the caller's own
  functions.
* `Failure.message` is the text of a failure, apart from that about a missing key, which has to be
  written first.  `Failure.briefly` and its kin are how much of a long name such a text shows.
* `Failure.isOrdinary` says whether a recovery catches it, and `Failure.category` which of the
  limited ones do.
-/

set_option autoImplicit false

namespace ValueShape

/-- What goes wrong, by cause. -/
inductive Failure
  /-- A predicate cannot be built: `factory` refuses an argument for the reason `detail`.  The
  factory is named by a value, with `shown` as its text. -/
  | construction (factory : Value) (shown detail : String)
  /-- A value, rendered as `rendered`, does not satisfy the predicate called `predicate`. -/
  | assertion (message : String) (rendered predicate : Value)
  /-- Code outside the library raises a failure. -/
  | raised (r : Raised)
  /-- An integer has too many digits to be written. -/
  | tooManyDigits
  /-- A rendering limit is not a natural number. -/
  | badLimit (limit shown : String)
  /-- A value of the class cannot be hashed. -/
  | unhashable (typeName : String)
  /-- A value of the class cannot be iterated over. -/
  | notIterable (typeName : String)
  /-- A value of the class cannot be taken apart. -/
  | notUnpackable (typeName : String)
  /-- There are fewer parts than the two expected. -/
  | tooFewParts (found : Nat)
  /-- There are more parts than the two expected. -/
  | tooManyParts
  /-- A value of the class cannot be searched. -/
  | notSearchable (typeName : String)
  /-- A value of the class has no length. -/
  | notSized (typeName : String)
  /-- A value of the class has no parts to be looked up. -/
  | notSubscriptable (typeName : String)
  /-- The parts of a class cannot be looked up. -/
  | classNotSubscriptable (typeName : String)
  /-- A sequence is indexed by something other than an integer. -/
  | badIndex (text : String)
  /-- An index lies outside a sequence. -/
  | indexOutOfRange (text : String)
  /-- A mapping has no such key; without a key, it has none at all. -/
  | missingKey (key : Option Value)
  /-- The items of a value of the class cannot be assigned. -/
  | itemsFixed (typeName : String)
  /-- A value of the class cannot be called. -/
  | notCallable (typeName : String)
  /-- A function or class takes no argument. -/
  | takesNoArgument (text : String)
  /-- A call has too few or too many arguments. -/
  | badArguments (text : String)
  /-- A value has no such attribute. -/
  | noAttribute (owner attributeName : String)
  /-- An attribute is named by something other than a text. -/
  | badAttributeName (typeName : String)
  /-- An attribute is not there, or cannot be changed, for the given reason. -/
  | badAttribute (text : String)
  /-- An attribute is given a value that it cannot have. -/
  | badAttributeValue (text : String)
  /-- An attribute of a predicate is assigned or deleted. -/
  | predicateFixed (verb shown : String)
  /-- A field of an immutable record is assigned or deleted. -/
  | fieldFixed (verb shown : String)
  /-- An argument has an unsuitable value. -/
  | badValue (text : String)
  /-- A value is of an unsuitable class. -/
  | badType (text : String)
  /-- Units of UTF-8 do not make up a text. -/
  | badEncoding (text : String)
  /-- An encoding has no bytes for characters of a text. -/
  | unencodable (text : String)
  /-- An encoding, or a rule about what it cannot encode, is not known. -/
  | unknownEncoding (text : String)
  /-- A text does not make up an expression. -/
  | badExpression (text : String)
  /-- A number is divided by zero. -/
  | divisionByZero (text : String)
  /-- An iteration has come to its end. -/
  | exhausted
  /-- What a generator does to yield an item has come to the end of another iteration. -/
  | exhaustedInside
  /-- A number is too large for what it is used for. -/
  | tooLarge (text : String)
  /-- A function cannot be stored, since it is made inside another one. -/
  | localNotStorable (shown : String)
  /-- A class cannot be stored, since it is not found again for the given reason. -/
  | classNotStorable (shown reason : String)
  /-- A numeral has too many digits to be read. -/
  | tooLongNumeral (digits : Nat)
  /-- There is no room for a collection. -/
  | noMemory
  /-- A collection changes while it is iterated over. -/
  | changedMeanwhile (text : String)
  /-- A recursion does not end. -/
  | tooDeep
  /-- A recursion of calls does not end. -/
  | callTooDeep
deriving Inhabited

namespace Failure

/-- A refusal of one of the library's own factories. -/
def refusal (factory detail : String) : Failure :=
  .construction (.keptText factory) factory detail

/-! ## Long names

Messages cut long names off, and how many characters are left depends on what the message is
about. -/

/-- The beginning of a name, as far as most messages show it. -/
def briefly (name : String) : String := cut 200 name

/-- The beginning of a name, as far as messages about changes show it. -/
def moreBriefly (name : String) : String := cut 100 name

/-- The beginning of a name, as far as messages about missing attributes show it. -/
def mostBriefly (name : String) : String := cut 50 name

/-! ## Texts -/

/-- The text about an index or a length, given by a value of the class, that no index reaches. -/
def unfitIndex (typeName : String) : String :=
  "cannot fit '" ++ briefly typeName ++ "' into an index-sized integer"

/-- The text of a failure. -/
def message : Failure → String
  | construction _ shown detail => shown ++ ": " ++ detail
  | assertion message _ _ => message
  | raised r =>
    match r.kind with
    | .key => quoteString r.message
    | _ => r.message
  | tooManyDigits =>
    "Exceeds the limit (4300 digits) for integer string conversion; " ++
      "use sys.set_int_max_str_digits() to increase the limit"
  | badLimit limit shown => limit ++ " must be a non-negative integer, got " ++ shown
  | unhashable t => "unhashable type: '" ++ briefly t ++ "'"
  | notIterable t => "'" ++ briefly t ++ "' object is not iterable"
  | notUnpackable t => "cannot unpack non-iterable " ++ briefly t ++ " object"
  | tooFewParts n => "not enough values to unpack (expected 2, got " ++ n.repr ++ ")"
  | tooManyParts => "too many values to unpack (expected 2)"
  | notSearchable t => "argument of type '" ++ briefly t ++ "' is not iterable"
  | notSized t => "object of type '" ++ briefly t ++ "' has no len()"
  | notSubscriptable t => "'" ++ briefly t ++ "' object is not subscriptable"
  | classNotSubscriptable t => "type '" ++ briefly t ++ "' is not subscriptable"
  | badIndex text => text
  | indexOutOfRange text => text
  | missingKey _ => ""
  | itemsFixed t => "'" ++ briefly t ++ "' object does not support item assignment"
  | notCallable t => "'" ++ briefly t ++ "' object is not callable"
  | takesNoArgument text => text
  | badArguments text => text
  | noAttribute owner attributeName => owner ++ " has no attribute '" ++ attributeName ++ "'"
  | badAttributeName t => "attribute name must be string, not '" ++ briefly t ++ "'"
  | badAttribute text => text
  | badAttributeValue text => text
  | predicateFixed verb shown => "Predicate is immutable; cannot " ++ verb ++ " " ++ shown
  | fieldFixed verb shown => "cannot " ++ verb ++ " field " ++ shown
  | badValue text => text
  | badType text => text
  | badEncoding text => text
  | unencodable text => text
  | unknownEncoding text => text
  | divisionByZero text => text
  | exhausted => ""
  | exhaustedInside => "generator raised StopIteration"
  | badExpression text => text
  | localNotStorable shown => "Can't pickle local object " ++ quoteString shown
  | classNotStorable shown reason => "Can't pickle " ++ shown ++ ": " ++ reason
  | tooLarge text => text
  | tooLongNumeral n =>
    "Exceeds the limit (4300 digits) for integer string conversion: value has " ++ n.repr ++
      " digits; use sys.set_int_max_str_digits() to increase the limit"
  | noMemory => ""
  | changedMeanwhile text => text
  | tooDeep => "maximum recursion depth exceeded"
  | callTooDeep => "maximum recursion depth exceeded while calling a Python object"

/-- Whether a recovery catches the failure. -/
def isOrdinary : Failure → Bool
  | raised r => r.isOrdinary
  | _ => true

end Failure

/-! ## Categories

What a recovery catches depends on the category of a failure, and not on its cause. -/

/-- The categories of failures, which a recovery may be limited to. -/
inductive Category
  /-- A predicate cannot be built.  This is a failure of types as well. -/
  | construction
  /-- A value does not satisfy a predicate.  This is a failure of values as well. -/
  | assertion
  /-- Anything that has no category of its own. -/
  | runtime
  /-- A value is of the right class, but unsuitable. -/
  | value
  /-- Units do not make up a text.  This is a failure of values as well. -/
  | encoding
  /-- An encoding has no bytes for characters.  This is a failure of values as well. -/
  | encodability
  /-- A text does not make up an expression. -/
  | expression
  /-- Something is not found by its name. -/
  | lookup
  /-- A number is divided by zero. -/
  | division
  /-- There is no further element. -/
  | exhaustion
  /-- A value is of the wrong class. -/
  | type
  /-- A key is missing. -/
  | key
  /-- An index is out of range. -/
  | index
  /-- An attribute is missing, or cannot be changed. -/
  | attribute
  /-- A field of an immutable record cannot be changed.  This is a failure of attributes as well. -/
  | frozen
  /-- A value cannot be stored. -/
  | storing
  /-- A number is too large. -/
  | overflow
  /-- There is no room. -/
  | memory
  /-- A recursion does not end. -/
  | recursion
  /-- A failure of the surrounding program itself. -/
  | host
  /-- A failure that no recovery catches. -/
  | fatal
deriving DecidableEq, Repr

/-- The category of a failure that is raised outside the library. -/
def RaisedKind.category : RaisedKind → Category
  | runtime => .runtime
  | value => .value
  | key => .key
  | type => .type
  | exhaustion => .exhaustion
  | host => .host
  | fatal => .fatal

namespace Failure

/-- The category of a failure. -/
def category : Failure → Category
  | construction .. => .construction
  | assertion .. => .assertion
  | raised r => r.kind.category
  | changedMeanwhile _ | exhaustedInside => .runtime
  | tooManyDigits | badLimit .. | tooFewParts _ | tooManyParts | badValue _ | tooLongNumeral _ =>
    .value
  | badEncoding _ => .encoding
  | unencodable _ => .encodability
  | unknownEncoding _ => .lookup
  | divisionByZero _ => .division
  | exhausted => .exhaustion
  | badExpression _ => .expression
  | indexOutOfRange _ => .index
  | missingKey _ => .key
  | noAttribute .. | badAttribute _ | predicateFixed .. | localNotStorable _ => .attribute
  | fieldFixed .. => .frozen
  | classNotStorable .. => .storing
  | tooLarge _ => .overflow
  | noMemory => .memory
  | tooDeep | callTooDeep => .recursion
  | _ => .type

/-- Whether a failure is about the class of a value. -/
def isOfType (f : Failure) : Bool := f.category == .type || f.category == .construction

/-- Whether a failure is about an attribute. -/
def isOfAttribute (f : Failure) : Bool := f.category == .attribute || f.category == .frozen

/-- Whether a failure is about a key. -/
def isOfKey (f : Failure) : Bool := f.category == .key

/-- Whether a failure is about an index. -/
def isOfIndex (f : Failure) : Bool := f.category == .index

/-- Whether a failure says that there is no further element. -/
def isOfEnd (f : Failure) : Bool := f.category == .exhaustion

/-- What becomes of a failure inside of a generator when it leaves it.  The end of an iteration would
be taken for that of the generator itself. -/
def yielded (f : Failure) : Failure := if f.isOfEnd then .exhaustedInside else f

theorem yielded_of_not {f : Failure} (h : f.isOfEnd = false) : f.yielded = f := by simp [yielded, h]

@[simp] theorem isOfEnd_yielded (f : Failure) : f.yielded.isOfEnd = false := by
  cases h : f.isOfEnd with
  | true => rw [yielded, if_pos h]; rfl
  | false => rw [yielded_of_not h, h]

@[simp] theorem yielded_yielded (f : Failure) : f.yielded.yielded = f.yielded :=
  yielded_of_not f.isOfEnd_yielded

/-- A failure of a category that no recovery catches is not ordinary, and the others are. -/
theorem isOrdinary_eq_category (f : Failure) : f.isOrdinary = (f.category != .fatal) := by
  cases f with
  | raised r => obtain ⟨kind, message⟩ := r; cases kind <;> rfl
  | _ => rfl

/-- The end of an iteration is ordinary, and so is what becomes of it. -/
@[simp] theorem isOrdinary_yielded (f : Failure) : f.yielded.isOrdinary = f.isOrdinary := by
  cases h : f.isOfEnd with
  | true =>
    rw [isOfEnd, beq_iff_eq] at h
    rw [yielded, isOfEnd, h, isOrdinary_eq_category f, h]
    rfl
  | false => rw [yielded_of_not h]

end Failure

end ValueShape
