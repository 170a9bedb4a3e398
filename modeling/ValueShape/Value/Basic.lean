import ValueShape.Value.Hash

/-!
# Values

The values that predicates are asked about, and the predicates themselves, which are values too.

* A `Value` that cannot change carries its class and its contents.  Apart from the few values that
  exist only once, it also carries an identity, a number that tells it from other values with equal
  contents.  The identity `unidentified` belongs to numbers and texts that have just been computed,
  `lasting` to those that the library keeps for good.
* A `Value` that can change is a `ref`: the place of a cell in a `Heap`, which holds the contents.
* A `Key` is a value together with the hash that it is stored under.  The keys of a mapping and the
  members of a set keep their hashes, whatever becomes of the values.
* A predicate holds the callable that decides for it.  Those that the library builds hold a `rule`,
  which is a `Check`: the callables that it asks and what it makes of their answers.  All of them
  are parts of the value, so a predicate never changes and never contains itself.
* `Check.map` replaces the callables of a check by what they do.
* `Value.identical` is the sameness of two values, which is finer than any equality.
-/

set_option autoImplicit false

namespace ValueShape

/-! ## The parts of a value -/

/-- A text that serves as a name, with the rest of what makes it a value: its class and its
identity. -/
structure Name where
  /-- The characters. -/
  text : String
  /-- The class. -/
  cls : Class
  /-- The identity. -/
  id : Nat
deriving DecidableEq, Repr

/-- The identity of numbers and texts that have just been computed.  It is no identity yet: such a
value is not even the same as itself, unless it exists only once. -/
def unidentified : Nat := 0

/-- The identity of the numbers and texts that the library keeps for good, one of each. -/
def lasting : Nat := 1

/-- A name that the library keeps for good. -/
def Name.kept (s : String) : Name := ⟨s, .kind .text, lasting⟩

/-- A name that has just been computed. -/
def Name.plain (s : String) : Name := ⟨s, .kind .text, unidentified⟩

/-- The contents of a number, a text or a string of bytes. -/
inductive Scalar
  /-- An integer of any size. -/
  | int (n : Int)
  /-- A double, as its bits. -/
  | float (bits : UInt64)
  /-- A text. -/
  | text (s : String)
  /-- A string of bytes. -/
  | bytes (bs : List UInt8)
deriving DecidableEq, Repr

/-- The kind of a scalar. -/
def Scalar.kind : Scalar → Kind
  | int _ => .int
  | float _ => .float
  | text _ => .text
  | bytes _ => .bytes

/-- Whether a scalar of the built-in class exists only once: small integers, and texts and bytes of
at most one unit. -/
def Scalar.isShared : Scalar → Bool
  | int n => decide (-5 ≤ n) && decide (n ≤ 256)
  | float _ => false
  | text s => s.isEmpty || (s.length == 1 && s.toList.all fun c : Char => c.toNat < 0x100)
  | bytes bs => decide (bs.length ≤ 1)

/-- A value with the hash that it is stored under. -/
structure Key (value : Type) where
  /-- The value. -/
  value : value
  /-- The hash that the value had when it was stored. -/
  hash : Hash

/-- The two facets of a predicate: whether the place that it describes may be left out, and whether
that place must not be reassigned. -/
structure Facets where
  /-- May be left out. -/
  optional : Bool
  /-- Must not be reassigned. -/
  readonly : Bool
deriving DecidableEq, Repr

/-- No facet at all. -/
def Facets.none : Facets := ⟨false, false⟩

/-- The kinds of failure that code outside the library raises. -/
inductive RaisedKind
  | runtime
  | value
  | key
  | type
  /-- The end of an iteration. -/
  | exhaustion
  /-- A failure of the surrounding program itself. -/
  | host
  /-- A failure that no recovery catches. -/
  | fatal
deriving DecidableEq, Repr

/-- A failure raised by code outside the library: by a function of the caller or by the methods of a
foreign mapping. -/
structure Raised where
  /-- Its kind. -/
  kind : RaisedKind
  /-- Its text. -/
  message : String
deriving DecidableEq, Repr

/-- Whether a recovery catches the failure. -/
def Raised.isOrdinary (r : Raised) : Bool := r.kind != .fatal

/-- The ready-made functions that do not belong to the library. -/
inductive Builtin
  /-- The number of elements of a collection. -/
  | length
  /-- Whether a value can be called. -/
  | callable
deriving DecidableEq, Repr

/-- The name of a ready-made function. -/
def Builtin.name : Builtin → String
  | length => "len"
  | callable => "callable"

/-! ## Checks

The callables of a check are a parameter.  So the same check can hold predicates, functions that can
be asked, or whatever else stands for these. -/

/-- How a predicate decides, in terms of what it asks: of its callables, which ask about parts of
the value or about the value itself, or of literals and classes. -/
inductive Check (callable literal : Type)
  /-- A sequence whose elements all satisfy `item`. -/
  | array (item : callable)
  /-- A mapping whose values all satisfy `item`. -/
  | record (item : callable)
  /-- A sequence that satisfies `head` position by position; what remains is given to `rest`, and
  without a `rest` nothing may remain. -/
  | tuple (head : List callable) (rest : Option callable)
  /-- The same for an argument list, of which only the first `required` positions have to be
  there. -/
  | parameters (head : List callable) (required : Nat) (rest : Option callable)
  /-- A mapping whose fields satisfy their predicates; a strict one has no keys but the allowed
  ones. -/
  | object (fields : List (Name × callable)) (allowed : Option (List (Key literal)))
  /-- A value that satisfies one of the members. -/
  | oneOf (members : List callable)
  /-- A value that satisfies all members. -/
  | allOf (members : List callable)
  /-- A value that matches the literal. -/
  | literal (l : literal)
  /-- A value that matches one of the literals. -/
  | literals (ls : List literal)
  /-- An object of a class. -/
  | instanceOf (cls : Class)
  /-- The absent value, or a value that satisfies `inner`. -/
  | optional (inner : callable)

namespace Check

/-- A check with every callable replaced. -/
def map {α β γ : Type} (f : α → γ) : Check α β → Check γ β
  | array p => .array (f p)
  | record p => .record (f p)
  | tuple ps rest => .tuple (ps.map f) (rest.map f)
  | parameters ps required rest => .parameters (ps.map f) required (rest.map f)
  | object fields allowed => .object (fields.map fun e => (e.1, f e.2)) allowed
  | oneOf ps => .oneOf (ps.map f)
  | allOf ps => .allOf (ps.map f)
  | literal l => .literal l
  | literals ls => .literals ls
  | instanceOf cls => .instanceOf cls
  | optional p => .optional (f p)

/-- The callables that a check asks. -/
def callables {α β : Type} : Check α β → List α
  | array p | record p | optional p => [p]
  | tuple ps rest | parameters ps _ rest => ps ++ rest.toList
  | object fields _ => fields.map (·.2)
  | oneOf ps | allOf ps => ps
  | literal _ | literals _ | instanceOf _ => []

theorem map_congr {α β γ : Type} {f g : α → γ} {c : Check α β}
    (h : ∀ p ∈ c.callables, f p = g p) : c.map f = c.map g := by
  cases c with
  | array p | record p | optional p => simp only [map, h p (by simp [callables])]
  | tuple ps rest | parameters ps _ rest =>
    have hps : ps.map f = ps.map g :=
      List.map_congr_left fun p hp => h p (List.mem_append.mpr (.inl hp))
    have hrest : rest.map f = rest.map g := by
      cases rest with
      | none => rfl
      | some r => simp only [Option.map_some, h r (List.mem_append.mpr (.inr (by simp)))]
    simp only [map, hps, hrest]
  | object fields allowed =>
    have hfs : (fields.map fun e => (e.1, f e.2)) = fields.map fun e => (e.1, g e.2) :=
      List.map_congr_left fun e he => by rw [h e.2 (List.mem_map.mpr ⟨e, he, rfl⟩)]
    simp only [map, hfs]
  | oneOf ps | allOf ps =>
    have hps : ps.map f = ps.map g := List.map_congr_left fun p hp => h p hp
    simp only [map, hps]
  | literal l | literals ls | instanceOf cls => rfl

theorem map_map {α β γ δ : Type} (f : α → γ) (g : γ → δ) (c : Check α β) :
    (c.map f).map g = c.map fun p => g (f p) := by
  cases c <;> simp [map, Function.comp_def]

theorem callables_map {α β γ : Type} (f : α → γ) (c : Check α β) :
    (c.map f).callables = c.callables.map f := by
  cases c with
  | tuple ps rest | parameters ps _ rest => cases rest <;> simp [map, callables]
  | _ => simp [map, callables, Function.comp_def]

end Check

/-- What a function of the caller does with its argument. -/
inductive Body (value : Type)
  /-- It returns a value. -/
  | returns (v : value)
  /-- It raises a failure. -/
  | raises (r : Raised)
  /-- It does what the surrounding program has filed under the number `n`. -/
  | script (n : Nat)
  /-- It returns a value, and its calls are not recorded. -/
  | silent (v : value)

/-! ## Values -/

/-- A value. -/
inductive Value
  /-- The null value. -/
  | null
  /-- The value that stands for an absent key or position. -/
  | undefined
  /-- A truth value. -/
  | bool (b : Bool)
  /-- A number, a text or bytes. -/
  | scalar (cls : Class) (id : Nat) (s : Scalar)
  /-- A complex number, by the bits of its two parts. -/
  | complex (cls : Class) (id : Nat) (re im : UInt64)
  /-- An immutable sequence. -/
  | tuple (cls : Class) (id : Nat) (items : List Value)
  /-- An immutable set, with its members in the order of iteration. -/
  | frozenSet (cls : Class) (id : Nat) (members : List (Key Value))
  /-- A read-only mapping that shows another value. -/
  | view (id : Nat) (source : Value)
  /-- The integers from `start` up to but not including `stop`, at the distance `step`. -/
  | range (id : Nat) (start stop step : Int)
  /-- What remains of a sequence after its first `start` elements, as a key. -/
  | slice (id : Nat) (start : Nat)
  /-- A value that can change: the place of its contents in the heap. -/
  | ref (place : Nat)
  /-- A predicate, and the callable that decides for it. -/
  | predicate (id : Nat) (name : Name) (facets : Facets) (decider : Value)
  /-- The function by which a predicate of the library decides. -/
  | rule (id : Nat) (check : Check Value Value)
  /-- A record of which factory built a predicate, from the arguments in the tuple `args`. -/
  | metadata (cls : Class) (id : Nat) (factory : Name) (args : Value)
  /-- Rendering options: two integers. -/
  | options (cls : Class) (id : Nat) (threshold maxDepth : Value)
  /-- A ready-made predicate. -/
  | leaf (l : Leaf)
  /-- An operation of the library, as a function. -/
  | operation (o : Operation)
  /-- A function of the caller. -/
  | function (id : Nat) (name : Name) (async : Bool) (body : Body Value)
  /-- A ready-made function. -/
  | builtin (id : Nat) (b : Builtin)
  /-- A function of a class, together with the object through which it was read. -/
  | method (id : Nat) (fn self : Value)
  /-- A function with some of its arguments bound; here, with none. -/
  | bound (cls : Class) (id : Nat) (fn : Value)
  /-- A class with a parameter.  A starred one stands for its own elements. -/
  | generic (id : Nat) (starred : Bool) (origin : Class) (parameter : Value)
  /-- A class. -/
  | ofClass (c : Class)
  /-- What stands for a field of the objects of a kind, in the class. -/
  | field (owner : Kind) (name : String)
  /-- What a function does, apart from the function itself. -/
  | code (async : Bool)
  /-- An object of a class, without contents of its own. -/
  | object (id : Nat) (cls : Class)

instance : Inhabited Value := ⟨.null⟩

/-- A check whose callables are values. -/
abbrev Rule := Check Value Value

/-- An entry of a mapping: a key and the value under it. -/
abbrev Entry := Key Value × Value

namespace Value

/-! ## Primitive values -/

/-- A text that has just been computed. -/
def text (s : String) : Value := .scalar (.kind .text) unidentified (.text s)

/-- A text that the library keeps for good. -/
def keptText (s : String) : Value := .scalar (.kind .text) lasting (.text s)

/-- An integer that has just been computed. -/
def int (n : Int) : Value := .scalar (.kind .int) unidentified (.int n)

/-- The characters of a text. -/
def text? : Value → Option String
  | .scalar _ _ (.text s) => some s
  | _ => none

/-- The bytes of a string of bytes. -/
def bytes? : Value → Option (List UInt8)
  | .scalar _ _ (.bytes bs) => some bs
  | _ => none

/-- A text, as a name. -/
def name? : Value → Option Name
  | .scalar cls id (.text s) => some ⟨s, cls, id⟩
  | _ => none

/-- A name, as a value. -/
def ofName (n : Name) : Value := .scalar n.cls n.id (.text n.text)

/-- What the method of a class gives where it does not know an answer. -/
def unanswered : Value := .object 0 (.kind .notImplemented)

/-- What the method of a class says, unless it does not know an answer. -/
def known? : Value → Option Value
  | .object _ (.kind .notImplemented) => none
  | v => some v

/-- The integer that a value is.  A truth value is not one. -/
def int? : Value → Option Int
  | .scalar _ _ (.int n) => some n
  | _ => none

/-- Whether a value is null, a truth value, a number, a text or bytes. -/
def isPlain : Value → Bool
  | .null | .bool _ | .scalar .. => true
  | _ => false

theorem name?_ofName (n : Name) : (ofName n).name? = some n := rfl

theorem text?_ofName (n : Name) : (ofName n).text? = some n.text := rfl

/-! ## Identity

Values that exist only once need no identity.  Any two others are the same only if they share
theirs. -/

/-- The number that identifies a value with contents of its own. -/
def id? : Value → Option Nat
  | .complex _ id _ _ | .tuple _ id _ | .frozenSet _ id _ | .view id _ | .slice id _
  | .range id _ _ _
  | .predicate id _ _ _ | .metadata _ id _ _ | .options _ id _ _ | .function id _ _ _
  | .method id _ _ | .bound _ id _ | .generic id false _ _ | .object id _ => some id
  | _ => none

/-- Whether a number, a text or bytes of a class exist only once. -/
def isUnique (c : Class) (s : Scalar) : Bool := c == .kind s.kind && s.isShared

/-- Whether two values are one and the same. -/
def identical : Value → Value → Bool
  | .null, .null => true
  | .undefined, .undefined => true
  | .bool a, .bool b => a == b
  | .scalar c i s, .scalar c' i' s' =>
    c == c' && i == i' && s == s' && (i != unidentified || isUnique c s)
  | .ref p, .ref q => p == q
  | .leaf l, .leaf l' => l == l'
  | .operation o, .operation o' => o == o'
  | .builtin i b, .builtin i' b' => i == i' && b == b'
  | .ofClass c, .ofClass c' => c == c'
  | .field k s, .field k' s' => k == k' && s == s'
  | .code a, .code b => a == b
  | .rule i _, .rule j _ => i == j
  | .generic i true _ _, .generic j true _ _ => i == j
  | .tuple _ i _, .tuple _ j _ => i == j
  | .object i c, .object j c' => i == j && c == c'
  | .complex _ i _ _, .complex _ j _ _ | .frozenSet _ i _, .frozenSet _ j _
  | .view i _, .view j _ | .range i _ _ _, .range j _ _ _ | .slice i _, .slice j _
  | .predicate i _ _ _, .predicate j _ _ _ | .metadata _ i _ _, .metadata _ j _ _
  | .options _ i _ _, .options _ j _ _ | .function i _ _ _, .function j _ _ _
  | .method i _ _, .method j _ _ | .bound _ i _, .bound _ j _
  | .generic i false _ _, .generic j false _ _ => i == j && i != 0
  | _, _ => false

/-! ## Facets -/

/-- The facets of a predicate; a callable that is not a predicate has none. -/
def facets : Value → Facets
  | .predicate _ _ f _ => f
  | _ => Facets.none

/-- Whether a value is a predicate with the optional facet. -/
def isOptional (v : Value) : Bool := v.facets.optional

/-- Whether a value is a predicate with the readonly facet. -/
def isReadonly (v : Value) : Bool := v.facets.readonly

end Value

end ValueShape
