import ValueShape.Value.Class

/-!
# Declaring classes

`Run.declare` makes a new class, given its name and the classes that it is derived from.

* The bases have to be classes that others can be derived from, and the layouts of their objects
  have to agree: `Heap.commonBase` finds the base whose objects the new class extends.
* The lineage of the new class puts those of its bases together.  There is none if they disagree on
  the order of two classes.
-/

set_option autoImplicit false

namespace ValueShape

/-! ## Failures -/

namespace Failure

/-- The failure of deriving a class from a class with a parameter. -/
def parameterAsBase : Failure :=
  .badType "type() doesn't support MRO entry resolution; use types.new_class()"

/-- The failure of deriving a class from a value whose class does not make classes. -/
def foreignBase : Failure :=
  .badType ("metaclass conflict: the metaclass of a derived class must be a (non-strict) " ++
    "subclass of the metaclasses of all its bases")

/-- The failure of deriving a class from something that is no class. -/
def baseNoClass : Failure := .badType "bases must be types"

/-- The failure of deriving a class from one that cannot have derived classes. -/
def finalBase (className : String) : Failure :=
  .badType ("type '" ++ moreBriefly className ++ "' is not an acceptable base type")

/-- The failure of bringing two layouts together. -/
def layoutConflict : Failure := .badType "multiple bases have instance lay-out conflict"

/-- The failure of naming a class by a text with a null character. -/
def nullInClassName : Failure := .badValue "type name must not contain null characters"

/-- The failure of deriving a class from the same class twice. -/
def duplicateBase (className : String) : Failure :=
  .badType ("duplicate base class " ++ className)

/-- The most units of a text about lineages. -/
def maxLineageText : Nat := 999

/-- The failure of reading units of a text of which the last ones, after so many others, are the
beginning of a character. -/
def cutCharacter (position : Nat) (units : List UInt8) : Failure :=
  let place := match units with
    | [b] => "byte 0x" ++ String.ofList (hexDigits 2 b.toNat) ++ " in position " ++ position.repr
    | units =>
      "bytes in position " ++ position.repr ++ "-" ++ (position + units.length - 1).repr
  .badEncoding ("'utf-8' codec can't decode " ++ place ++ ": unexpected end of data")

/-- The failure of bringing lineages together, at the given classes. -/
def noCommonOrder (classNames : List String) : Failure :=
  let text := "Cannot create a consistent method resolution\norder (MRO) for bases " ++
    ", ".intercalate classNames
  let (begun, units) := split maxLineageText text.toList
  if units.isEmpty then .badType (String.ofList begun)
  else .cutCharacter (maxLineageText - units.length) units

end Failure

/-! ## Bases -/

/-- Whether no class can be derived from a class. -/
def Class.isFinal : Class → Bool
  | .kind k => k.isFinal
  | .declared _ => false

namespace Heap

/-- The class that determines the contents of the objects of a class, if any.  Usually that is a
kind; the two kinds of failures share one.  Only where objects vary in size, each class derived
directly from the kind has a layout of its own. -/
def contentClass? (h : Heap) (c : Class) : Option Class :=
  ((h.kinds c).find? Kind.hasContents).map fun k =>
    if k == .assertError then .kind .constructionError
    else if !k.isVariable then .kind k
    else ((h.lineage c).filter fun d => d != .kind k && h.hasKind d k).getLast?.getD (.kind k)

/-- The base whose objects the objects of a class with the given bases extend: the first one with
the contents of all of them.  `soFar` is the one found among those before. -/
def commonBase (h : Heap) (soFar : Option Class) : List Value → Except Failure (Option Class)
  | [] => .ok soFar
  | v :: vs =>
    match v.class? with
    | none => .error .baseNoClass
    | some c =>
      if c.isFinal then .error (.finalBase (h.qualifiedClassName c))
      else match soFar with
        | none => h.commonBase (some c) vs
        | some b =>
          match h.contentClass? b, h.contentClass? c with
          | _, none => h.commonBase (some b) vs
          | none, some _ => h.commonBase (some c) vs
          | some d, some d' =>
            if h.derives d d' then h.commonBase (some b) vs
            else if h.derives d' d then h.commonBase (some c) vs
            else .error .layoutConflict

/-- The first value that occurs once more further back. -/
def firstDuplicate? : List Class → Option Class
  | [] => none
  | c :: cs => if cs.contains c then some c else firstDuplicate? cs

/-- The lineage of a class with the given bases, apart from the class itself. -/
def mergedLineage (h : Heap) (bases : List Class) : Except Failure (List Class) :=
  match firstDuplicate? bases with
  | some c => .error (.duplicateBase (h.className c))
  | none =>
    match linearize? (bases.map h.lineage ++ [bases]) with
    | .ok lineage => .ok lineage
    | .error blocked => .error (.noCommonOrder (blocked.eraseDups.map fun c =>
        (h.classNameValue c).text?.getD "?"))

/-- Whether a value is neither a class nor an object that leaves the choice of a class open. -/
def isForeignBase (h : Heap) (v : Value) : Bool :=
  !v.isClass && h.classOf v != .kind .object

end Heap

end ValueShape
