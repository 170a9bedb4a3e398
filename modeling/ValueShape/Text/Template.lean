import ValueShape.Text.FieldStyle

/-!
# Templates

Texts with fields, between braces, that values are put into.

* `TemplatePiece.read` cuts the first piece off a template: plain characters, with doubled braces for
  single ones, and the field behind them.
* A `TemplateField` names a value, says whether the written form of the value is wanted, and gives a
  style.  The style may be a template itself.
* `splitName` and `FieldStep.read` take the name of a value apart: an argument, and the attributes and
  items that lead on from there.
-/

set_option autoImplicit false

namespace ValueShape

/-- What is wrong with a template. -/
inductive TemplateFault
  /-- A brace is closed that was not opened. -/
  | straysCloser
  /-- A brace is opened at the end. -/
  | straysOpener
  /-- A brace is opened inside the name of a value. -/
  | openerInName
  /-- The template ends where a conversion should be. -/
  | noConversion
  /-- A conversion is followed by something other than a style. -/
  | noStyle
  /-- The template ends inside a style. -/
  | openStyle
  /-- The template ends inside the name of a value. -/
  | openField
  /-- Templates are too deeply nested. -/
  | tooDeep
  /-- A part of the name of a value has no name. -/
  | emptyStep
  /-- There is something behind the key of an item. -/
  | noStep
  /-- The template ends inside the key of an item. -/
  | openKey
  /-- The place of an argument has too many digits. -/
  | tooManyDigits
  /-- There is no such conversion. -/
  | unknownConversion (c : Char)
  /-- A field counts on, after another one that had a number. -/
  | countsAfterNumber
  /-- A field has a number, after another one that counted on. -/
  | numberAfterCount
  /-- A field is about an argument by its place, but there are no such arguments. -/
  | noPlaces
deriving DecidableEq, Repr

/-- The text about a fault. -/
def TemplateFault.message : TemplateFault → String
  | straysCloser => "Single '\x7d' encountered in format string"
  | straysOpener => "Single '\x7b' encountered in format string"
  | openerInName => "unexpected '\x7b' in field name"
  | noConversion => "end of string while looking for conversion specifier"
  | noStyle => "expected ':' after conversion specifier"
  | openStyle => "unmatched '\x7b' in format spec"
  | openField => "expected '\x7d' before end of string"
  | tooDeep => "Max string recursion exceeded"
  | emptyStep => "Empty attribute in format string"
  | noStep => "Only '.' or '[' may follow ']' in format field specifier"
  | openKey => "Missing ']' in format string"
  | tooManyDigits => StyleFault.tooManyDigitsText
  | unknownConversion c =>
    "Unknown conversion specifier " ++
      (if 32 < c.toNat && c.toNat < 127 then c.toString
        else "\\x" ++ String.ofList (Nat.toDigits 16 c.toNat))
  | countsAfterNumber =>
    "cannot switch from manual field specification to automatic field numbering"
  | numberAfterCount =>
    "cannot switch from automatic field numbering to manual field specification"
  | noPlaces => "Format string contains positional fields"

/-! ## Fields -/

/-- A field of a template. -/
structure TemplateField where
  /-- The name of the value. -/
  name : List Char
  /-- The letter for the written form that is wanted, if not the value itself is. -/
  conversion : Option Char
  /-- The style. -/
  style : List Char
deriving DecidableEq, Repr

/-- The brace that opens a field. -/
def opener : Char := '\x7b'

/-- The brace that closes a field. -/
def closer : Char := '\x7d'

namespace TemplateField

/-- The name of a value in front of characters, and what follows it.  Between brackets, there may be
anything. -/
def readName : Bool → List Char → Except TemplateFault (List Char × List Char)
  | _, [] => .error .openField
  | inBrackets, c :: cs =>
    if inBrackets then readOn (c != ']') c cs
    else if c == opener then .error .openerInName
    else if c == closer || c == ':' || c == '!' then .ok ([], c :: cs)
    else readOn (c == '[') c cs
where
  /-- The name with a character in front. -/
  readOn (inBrackets : Bool) (c : Char) (cs : List Char) :
      Except TemplateFault (List Char × List Char) := do
    let (name, rest) ← readName inBrackets cs
    return (c :: name, rest)

/-- The style in front of characters, up to the brace that closes it, and what follows. -/
def readStyle : Nat → List Char → Except TemplateFault (List Char × List Char)
  | _, [] => .error .openStyle
  | depth, c :: cs =>
    if c == closer && depth == 0 then .ok ([], cs)
    else do
      let depth := if c == opener then depth + 1 else if c == closer then depth - 1 else depth
      let (style, rest) ← readStyle depth cs
      return (c :: style, rest)

/-- The field in front of characters, behind the brace that opens it, and what follows it. -/
def read (cs : List Char) : Except TemplateFault (TemplateField × List Char) := do
  let (name, rest) ← readName false cs
  let styled := fun (conversion : Option Char) (cs : List Char) => do
    let (style, rest) ← readStyle 0 cs
    return (TemplateField.mk name conversion style, rest)
  match rest with
  | '!' :: c :: ':' :: rest => styled (some c) rest
  | ['!', c] => styled (some c) []
  | '!' :: c :: d :: rest => if d == closer then return (⟨name, some c, []⟩, rest) else throw .noStyle
  | ['!'] => throw .noConversion
  | ':' :: rest => styled none rest
  | _ :: rest => return (⟨name, none, []⟩, rest)
  | [] => throw .openField

end TemplateField

/-! ## Pieces -/

/-- A piece of a template. -/
structure TemplatePiece where
  /-- Plain characters. -/
  plain : List Char
  /-- The field behind them, if there is one. -/
  field : Option TemplateField
  /-- What follows the piece. -/
  rest : List Char
deriving DecidableEq, Repr

/-- Whether a character stands for itself in a template. -/
def isPlainChar (c : Char) : Bool := c != opener && c != closer

/-- The first piece of a template. -/
def TemplatePiece.read (cs : List Char) : Except TemplateFault TemplatePiece := do
  let plain := cs.takeWhile isPlainChar
  match cs.dropWhile isPlainChar with
  | [] => return ⟨plain, none, []⟩
  | c :: d :: rest =>
    if c == d then return ⟨plain ++ [c], none, rest⟩
    else if c == closer then throw .straysCloser
    else
      let (field, rest) ← TemplateField.read (d :: rest)
      return ⟨plain, some field, rest⟩
  | [c] => throw (if c == closer then .straysCloser else .straysOpener)

/-! ## Names of values -/

/-- A step from a value to another one. -/
inductive FieldStep
  /-- To an attribute. -/
  | attribute (name : List Char)
  /-- To the part under a key. -/
  | item (key : List Char)
deriving DecidableEq, Repr

/-- The number that characters write, if they are digits all of them. -/
def placeOf? (cs : List Char) : Except TemplateFault (Option Nat) :=
  match readAmount cs with
  | .ok (n, rest) => .ok (if rest.isEmpty then n else none)
  | .error _ => .error .tooManyDigits

/-- The name of a value, cut behind the argument that it begins with. -/
def splitName (cs : List Char) : List Char × List Char := cs.span fun c => c != '.' && c != '['

/-- The first step of a name, and what follows it. -/
def FieldStep.read (cs : List Char) : Except TemplateFault (FieldStep × List Char) :=
  match cs with
  | '.' :: cs =>
    let (name, rest) := splitName cs
    if name.isEmpty then .error .emptyStep else .ok (.attribute name, rest)
  | '[' :: cs =>
    match cs.span (· != ']') with
    | (_, []) => .error .openKey
    | (key, _ :: rest) => if key.isEmpty then .error .emptyStep else .ok (.item key, rest)
  | _ => .error .noStep

/-! ## Counting -/

/-- How the fields of a template choose among the arguments. -/
inductive Numbering
  /-- That is not known yet. -/
  | undecided
  /-- One after another; the next one is given. -/
  | counting (next : Nat)
  /-- By number. -/
  | numbered
deriving DecidableEq, Repr

namespace Numbering

/-- The place of the next argument, for a field without a number. -/
def count : Numbering → Except TemplateFault (Nat × Numbering)
  | undecided => .ok (0, counting 1)
  | counting n => .ok (n, counting (n + 1))
  | numbered => .error .countsAfterNumber

/-- How the fields choose, after one that has a number. -/
def number : Numbering → Except TemplateFault Numbering
  | counting _ => .error .numberAfterCount
  | _ => .ok numbered

end Numbering

/-! ## Laws -/

/-- A template without braces is one piece. -/
theorem TemplatePiece.read_plain (cs : List Char) (h : ∀ c ∈ cs, isPlainChar c = true) :
    TemplatePiece.read cs = .ok ⟨cs, none, []⟩ := by
  have front : cs.takeWhile isPlainChar = cs := by
    induction cs with
    | nil => rfl
    | cons c cs ih => simp [h c (by simp), ih fun d hd => h d (by simp [hd])]
  have rest : cs.dropWhile isPlainChar = [] := by
    induction cs with
    | nil => rfl
    | cons c cs ih =>
      have hc : isPlainChar c = true := h c (by simp)
      rw [List.dropWhile_cons, if_pos hc]
      refine ih (fun d hd => h d (by simp [hd])) ?_
      simpa [hc] using front
  simp [read, front, rest]
  rfl

end ValueShape
