import ValueShape.Text.Digits
import ValueShape.Text.Quoted

/-!
# Styles of fields

How a value is laid out inside a longer text.

* A `FieldStyle` has an alignment in a field of some width, a rule for signs, separators between
  digits, a precision and a form.  `FieldStyle.read` reads one.
* `FieldStyle.pad` fills a field, and `groupDigits` puts separators between digits.
* A `StyleFault` is what is wrong with a style, by itself or for the kind of value that it is used
  for; `StyleFault.message` is the text about it.
-/

set_option autoImplicit false

namespace ValueShape

/-- Where a value stands in a field that is wider than the value. -/
inductive Alignment
  /-- At the left end. -/
  | left
  /-- At the right end. -/
  | right
  /-- In the middle. -/
  | center
  /-- At the right end, apart from its sign, which is at the left end. -/
  | afterSign
deriving DecidableEq, Repr

/-- What stands in front of a number that is not negative. -/
inductive SignRule
  /-- Nothing. -/
  | negativeOnly
  /-- A plus. -/
  | always
  /-- A blank. -/
  | blank
deriving DecidableEq, Repr

/-- How a value is laid out in a field. -/
structure FieldStyle where
  /-- What a field is filled with. -/
  fill : Char
  /-- Where the value stands. -/
  alignment : Alignment
  /-- What stands in front of a number. -/
  sign : Option SignRule
  /-- Whether zero is written without a sign. -/
  unsignedZero : Bool
  /-- Whether the more explicit form is wanted. -/
  alternate : Bool
  /-- The least number of characters. -/
  width : Nat
  /-- What stands between groups of digits. -/
  separator : Option Char
  /-- The number of digits, or the greatest number of characters of a text. -/
  precision : Option Nat
  /-- The letter of the form. -/
  form : Option Char
deriving DecidableEq, Repr

/-- What is wrong with a style. -/
inductive StyleFault
  /-- A number has too many digits. -/
  | tooManyDigits
  /-- There are two separators. -/
  | twoSeparators
  /-- There is no number behind the point. -/
  | noPrecision
  /-- There is something behind the form. -/
  | malformed
  /-- The form has no groups of digits. -/
  | notSeparated (separator form : Char)
  /-- There is no such form. -/
  | unknownForm (form : Char)
  /-- A text has no sign. -/
  | signInText (rule : SignRule)
  /-- A text is no zero. -/
  | zeroInText
  /-- A text has no more explicit form. -/
  | alternateText
  /-- A text has no sign to stand in front. -/
  | signedText
  /-- An integer has no precision. -/
  | preciseInteger
  /-- An integer has no negative zero. -/
  | zeroInInteger
  /-- A character has no sign. -/
  | signedCharacter
  /-- A character has no more explicit form. -/
  | alternateCharacter
  /-- The precision is beyond all bounds. -/
  | tooPrecise
  /-- A complex number is filled with zeros. -/
  | zerosInComplex
  /-- A complex number has no sign to stand in front. -/
  | signedComplex
deriving DecidableEq, Repr

/-- A character as messages show it: by its code if it is not visible. -/
def shownForm (c : Char) : String :=
  if 32 < c.toNat && c.toNat < 128 then c.toString
  else "\\x" ++ String.ofList (Nat.toDigits 16 c.toNat)

namespace StyleFault

/-- The text about too many digits. -/
def tooManyDigitsText : String := "Too many decimal digits in format string"

/-- The text about a fault of the style `written` for a value of some class. -/
def message (written typeName : String) : StyleFault → String
  | tooManyDigits => tooManyDigitsText
  | twoSeparators => "Cannot specify both ',' and '_'."
  | noPrecision => "Format specifier missing precision"
  | malformed => "Invalid format specifier '" ++ written ++ "' for object of type '" ++ typeName ++ "'"
  | notSeparated separator form =>
    "Cannot specify '" ++ separator.toString ++ "' with '" ++ shownForm form ++ "'."
  | unknownForm form =>
    "Unknown format code '" ++ shownForm form ++ "' for object of type '" ++ typeName ++ "'"
  | signInText .blank => "Space not allowed in string format specifier"
  | signInText _ => "Sign not allowed in string format specifier"
  | zeroInText => "Negative zero coercion (z) not allowed in string format specifier"
  | alternateText => "Alternate form (#) not allowed in string format specifier"
  | signedText => "'=' alignment not allowed in string format specifier"
  | preciseInteger => "Precision not allowed in integer format specifier"
  | zeroInInteger => "Negative zero coercion (z) not allowed in integer format specifier"
  | signedCharacter => "Sign not allowed with integer format specifier 'c'"
  | alternateCharacter => "Alternate form (#) not allowed with integer format specifier 'c'"
  | tooPrecise => "precision too big"
  | zerosInComplex => "Zero padding is not allowed in complex format specifier"
  | signedComplex => "'=' alignment flag is not allowed in complex format specifier"

end StyleFault

/-! ## Reading

A style has many parts in a fixed order, and each of them may be left out. -/

/-- The alignment that a character stands for. -/
def Alignment.ofChar? : Char → Option Alignment
  | '<' => some .left
  | '>' => some .right
  | '^' => some .center
  | '=' => some .afterSign
  | _ => none

/-- The rule for signs that a character stands for. -/
def SignRule.ofChar? : Char → Option SignRule
  | '-' => some .negativeOnly
  | '+' => some .always
  | ' ' => some .blank
  | _ => none

/-- The greatest number that a style can hold. -/
def maxAmount : Nat := Nat.pow 2 63 - 1

/-- The value of decimal digits of any script, behind digits with the value `n`. -/
def amountOf (n : Nat) (cs : List Char) : Nat :=
  cs.foldl (fun n c => 10 * n + (decimalDigit? c).getD 0) n

/-- The number in front of characters, if there is one, and what follows it. -/
def readAmount (cs : List Char) : Except StyleFault (Option Nat × List Char) :=
  let ds := cs.takeWhile fun c => (decimalDigit? c).isSome
  let n := amountOf 0 ds
  if maxAmount < n then .error .tooManyDigits
  else .ok (if ds.isEmpty then none else some n, cs.drop ds.length)

/-- Takes a character away, if it is in front. -/
def takeMark (mark : Char) : List Char → Bool × List Char
  | c :: cs => if c == mark then (true, cs) else (false, c :: cs)
  | [] => (false, [])

/-- The separator in front of characters, and what follows it. -/
def readSeparator (cs : List Char) : Except StyleFault (Option Char × List Char) :=
  let (comma, cs) := takeMark ',' cs
  let (score, cs) := takeMark '_' cs
  if comma && score || score && cs.head? == some ',' then .error .twoSeparators
  else .ok (if comma then some ',' else if score then some '_' else none, cs)

/-- The alignment in front of characters, with the character to fill with. -/
def readAlignment (cs : List Char) : Option Char × Option Alignment × List Char :=
  match cs with
  | fill :: c :: rest =>
    match Alignment.ofChar? c, Alignment.ofChar? fill with
    | some a, _ => (some fill, some a, rest)
    | none, some a => (none, some a, c :: rest)
    | none, none => (none, none, cs)
  | [c] =>
    match Alignment.ofChar? c with
    | some a => (none, some a, [])
    | none => (none, none, cs)
  | [] => (none, none, [])

/-- The forms in which digits can be separated by any separator. -/
def separatedForms : List Char := ['d', 'e', 'f', 'g', 'E', 'G', '%', 'F']

/-- The forms that show digits of another base. -/
def baseForms : List Char := ['b', 'o', 'x', 'X']

namespace FieldStyle

/-- The first fault of a style with a separator for a form that has no groups of digits. -/
def separatorFault? (s : FieldStyle) : Option StyleFault :=
  match s.separator, s.form with
  | some c, some form =>
    if separatedForms.contains form || (c == '_' && baseForms.contains form) then none
    else some (.notSeparated c form)
  | _, _ => none

/-- Reads a style.  The alignment and the form are given for those that are not written. -/
def read (alignment : Alignment) (form : Option Char) (cs : List Char) :
    Except StyleFault FieldStyle := do
  let (fill, aligned, cs) := readAlignment cs
  let sign := cs.head?.bind SignRule.ofChar?
  let cs := if sign.isSome then cs.drop 1 else cs
  let (unsignedZero, cs) := takeMark 'z' cs
  let (alternate, cs) := takeMark '#' cs
  let (zeros, cs) := if fill.isNone then takeMark '0' cs else (false, cs)
  let (width, cs) ← readAmount cs
  let (separator, cs) ← readSeparator cs
  let (pointed, cs) := takeMark '.' cs
  let (precision, cs) ← if pointed then readAmount cs else .ok (none, cs)
  if pointed && precision.isNone then throw .noPrecision
  if 1 < cs.length then throw .malformed
  let afterSign := zeros && aligned.isNone && alignment == .right
  let style : FieldStyle :=
    { fill := fill.getD (if zeros then '0' else ' ')
      alignment := if afterSign then .afterSign else aligned.getD alignment
      sign, unsignedZero, alternate, separator, precision
      width := width.getD 0
      form := cs.head?.or form }
  match style.separatorFault? with
  | some fault => throw fault
  | none => return style

/-! ## Layout -/

/-- What fills a field on both sides of a value, and between its sign and the rest, given the number
of characters that are lacking. -/
def fillers (s : FieldStyle) (lack : Nat) : List Char × List Char × List Char :=
  let filler := fun (n : Nat) => List.replicate n s.fill
  match s.alignment with
  | .left => ([], [], filler lack)
  | .right => (filler lack, [], [])
  | .center => (filler (lack / 2), [], filler (lack - lack / 2))
  | .afterSign => ([], filler lack, [])

/-- A value in its field; `sign` is the part of it that may stand apart. -/
def pad (s : FieldStyle) (sign body : List Char) : List Char :=
  let (before, between, behind) := s.fillers (s.width - (sign.length + body.length))
  before ++ sign ++ between ++ body ++ behind

/-- A text in its field, as much of it as the precision allows. -/
def padText (s : FieldStyle) (cs : List Char) : List Char :=
  s.pad [] (s.precision.elim cs cs.take)

end FieldStyle

/-- Digits with a separator before each group of `size` digits but the first one. -/
def groupDigits (separator : Char) (size : Nat) : List Char → List Char
  | [] => []
  | d :: ds =>
    if !ds.isEmpty && ds.length % size == 0 then d :: separator :: groupDigits separator size ds
    else d :: groupDigits separator size ds

/-- How many digits fill a number of places, of which every one behind `size` others is taken by a
separator.  A separator does not stand in front. -/
def digitsThatFill (size places : Nat) : Nat := places - (places - 1) / (size + 1)

/-- Digits in groups, with zeros in front so that they fill a number of places. -/
def filledGroups (separator : Char) (size places : Nat) (ds : List Char) : List Char :=
  groupDigits separator size
    (List.replicate (digitsThatFill size places - ds.length) '0' ++ ds)

/-! ## Laws -/

/-- Taking the separators away gives the digits back. -/
theorem filter_groupDigits (separator : Char) (size : Nat) (ds : List Char)
    (h : ∀ d ∈ ds, d ≠ separator) :
    (groupDigits separator size ds).filter (· != separator) = ds := by
  induction ds with
  | nil => rfl
  | cons d ds ih =>
    have hd : d ≠ separator := h d (by simp)
    have hds := ih fun e he => h e (by simp [he])
    rw [groupDigits]
    split <;> simp [hd, hds]

end ValueShape
