import ValueShape.Number.Arithmetic
import ValueShape.Number.Rounded
import ValueShape.Text.FieldStyle

/-!
# Numbers in a style

Integers, doubles and complex numbers as they stand in a field.

* `FieldStyle.number` lays out the parts of a number: its sign, its digits in groups, and the rest.
  A field that is filled with zeros behind the sign has them among the digits.
* `FieldStyle.ofDigits`, `FieldStyle.ofDouble` and `FieldStyle.ofComplex` write a number in the form of a
  style, or tell what is wrong with the style.
-/

set_option autoImplicit false

namespace ValueShape

/-- The digits of a natural number in a base, with the mark of the base. -/
def digitsIn (form : Char) (n : Nat) : List Char × List Char :=
  match form with
  | 'b' => (['0', 'b'], Nat.toDigits 2 n)
  | 'o' => (['0', 'o'], Nat.toDigits 8 n)
  | 'x' => (['0', 'x'], Nat.toDigits 16 n)
  | 'X' => (['0', 'X'], (Nat.toDigits 16 n).map Char.toUpper)
  | _ => ([], Nat.toDigits 10 n)

/-- A written number in capital letters. -/
def WrittenNumber.capital (w : WrittenNumber) : WrittenNumber :=
  { w with rest := w.rest.map Char.toUpper }

namespace FieldStyle

/-! ## Layout -/

/-- The sign in front of a number. -/
def signOf (s : FieldStyle) (negative : Bool) : List Char :=
  if negative then ['-']
  else match s.sign with
    | some .always => ['+']
    | some .blank => [' ']
    | _ => []

/-- The number of digits in a group. -/
def groupSize (s : FieldStyle) : Nat := if s.form.any baseForms.contains then 4 else 3

/-- A number in its field. -/
def number (s : FieldStyle) (w : WrittenNumber) : List Char :=
  let sign := s.signOf w.negative ++ w.mark
  let places :=
    if s.fill == '0' && s.alignment == .afterSign then s.width - (sign.length + w.rest.length) else 0
  let whole :=
    if w.whole.isEmpty then []
    else match s.separator with
      | some c => filledGroups c s.groupSize places w.whole
      | none => w.whole.leftpad places '0'
  s.pad sign (whole ++ w.rest)

/-! ## Doubles -/

/-- The form of a double that a letter stands for. -/
def doubleForm? : Option Char → Option DoubleForm
  | none => some .shortest
  | some 'e' | some 'E' => some .exponent
  | some 'f' | some 'F' | some '%' => some .places
  | some 'g' | some 'G' | some 'n' => some .digits
  | _ => none

/-- The greatest precision. -/
def maxPrecision : Nat := Nat.pow 2 31 - 1

/-- A double in the form of a style.  Without a letter there are as few digits as possible, or so many
as the precision says, and a decimal place at least if `pointed` says so. -/
def doubleParts (s : FieldStyle) (pointed : Bool) (bits : UInt64) :
    Except StyleFault WrittenNumber := do
  let some form := doubleForm? s.form | throw (.unknownForm (s.form.getD ' '))
  if s.precision.any (maxPrecision < ·) then throw .tooPrecise
  let style : DoubleStyle :=
    { form := if form = .shortest && s.precision.isSome then .digits else form
      precision := s.precision.getD 6
      alternate := s.alternate
      pointed := pointed && form = .shortest
      unsignedZero := s.unsignedZero }
  let percent := s.form == some '%'
  let hundred := (Double.ofInt? 100).getD 0
  let w := style.write (if percent then Double.combine (· * ·) bits hundred else bits)
  let w := if percent then { w with rest := w.rest ++ ['%'] } else w
  return if s.form.any Char.isUpper then w.capital else w

/-- A double in its field. -/
def ofDouble (s : FieldStyle) (bits : UInt64) : Except StyleFault (List Char) := do
  return s.number (← s.doubleParts true bits)

/-! ## Complex numbers -/

/-- A complex number in its field.  Both parts have the form of the style, and the imaginary one
always a sign.  Without a letter there are parentheses around them, and a real part that is the
positive zero is left out. -/
def ofComplex (s : FieldStyle) (re im : UInt64) : Except StyleFault (List Char) := do
  if (doubleForm? s.form).isNone || s.form == some '%' then
    throw (.unknownForm (s.form.getD ' '))
  if s.precision.any (maxPrecision < ·) then throw .tooPrecise
  if s.fill == '0' then throw .zerosInComplex
  if s.alignment == .afterSign then throw .signedComplex
  let part : FieldStyle := { s with width := 0 }
  let alone := s.form.isNone && re == Double.zero false
  let real := part.number (← part.doubleParts false re)
  let imaginary := ({ part with sign := if alone then s.sign else some .always } : FieldStyle).number
    (← part.doubleParts false im)
  let body := (if alone then [] else real) ++ imaginary ++ ['j']
  return s.pad [] (if s.form.isNone && !alone then '(' :: body ++ [')'] else body)

/-! ## Integers -/

/-- An integer in its field, in one of the forms of integers that are written with digits. -/
def ofDigits (s : FieldStyle) (n : Int) : List Char :=
  let (mark, ds) := digitsIn (s.form.getD 'd') n.natAbs
  s.number ⟨decide (n < 0), if s.alternate then mark else [], ds, []⟩

/-- What is wrong with a style for an integer, if anything. -/
def intFault? (s : FieldStyle) : Option StyleFault :=
  let isCharacter := s.form == some 'c'
  if s.precision.isSome then some .preciseInteger
  else if s.unsignedZero then some .zeroInInteger
  else if isCharacter && s.sign.isSome then some .signedCharacter
  else if isCharacter && s.alternate then some .alternateCharacter
  else none

end FieldStyle

/-! ## Laws -/

/-- An integer in a field of no width, without separators, is its digits behind its sign. -/
theorem FieldStyle.number_of_width_zero (s : FieldStyle) (w : WrittenNumber) (hw : s.width = 0)
    (hs : s.separator = none) :
    s.number w = s.signOf w.negative ++ w.mark ++ w.whole ++ w.rest := by
  unfold number pad fillers
  cases s.alignment <;> by_cases h : w.whole = [] <;> simp [hw, hs, h, List.leftpad]

end ValueShape
