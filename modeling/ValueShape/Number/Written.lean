import ValueShape.Number.Shortest

/-!
# Written numbers

How integers and doubles are written inside a rendering.

* `writeDouble` writes the shortest decimal that reads back.  It is positional as long as its
  leading digit stands between the places `10 ^ -4` and `10 ^ 15`, and then a whole number ends in
  `.0`; otherwise there is one digit before the point, and an exponent with a sign and at least two
  digits.
* `writeComplex` writes a complex number without the parts `.0`.  The real part is left out if it is
  the positive zero.
* `writeInt?` writes an integer, and refuses one of more than 4300 digits.
-/

set_option autoImplicit false

namespace ValueShape

/-- The choices of a decimal format. -/
structure DecimalFormat where
  /-- The lowest decimal exponent that is still written positionally. -/
  lowest : Int
  /-- The highest decimal exponent that is still written positionally. -/
  highest : Int
  /-- The least number of exponent digits. -/
  exponentDigits : Nat

/-- Doubles are positional from `0.0001` up to sixteen digits before the point. -/
def doubleFormat : DecimalFormat := ⟨-4, 15, 2⟩

/-- An exponent, with its sign and padded with zeros. -/
def DecimalFormat.exponent (f : DecimalFormat) (e : Int) : List Char :=
  let ds := Nat.toDigits 10 e.natAbs
  'e' :: (if e < 0 then '-' else '+') :: List.replicate (f.exponentDigits - ds.length) '0' ++ ds

/-- A decimal in this format. -/
def DecimalFormat.write (f : DecimalFormat) (d : Decimal) : List Char :=
  let ds := Nat.toDigits 10 d.digits
  let point : Int := ds.length + d.exponent
  if f.lowest < point ∧ point ≤ f.highest + 1 then
    if point ≤ 0 then '0' :: '.' :: List.replicate (-point).toNat '0' ++ ds
    else if ds.length ≤ point.toNat then
      ds ++ List.replicate (point.toNat - ds.length) '0' ++ ['.', '0']
    else ds.take point.toNat ++ '.' :: ds.drop point.toNat
  else
    (match ds with
      | [] => []
      | [c] => [c]
      | c :: cs => c :: '.' :: cs) ++ f.exponent (point - 1)

/-- A double, written with the fewest digits that read back. -/
def writeDouble (bits : UInt64) : List Char :=
  match Double.decode bits with
  | .nan => "nan".toList
  | .infinite negative => if negative then "-inf".toList else "inf".toList
  | .finite negative m q =>
    let body := if m = 0 then "0.0".toList else doubleFormat.write (shortestDecimal m q)
    if negative then '-' :: body else body

/-- A double, without the part that only says that it is whole. -/
def writePart (bits : UInt64) : List Char :=
  let cs := writeDouble bits
  if ['.', '0'].isSuffixOf cs then cs.take (cs.length - 2) else cs

/-- A complex number, given by its two parts. -/
def writeComplex (re im : UInt64) : List Char :=
  let imaginary := writePart im ++ ['j']
  if re == 0 then imaginary
  else
    let sign := match imaginary with
      | '-' :: _ => []
      | _ => ['+']
    '(' :: writePart re ++ sign ++ imaginary ++ [')']

/-- The most digits that an integer is written with. -/
def maxIntDigits : Nat := 4300

/-- An integer in decimal, or nothing when it has too many digits. -/
def writeInt? (n : Int) : Option (List Char) :=
  if Nat.pow 10 maxIntDigits ≤ n.natAbs then none
  else
    let ds := Nat.toDigits 10 n.natAbs
    some (if n < 0 then '-' :: ds else ds)

end ValueShape
