import ValueShape.Number.Written

/-!
# Rounded decimals

Doubles that are written with a given number of digits.

* `Decimal.withPlaces m q n` is the multiple of `10 ^ -n` next to the double `m · 2 ^ q`, and
  `Decimal.withDigits m q n` the decimal of `n` significant digits next to it.  Of two that are as
  near, the even one is taken.
* A `DoubleForm` says how many digits there are, and whether there is an exponent.
  `DoubleStyle.write` writes a double in a style, cut into sign, whole part and rest, so that more can
  be put between them.
-/

set_option autoImplicit false

namespace ValueShape

/-! ## Rounding -/

/-- The double `m · 2 ^ q` rounded to so many decimal places. -/
def Decimal.withPlaces (m : Nat) (q : Int) (places : Nat) : Decimal :=
  ⟨Double.roundQuotient (m * Nat.pow 2 q.toNat * Nat.pow 10 places) (Nat.pow 2 (-q).toNat), -places⟩

/-- The double `m · 2 ^ q`, with `m ≠ 0`, rounded to so many significant digits. -/
def Decimal.withDigits (m : Nat) (q : Int) (count : Nat) : Decimal :=
  let num := m * Nat.pow 2 q.toNat
  let den := Nat.pow 2 (-q).toNat
  let e := leadingPosition num den - count
  let d := Double.roundQuotient (num * Nat.pow 10 (-e).toNat) (den * Nat.pow 10 e.toNat)
  if d = Nat.pow 10 count then ⟨d / 10, e + 1⟩ else ⟨d, e⟩

/-! ## Forms -/

/-- How many digits of a double are written, and whether there is an exponent. -/
inductive DoubleForm
  /-- So many decimal places, without an exponent. -/
  | places
  /-- One digit before the point and so many behind it, with an exponent. -/
  | exponent
  /-- So many significant digits, with an exponent if the number is very large or small. -/
  | digits
  /-- The fewest digits that read back, with an exponent if the number is very large or small. -/
  | shortest
deriving DecidableEq, Repr

/-- What is wanted of a written double besides its form. -/
structure DoubleStyle where
  /-- The form. -/
  form : DoubleForm
  /-- The number of digits that the form is about. -/
  precision : Nat
  /-- Whether the point and the zeros at the end are kept. -/
  alternate : Bool
  /-- Whether a number without an exponent has a decimal place at least. -/
  pointed : Bool
  /-- Whether zero is written without a sign. -/
  unsignedZero : Bool
deriving DecidableEq, Repr

/-- A written number, in parts. -/
structure WrittenNumber where
  /-- Whether there is a minus in front. -/
  negative : Bool
  /-- The mark of the base. -/
  mark : List Char
  /-- The digits before the point. -/
  whole : List Char
  /-- All that follows. -/
  rest : List Char
deriving DecidableEq, Repr

/-- Digits with the place of the point among them, and how many of them have to be written. -/
structure PlacedDigits where
  /-- The digits. -/
  digits : List Char
  /-- The number of digits before the point, which may be negative. -/
  point : Int
  /-- The number of digits to be written; there are zeros for those that are lacking. -/
  count : Int
deriving DecidableEq, Repr

namespace PlacedDigits

/-- The digits of a decimal. -/
def ofDecimal (d : Decimal) : PlacedDigits :=
  let ds := Nat.toDigits 10 d.digits
  ⟨ds, ds.length + d.exponent, ds.length⟩

/-- The digit at a place. -/
def digitAt (p : PlacedDigits) (n : Int) : Char :=
  if n < 0 then '0' else p.digits.getD n.toNat '0'

/-- The digits before the point, of which there is one at least. -/
def whole (p : PlacedDigits) : List Char :=
  if p.point ≤ 0 then ['0'] else (List.range p.point.toNat).map fun (n : Nat) => p.digitAt n

/-- The digits behind the point. -/
def fraction (p : PlacedDigits) : List Char :=
  (List.range (p.count - p.point).toNat).map fun (n : Nat) => p.digitAt (p.point + n)

/-- Whether there is no digit but zeros. -/
def isZero (p : PlacedDigits) : Bool := p.digits.all (· == '0')

end PlacedDigits

namespace DoubleStyle

/-- The digits of the double `m · 2 ^ q` in a style. -/
def placedDigits (s : DoubleStyle) (m : Nat) (q : Int) : PlacedDigits :=
  let significant := fun (count : Nat) =>
    if m = 0 then (⟨0, 0⟩ : Decimal) else Decimal.withDigits m q count
  match s.form with
  | .places =>
    let p := PlacedDigits.ofDecimal (Decimal.withPlaces m q s.precision)
    { p with count := p.point + s.precision }
  | .exponent =>
    { PlacedDigits.ofDecimal (significant (s.precision + 1)) with count := s.precision + 1 }
  | .digits =>
    let count := max s.precision 1
    let d := significant count
    if s.alternate then { PlacedDigits.ofDecimal d with count := count }
    else PlacedDigits.ofDecimal (d.trim count)
  | .shortest => PlacedDigits.ofDecimal (if m = 0 then ⟨0, 0⟩ else shortestDecimal m q)

/-- Whether digits are written with an exponent. -/
def hasExponent (s : DoubleStyle) (p : PlacedDigits) : Bool :=
  let highest : Int := if s.form = .shortest then 16
    else max s.precision 1 - (if s.pointed then 1 else 0)
  match s.form with
  | .places => false
  | .exponent => true
  | .digits | .shortest => p.point ≤ -4 || highest < p.point

/-- A double in a style. -/
def write (s : DoubleStyle) (bits : UInt64) : WrittenNumber :=
  match Double.decode bits with
  | .nan => ⟨false, [], [], "nan".toList⟩
  | .infinite negative => ⟨negative, [], [], "inf".toList⟩
  | .finite negative m q =>
    let p := s.placedDigits m q
    let (placed, exponent) :=
      if s.hasExponent p then ({ p with point := 1 }, doubleFormat.exponent (p.point - 1))
      else if s.pointed then ({ p with count := max p.count (p.point + 1) }, [])
      else (p, [])
    let fraction := placed.fraction
    ⟨negative && !(s.unsignedZero && p.isZero), [], placed.whole,
      (if fraction.isEmpty && !s.alternate then [] else '.' :: fraction) ++ exponent⟩

end DoubleStyle

/-! ## Laws -/

/-- There is always a digit before the point. -/
theorem PlacedDigits.whole_ne_nil (p : PlacedDigits) : p.whole ≠ [] := by
  unfold whole
  split
  · simp
  · rename_i h
    simp [List.range_eq_nil]
    omega

end ValueShape
