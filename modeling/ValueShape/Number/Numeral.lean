import ValueShape.Number.Double
import ValueShape.Text.Digits

/-!
# Numerals

The numbers that texts stand for.

* `readInt?` reads an integer in decimal, `readDouble?` a double, and `readComplex?` a complex
  number as its real and its imaginary part.
* Blanks may stand around a numeral, digits may come from any script, and a single underscore may
  stand between two digits.
* A decimal is rounded to the nearest double; one that is too large becomes infinite.
-/

set_option autoImplicit false

namespace ValueShape

/-! ## Digits -/

/-- Whether a character is an ASCII digit. -/
def isPlainDigit (c : Char) : Bool := '0' ≤ c && c ≤ '9'

/-- The number that ASCII digits write, continuing one that was begun. -/
def digitsValue (begun : Nat) (ds : List Char) : Nat :=
  ds.foldl (fun n d => n * 10 + (d.toNat - '0'.toNat)) begun

/-- Characters without their underscores, each of which has to stand between two digits; `last` is
the character before. -/
def withoutUnderscores? (last : Char) : List Char → Option (List Char)
  | [] => if last == '_' then none else some []
  | c :: cs =>
    if c == '_' then
      if isPlainDigit last then withoutUnderscores? c cs else none
    else if last == '_' && !isPlainDigit c then none
    else (c :: ·) <$> withoutUnderscores? c cs

/-- Characters without a sign in front, and whether it was a minus. -/
def splitSign : List Char → Bool × List Char
  | '-' :: cs => (true, cs)
  | '+' :: cs => (false, cs)
  | cs => (false, cs)

/-! ## Integers -/

/-- The most digits that an integer is read from. -/
def maxNumeralDigits : Nat := 4300

/-- The digits of an integer numeral after its sign, and whether that is a minus. -/
def integerDigits? (cs : List Char) : Option (Bool × List Char) := do
  let (negative, ds) := splitSign (plainNumeral cs)
  let ds ← withoutUnderscores? ' ' ds
  if ds.isEmpty || !ds.all isPlainDigit then none else some (negative, ds)

/-- The digits that an integer numeral begins with, after its sign. -/
def leadingDigits (cs : List Char) : List Char :=
  let run := (splitSign (plainNumeral cs)).2.takeWhile fun c => isPlainDigit c || c == '_'
  (withoutUnderscores? ' ' run).getD []

/-- The integer that characters write in decimal. -/
def readInt? (cs : List Char) : Option Int :=
  (integerDigits? cs).map fun (negative, ds) =>
    if negative then -(digitsValue 0 ds : Int) else digitsValue 0 ds

/-! ## Doubles -/

/-- The double nearest to `± digits · 10 ^ exponent`.  Beyond the range of doubles the power itself
is not computed. -/
def decimalDouble (negative : Bool) (digits : Nat) (exponent : Int) : UInt64 :=
  let size : Int := (Nat.toDigits 10 digits).length + exponent
  if digits == 0 || size < -400 then Double.zero negative
  else if 400 < size then Double.infinity negative
  else
    let num := digits * Nat.pow 10 exponent.toNat
    let den := Nat.pow 10 (-exponent).toNat
    (Double.nearest? negative num den).getD (Double.infinity negative)

/-- What follows a word, in letters of either case, at the front of characters. -/
def afterWord? (word cs : List Char) : Option (List Char) :=
  if (cs.take word.length).map Char.toLower == word then some (cs.drop word.length) else none

/-- An exponent at the front of characters; without one, nothing is read. -/
def scanExponent (cs : List Char) : Int × List Char :=
  match cs with
  | c :: rest =>
    if c.toLower == 'e' then
      let (negative, rest) := splitSign rest
      let ds := rest.takeWhile isPlainDigit
      let n : Int := digitsValue 0 ds
      if ds.isEmpty then (0, cs) else (if negative then -n else n, rest.dropWhile isPlainDigit)
    else (0, cs)
  | [] => (0, [])

/-- A double at the front of characters without underscores, and what follows it. -/
def scanDouble? (cs : List Char) : Option (UInt64 × List Char) :=
  let (negative, cs) := splitSign cs
  match afterWord? "infinity".toList cs, afterWord? "inf".toList cs, afterWord? "nan".toList cs with
  | some rest, _, _ | none, some rest, _ => some (Double.infinity negative, rest)
  | none, none, some rest =>
    some (if negative then Double.quietNaN + Double.zero true else Double.quietNaN, rest)
  | none, none, none =>
    let whole := cs.takeWhile isPlainDigit
    let (part, rest) := match cs.dropWhile isPlainDigit with
      | '.' :: rest => (rest.takeWhile isPlainDigit, rest.dropWhile isPlainDigit)
      | rest => ([], rest)
    if whole.isEmpty && part.isEmpty then none
    else
      let (exponent, rest) := scanExponent rest
      let digits := digitsValue (digitsValue 0 whole) part
      some (decimalDouble negative digits (exponent - part.length), rest)

/-- The double that characters write. -/
def readDouble? (cs : List Char) : Option UInt64 := do
  match ← scanDouble? (← withoutUnderscores? ' ' (plainNumeral cs)) with
  | (bits, []) => some bits
  | _ => none

/-! ## Complex numbers -/

/-- Whether a character marks an imaginary part. -/
def isImaginaryMark (c : Char) : Bool := c == 'j' || c == 'J'

/-- An imaginary part up to the end of characters.  Its digits may be left out. -/
def scanImaginary? (cs : List Char) : Option UInt64 :=
  match scanDouble? cs with
  | some (bits, [c]) => if isImaginaryMark c then some bits else none
  | some _ => none
  | none =>
    match splitSign cs with
    | (negative, [c]) =>
      if isImaginaryMark c then some (decimalDouble negative 1 0) else none
    | _ => none

/-- The characters inside a pair of parentheses, if there is one around them. -/
def withoutParentheses? (cs : List Char) : Option (List Char) :=
  match cs with
  | '(' :: rest =>
    match rest.reverse with
    | ')' :: inner => some (trimBlanks inner.reverse)
    | _ => none
  | cs => some cs

/-- Characters up to the first one outside ASCII that is neither a digit nor a blank, which stands
as a question mark.  Characters that are all in ASCII stay as they are; among others, the last
character of ASCII does not count as one of it. -/
def comparable (cs : List Char) : List Char :=
  if cs.all fun c => c.toNat < 0x80 then cs else reduced cs
where
  /-- The characters up to the first odd one. -/
  reduced : List Char → List Char
    | [] => []
    | c :: cs =>
      if c.toNat < 0x7f then c :: reduced cs
      else if isBlank c then ' ' :: reduced cs
      else match decimalDigit? c with
        | some d => d.digitChar :: reduced cs
        | none => ['?']

/-- Whether characters have an underscore that does not stand between two digits.  If a null
character follows, no underscore stands where it should. -/
def hasStrayUnderscore (cs : List Char) : Bool :=
  let cs := comparable cs
  let begun := cs.takeWhile (· != '\x00')
  begun.contains '_' &&
    (begun.length != cs.length || (withoutUnderscores? ' ' (plainNumeral begun)).isNone)

/-- The complex number that characters write, as its two parts. -/
def readComplex? (cs : List Char) : Option (UInt64 × UInt64) := do
  let cs ← withoutParentheses? (← withoutUnderscores? ' ' (plainNumeral cs))
  match scanDouble? cs with
  | some (re, []) => some (re, Double.zero false)
  | some (re, rest) =>
    match rest with
    | [c] => if isImaginaryMark c then some (Double.zero false, re) else none
    | c :: _ => if c == '+' || c == '-' then (re, ·) <$> scanImaginary? rest else none
    | [] => none
  | none => (Double.zero false, ·) <$> scanImaginary? cs

end ValueShape
