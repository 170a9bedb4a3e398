import ValueShape.Member.Object
import ValueShape.Number.Styled

/-!
# Values in fields

How a value stands inside a longer text if a style is given for it.

* `Run.formatText` and `Run.formatNumber` are the methods of texts and numbers for this; the methods of
  other kinds know no styles.  `Run.formatBy` chooses among them.
* `Run.formatIn` goes by the method of the class of a value.
-/

set_option autoImplicit false

namespace ValueShape

namespace Run

/-- What a style gives for an object, unless there is something wrong with it. -/
def styled {α : Type} (v : Value) (how : String) (result : Except StyleFault α) : Run α := do
  match result with
  | .ok a => return a
  | .error fault =>
    throw (.badValue (fault.message how (Failure.briefly ((← heap).qualifiedTypeName v))))

/-! ## Texts -/

/-- What is wrong with a style for a text, if anything. -/
def textFault? (s : FieldStyle) : Option StyleFault :=
  if s.form != some 's' then some (.unknownForm (s.form.getD ' '))
  else match s.sign with
    | some rule => some (.signInText rule)
    | none =>
      if s.unsignedZero then some .zeroInText
      else if s.alternate then some .alternateText
      else if s.alignment = .afterSign then some .signedText
      else none

/-- A text in its field.  One that fills the field stands for itself. -/
def formatText (v : Value) (how : String) : Run Value := do
  let s ← styled v how (FieldStyle.read .left (some 's') how.toList)
  discard <| styled v how ((textFault? s).elim (.ok ()) .error)
  let cs := (v.text?.getD "").toList
  let fits := s.width ≤ cs.length && s.precision.all (cs.length ≤ ·)
  if fits && !cs.isEmpty then return v
  if maxListLength ≤ s.width then throw .noMemory
  newText (String.ofList (s.padText cs))

/-! ## Numbers -/

/-- The greatest code point. -/
def maxCodePoint : Int := 0x10ffff

/-- The failure of an integer that is no code point. -/
def noCodePoint : Failure := .tooLarge "%c arg not in range(0x110000)"

/-- The character with the given code point. -/
def characterAt (n : Int) : Run Char := do
  if 0 ≤ n && n ≤ maxCodePoint then return Char.ofNat n.toNat
  throw noCodePoint

/-- An integer in its field. -/
def styledInt (v : Value) (how : String) (s : FieldStyle) (n : Int) : Run (List Char) := do
  match s.form with
  | some 'b' | some 'c' | some 'd' | some 'o' | some 'x' | some 'X' | some 'n' =>
    discard <| styled v how (s.intFault?.elim (.ok ()) .error)
    if s.form == some 'c' then
      if maxIndex ≤ n.natAbs then throw (.tooLarge "Python int too large to convert to C long")
      return s.number ⟨false, [], [← characterAt n], []⟩
    let isDecimal := s.form == some 'd' || s.form == some 'n'
    if isDecimal && (writeInt? n).isNone then throw .tooManyDigits
    return s.ofDigits n
  | form =>
    if (FieldStyle.doubleForm? form).isNone then
      styled v how (.error (.unknownForm (form.getD ' ')))
    else styled v how (s.ofDouble (← intToDouble n))

/-- A number in its field. -/
def formatNumber (v : Value) (how : String) : Run Value := do
  let read := fun (form : Option Char) => do
    let s ← styled v how (FieldStyle.read .right form how.toList)
    if maxListLength ≤ s.width then throw .noMemory
    return s
  match v.numeric? with
  | some (.int n) =>
    let s ← read (some 'd')
    newText (String.ofList (← styledInt v how s n))
  | some (.double bits) => do
    let s ← read none
    newText (String.ofList (← styled v how (s.ofDouble bits)))
  | some (.complex re im) => do
    let s ← read none
    newText (String.ofList (← styled v how (s.ofComplex re im)))
  | none => plainForm v

/-! ## Methods -/

/-- The form of an object in a field, by the method of a kind. -/
def formatBy (k : Kind) (v how : Value) : Run Value := do
  match how.text?, k with
  | some "", _ => formatObject v how
  | some s, .text => formatText v s
  | some s, .int | some s, .float | some s, .complex => formatNumber v s
  | _, _ => formatObject v how

/-- How a value stands inside a longer text, in a style. -/
def formatIn (how : String) (v : Value) : Run Value := do
  let h ← heap
  let how ← newText how
  match h.inherited? (h.classOf v) Method.format.name with
  | some (.assigned (.field k _)) => formatBy k v how
  | some (.assigned method) =>
    let result ← callBound method v [how]
    if result.text?.isSome then return result
    throw (.badType (Method.format.name ++ " must return a str, not " ++
      Failure.briefly ((← heap).qualifiedTypeName result)))
  | _ => formatObject v how

end Run

end ValueShape
