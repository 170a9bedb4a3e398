import ValueShape.Member.Bytes
import ValueShape.Member.Template

/-!
# Interpolation

Values put into a text or bytes in the places of directives, which begin with a percent sign.

* A `Directive` says how a value is written and laid out.  `Directive.layout` is what stands in its
  place.
* A `Supply` holds the values: those of a tuple one after another, or a single one, or those of a
  mapping by name.
* `Run.interpolate` is the whole.  Bytes are taken for the characters with their codes.
-/

set_option autoImplicit false

namespace ValueShape

/-! ## Directives

A directive says how one value is written.  It has marks, a width, a precision and a letter, and may
take the numbers among these from the values. -/

/-- How a value is written in the place of a directive. -/
structure Directive where
  /-- Whether it stands at the left end of its field. -/
  left : Bool
  /-- Whether a number that is not negative has a plus. -/
  plus : Bool
  /-- Whether a number that is not negative has a blank instead. -/
  blank : Bool
  /-- Whether the more explicit form is wanted. -/
  alternate : Bool
  /-- Whether a field is filled with zeros in front of a number. -/
  zeros : Bool
  /-- The least number of characters. -/
  width : Nat
  /-- The number of digits, or the greatest number of characters. -/
  precision : Option Nat
  /-- Whether a width or a precision is written right in front of the letter. -/
  measured : Bool
  /-- The letter of the form. -/
  letter : Char
deriving DecidableEq, Repr

namespace Directive

/-- The directive with the given marks, and without anything else. -/
def ofMarks (marks : List Char) : Directive where
  left := marks.contains '-'
  plus := marks.contains '+'
  blank := marks.contains ' '
  alternate := marks.contains '#'
  zeros := marks.contains '0'
  width := 0
  precision := none
  measured := false
  letter := ' '

/-- Whether the form has digits of a base with a mark. -/
def isBased (d : Directive) : Bool := ['o', 'x', 'X'].contains d.letter

/-- The sign in front of a written number, and the rest of it. -/
def splitSign (d : Directive) (cs : List Char) : List Char × List Char :=
  match cs with
  | '-' :: cs => (['-'], cs)
  | cs => (if d.plus then ['+'] else if d.blank then [' '] else [], cs)

/-- A written value in its field. -/
def layout (d : Directive) (isNumber : Bool) (cs : List Char) : List Char :=
  let (sign, body) := if isNumber then d.splitSign cs else ([], cs)
  let mark := if isNumber && d.alternate && d.isBased then body.take 2 else []
  let front := sign ++ mark
  let body := body.drop mark.length
  let lack := d.width - (front.length + body.length)
  if d.left then front ++ body ++ List.replicate lack ' '
  else if isNumber && d.zeros then front ++ List.replicate lack '0' ++ body
  else List.replicate lack ' ' ++ front ++ body

/-- As much of a text as the precision allows. -/
def shorten {α : Type} (d : Directive) (cs : List α) : List α := d.precision.elim cs cs.take

/-- An integer, with as many digits as the precision says. -/
def writeInt (d : Directive) (n : Int) : List Char :=
  let (mark, ds) := digitsIn d.letter n.natAbs
  (if n < 0 then ['-'] else []) ++ (if d.alternate then mark else []) ++
    ds.leftpad (d.precision.getD 0) '0'

/-- A double, in the form that the letter stands for. -/
def writeDouble (d : Directive) (bits : UInt64) : List Char :=
  let style : DoubleStyle :=
    { form := (FieldStyle.doubleForm? (some d.letter)).getD .shortest
      precision := d.precision.getD 6
      alternate := d.alternate
      pointed := false
      unsignedZero := false }
  let w := style.write bits
  let w := if d.letter.isUpper then w.capital else w
  (if w.negative then ['-'] else []) ++ w.whole ++ w.rest

end Directive

/-- What values are put into. -/
inductive Medium
  /-- A text. -/
  | text
  /-- Bytes. -/
  | bytes
deriving DecidableEq, Repr

/-- The values that are put in. -/
structure Supply where
  /-- Those that are left. -/
  rest : List Value
  /-- The mapping that holds those that are known by name. -/
  named : Option Value

/-- The values that an operand holds. -/
def Supply.ofOperand (h : Heap) (m : Medium) (v : Value) : Supply :=
  match Heap.tuple? v with
  | some items => ⟨items, none⟩
  | none =>
    let isText := v.text?.isSome || (m == .bytes && (h.bytes? v).isSome)
    let hasItems := match h.slot? .item v with
      | some (.native k) => k != .queue
      | slot => slot.isSome
    ⟨[v], if hasItems && !isText then some v else none⟩

/-- The key of a value in front of characters, up to the parenthesis that closes it, and what
follows. -/
def cutKey? : Nat → List Char → Option (List Char × List Char)
  | _, [] => none
  | depth, c :: cs =>
    if c == ')' && depth == 0 then some ([], cs)
    else
      let depth := if c == '(' then depth + 1 else if c == ')' then depth - 1 else depth
      (cutKey? depth cs).map fun p => (c :: p.1, p.2)

namespace Run

/-! ## Reading -/

/-- The next value. -/
def nextValue (s : Supply) : Run (Value × Supply) :=
  match s.rest with
  | v :: rest => return (v, { s with rest })
  | [] => throw (.badType "not enough arguments for format string")

/-- The value that a directive names, as the only one that is left. -/
def namedSupply (m : Medium) (s : Supply) (cs : List Char) : Run (Supply × List Char) := do
  match s.named, cs with
  | none, '(' :: _ => throw (.badType "format requires a mapping")
  | some mapping, '(' :: cs =>
    match cutKey? 0 cs with
    | none => throw (.badValue "incomplete format key")
    | some (key, rest) =>
      let key ← match m with
        | .text => newText (String.ofList key)
        | .bytes => identified (.scalar (.kind .bytes) unidentified
            (.bytes (key.map fun c => UInt8.ofNat c.toNat)))
      return ({ s with rest := [← item mapping key] }, rest)
  | _, cs => return (s, cs)

/-- The integer that a directive takes from the values instead of naming it. -/
def givenAmount (s : Supply) : Run (Int × Supply) := do
  let (v, s) ← nextValue s
  match v.index? with
  | some n => return (n, s)
  | none => throw (.badType "* wants int")

/-- The number in front of characters, which must not be greater than `most`. -/
def writtenAmount (most : Nat) (tooBig : String) (cs : List Char) : Run (Nat × List Char) := do
  let ds := cs.takeWhile Char.isDigit
  let n := amountOf 0 ds
  if most < n then throw (.badValue tooBig)
  return (n, cs.drop ds.length)

/-- The width of a directive. -/
def readWidth (d : Directive) (s : Supply) (cs : List Char) :
    Run (Directive × Supply × List Char) := do
  match cs with
  | '*' :: rest =>
    let (n, s) ← givenAmount s
    if !(-(maxIndex : Int) ≤ n && n < maxIndex) then
      throw (.tooLarge "Python int too large to convert to C ssize_t")
    return ({ d with width := n.natAbs, left := d.left || decide (n < 0) }, s, rest)
  | cs =>
    let (n, rest) ← writtenAmount maxAmount "width too big" cs
    return ({ d with width := n, measured := cs.head?.any Char.isDigit }, s, rest)

/-- The precision of a directive, behind a point. -/
def readPrecision (m : Medium) (d : Directive) (s : Supply) (cs : List Char) :
    Run (Directive × Supply × List Char) := do
  let most := FieldStyle.maxPrecision
  match cs with
  | '.' :: '*' :: rest =>
    let (n, s) ← givenAmount s
    if (most : Int) < n || n < -(most : Int) - 1 then
      throw (.tooLarge "Python int too large to convert to C int")
    return ({ d with precision := some n.toNat, measured := false }, s, rest)
  | '.' :: rest =>
    let tooBig := if m = .text then "precision too big" else "prec too big"
    let (n, after) ← writtenAmount most tooBig rest
    return ({ d with precision := some n, measured := rest.head?.any Char.isDigit }, s, after)
  | cs => return (d, s, cs)

/-- The directive in front of characters, behind the percent sign, and what follows it. -/
def readDirective (m : Medium) (s : Supply) (cs : List Char) :
    Run (Directive × Supply × List Char) := do
  let (s, cs) ← namedSupply m s cs
  let marks := cs.takeWhile ['-', '+', ' ', '#', '0'].contains
  let (d, s, cs) ← readWidth (Directive.ofMarks marks) s (cs.drop marks.length)
  let (d, s, cs) ← readPrecision m d s cs
  let isSized := cs.head?.any ['h', 'l', 'L'].contains
  match if isSized then cs.drop 1 else cs with
  | c :: rest => return ({ d with letter := c, measured := d.measured && !isSized }, s, rest)
  | [] => throw (.badValue "incomplete format")

/-! ## Writing -/

/-- The integer that a directive is about. -/
def directiveInt (m : Medium) (d : Directive) (v : Value) : Run Int := do
  let h ← heap
  let shown := if m = .bytes && d.letter == 'i' then 'd' else d.letter
  let refusal := Failure.badType ("%" ++ shown.toString ++ " format: " ++
    (if d.isBased then "an integer" else "a real number") ++ " is required, not " ++
    Failure.briefly (h.qualifiedTypeName v))
  let isNumber := [Method.toInt, .index, .toFloat].any fun m => (h.slot? m v).isSome
  match v.index? with
  | some n => return n
  | none =>
    if !isNumber then throw refusal
    match ← recovering Failure.isOfType (if d.isBased then asIndex v else toInt v) with
    | some n => return n
    | none => throw refusal

/-- The double that a directive in a text is about. -/
def directiveDouble (v : Value) : Run UInt64 := do
  match v with
  | .scalar _ _ (.float bits) => return bits
  | v =>
    match ← numberToDouble? v with
    | some bits => return bits
    | none => throw (.badType ("must be real number, not " ++
        Failure.mostBriefly ((← heap).qualifiedTypeName v)))

/-- The double that a directive in bytes is about. -/
def directiveDoubleInBytes (v : Value) : Run UInt64 := do
  match ← recovering (fun _ => true) (directiveDouble v) with
  | some bits => return bits
  | none => throw (.badType ("float argument required, not " ++
      Failure.briefly ((← heap).qualifiedTypeName v)))

/-- The character that a directive is about. -/
def directiveChar (m : Medium) (v : Value) : Run Char := do
  let refusal := Failure.badType <| match m with
    | .text => "%c requires int or char"
    | .bytes => "%c requires an integer in range(256) or a single byte"
  match m, v.text?.map String.toList, (← heap).bytes? v with
  | .text, some [c], _ => return c
  | .bytes, _, some [b] => return Char.ofNat b.toNat
  | .text, some _, _ => throw refusal
  | m, _, _ =>
    match ← recovering Failure.isOfType (asIndex v) with
    | none => throw refusal
    | some n =>
      if m = .text then characterAt n
      else if 0 ≤ n && n < 256 then return Char.ofNat n.toNat
      else throw (.tooLarge "%c arg not in range(256)")

/-- The bytes that a directive is about, as characters. -/
def directiveBytes (v : Value) : Run (List Char) := do
  let h ← heap
  let bs ← match h.bytes? v, h.slot? .toBytes v with
    | some bs, _ => pure bs
    | none, some (.assigned method) => do pure (((← bytesGiven method v).bytes?).getD [])
    | none, _ =>
      throw (.badType ("%b requires a bytes-like object, or an object that implements __bytes__, " ++
        "not '" ++ Failure.moreBriefly (h.qualifiedTypeName v) ++ "'"))
  return bs.map fun b => Char.ofNat b.toNat

/-- The failure of a directive with an unknown letter, which is at a place.  A byte of more than
seven bits is shown as a letter only behind a width or a precision. -/
def unknownDirective (m : Medium) (d : Directive) (place : Nat) : Failure :=
  let c := d.letter
  if m = .bytes && 0x80 ≤ c.toNat && !d.measured then .tooLarge "character argument not in range(0x110000)"
  else
    let shown := if m = .text && (c.toNat < 31 || 126 < c.toNat) then '?' else c
    .badValue ("unsupported format character '" ++ shown.toString ++ "' (0x" ++
      String.ofList (Nat.toDigits 16 c.toNat) ++ ") at index " ++ place.repr)

/-- What stands in the place of a directive, which ends at the given place.  A text that needs no
change stands for itself. -/
def writeDirective (m : Medium) (d : Directive) (place : Nat) (v : Value) : Run Value := do
  let laidOut := fun (isNumber : Bool) (cs : List Char) =>
    newText (String.ofList (d.layout isNumber cs))
  let ofText := fun (form : Value) => do
    let cs := (form.text?.getD "").toList
    let fits := d.width ≤ cs.length && d.precision.all (cs.length ≤ ·) && !d.plus && !d.blank
    if fits then return form else laidOut false (d.shorten cs)
  if maxListLength ≤ d.width then throw .noMemory
  match d.letter, m with
  | 's', .text => do ofText (← plainForm v)
  | 'r', .text => do ofText (← write v)
  | 'a', _ | 'r', .bytes => do ofText (← asciiForm v)
  | 's', .bytes | 'b', .bytes => do laidOut false (d.shorten (← directiveBytes v))
  | 'c', m => do laidOut false [← directiveChar m v]
  | 'd', m | 'i', m | 'u', m => do
    let n ← directiveInt m d v
    if (writeInt? n).isNone then throw .tooManyDigits
    laidOut true (d.writeInt n)
  | 'o', m | 'x', m | 'X', m => do laidOut true (d.writeInt (← directiveInt m d v))
  | 'e', m | 'E', m | 'f', m | 'F', m | 'g', m | 'G', m => do
    let bits ← if m = .text then directiveDouble v else directiveDoubleInBytes v
    laidOut true (d.writeDouble bits)
  | _, m => throw (unknownDirective m d place)

/-! ## Interpolation -/

/-- Puts values into the rest of a text or bytes, in which there are at most `fuel` directives;
`whole` is the text as a value, of `length` characters. -/
def interpolateFrom (m : Medium) (whole : Value) (length : Nat) :
    Nat → Supply → Filling → List Char → Run (Supply × Filling)
  | 0, s, f, _ => return (s, f)
  | fuel + 1, s, f, cs => do
    if cs.isEmpty then return (s, f)
    let plain := cs.takeWhile (· != '%')
    let isWhole := plain.length == length
    let f := f.add isWhole (if isWhole then whole else .text (String.ofList plain))
    match cs.drop plain.length with
    | [] => return (s, f)
    | '%' :: '%' :: rest => interpolateFrom m whole length fuel s (f.add false (.text "%")) rest
    | _ :: rest => do
      let (d, s, rest) ← readDirective m s rest
      let (v, s) ← nextValue s
      let text ← writeDirective m d (length - rest.length - 1) v
      interpolateFrom m whole length fuel s (f.add rest.isEmpty text) rest

/-- The failure of values that are left over. -/
def leftOver (m : Medium) : Failure :=
  .badType ("not all arguments converted during " ++
    (if m = .text then "string" else "bytes") ++ " formatting")

/-- Puts the values of an operand into a text or bytes. -/
def interpolate (m : Medium) (whole : Value) (cs : List Char) (operand : Value) : Run Filling := do
  let s := Supply.ofOperand (← heap) m operand
  let (s, f) ← interpolateFrom m whole cs.length (cs.length + 1) s ⟨.undecided, [], none⟩ cs
  if !s.rest.isEmpty && s.named.isNone then throw (leftOver m)
  return f

/-- A text with the values of an operand in it. -/
def interpolateText (template operand : Value) : Run Value := do
  let f ← interpolate .text template (template.text?.getD "").toList operand
  match f.whole with
  | some v => return v
  | none => newText (String.ofList f.chars)

/-- Bytes with the values of an operand in them, of the kind of the object of a call. -/
def interpolateBytes (k : Kind) (bs : List UInt8) (operand : Value) : Run Value := do
  let cs := bs.map fun b => Char.ofNat b.toNat
  let f ← interpolate .bytes (.text (String.ofList cs)) cs operand
  let made := f.chars.map fun c => UInt8.ofNat c.toNat
  if k == .buffer then alloc (.kind .buffer) (.buffer made)
  else identified (.scalar (.kind .bytes) unidentified (.bytes made))

/-- Carries out the operation of putting values into a text or bytes, if a call is one.  The object
may be the first operand or the second one. -/
def callOfInterpolation? (c : MemberCall) : Option (Run Value) :=
  match c.name, c.arguments with
  | "__mod__", [x] => some (interpolateInto c.owner c.self x)
  | "__rmod__", [x] => some (interpolateInto c.owner x c.self)
  | _, _ => none
where
  /-- Puts the values of an operand into an object of a kind, if it is one. -/
  interpolateInto (k : Kind) (v operand : Value) : Run Value := do
    let h ← heap
    if !h.isOfKind v k then return .unanswered
    match k with
    | .text => interpolateText v operand
    | k => interpolateBytes k ((h.bytes? v).getD []) operand

end Run

end ValueShape
