import ValueShape.Text.Letter

/-!
# Literals

Numbers and quoted texts inside an expression.

* `afterNumber? cs` is what follows the number that `cs` begins with.
* `untilQuote? q long cs` divides `cs` at the quotes that close a text, and `hasValidEscapes` says
  whether every escape inside the quotes means something.
* A text may hold fields, which are expressions in braces.  `fieldsOf?` lists what stands in them.
-/

set_option autoImplicit false

namespace ValueShape

namespace Expression

/-! ## Numbers -/

/-- Whether a character is a digit below a base. -/
def isDigitBelow (base : Nat) (c : Char) : Bool :=
  if c.isDigit then c.toNat - '0'.toNat < base
  else base == 16 && ('a' ≤ c.toLower && c.toLower ≤ 'f')

/-- What follows the digits at the beginning.  There has to be one, and a single underscore may
stand before any but the first. -/
def afterDigits? (test : Char → Bool) : List Char → Option (List Char)
  | [] => none
  | c :: cs =>
    if !test c then none
    else match cs with
      | [] => some []
      | '_' :: rest => afterDigits? test rest
      | d :: rest => if test d then afterDigits? test (d :: rest) else some (d :: rest)

/-- Whether characters may follow a number: no name does, apart from a few words that may stand
between two operands. -/
def mayFollowNumber (cs : List Char) : Bool :=
  ["and", "else", "for", "if", "in", "is", "or", "not"].any (fun w => w.toList.isPrefixOf cs) ||
    !cs.head?.any isNamePart && !cs.head?.any fun c => 0x80 ≤ c.toNat

/-- What follows a number, which has to end here. -/
def endOfNumber? (cs : List Char) : Option (List Char) :=
  if mayFollowNumber cs then some cs else none

/-- What follows the exponent and the mark of an imaginary number, if there are such; `whole` says
whether a number without them is refused. -/
def afterExponent? (whole : Bool) (cs : List Char) : Option (List Char) := do
  let digits := fun (rest : List Char) => afterDigits? Char.isDigit rest
  let (found, cs) ← match cs with
    | e :: rest =>
      if e.toLower != 'e' then pure (false, cs)
      else match rest with
        | '+' :: rest | '-' :: rest => do pure (true, ← digits rest)
        | d :: _ => if d.isDigit then do pure (true, ← digits rest) else pure (false, cs)
        | [] => pure (false, cs)
    | [] => pure (false, cs)
  match cs with
  | j :: rest =>
    if j.toLower == 'j' then endOfNumber? rest
    else if whole && !found then none
    else endOfNumber? cs
  | [] => if whole && !found then none else some []

/-- What follows the digits after a point, of which there may be none. -/
def afterFraction? (cs : List Char) : Option (List Char) := do
  let cs ← if cs.head?.any Char.isDigit then afterDigits? Char.isDigit cs else some cs
  afterExponent? false cs

/-- The most digits that an integer is written with. -/
def maxDigits : Nat := 4300

/-- Whether digits in base ten stand for no integer: they begin with a zero but not all of them are
zeros, or there are too many. -/
def isImproperInteger (ds : List Char) : Bool :=
  let ds := ds.filter (· != '_')
  (ds.head? == some '0' && ds.any (· != '0')) || maxDigits < ds.length

/-- What follows a number in base ten. -/
def afterDecimal? (cs : List Char) : Option (List Char) := do
  let rest ← afterDigits? Char.isDigit cs
  match rest with
  | '.' :: rest => afterFraction? rest
  | rest => afterExponent? (isImproperInteger (cs.take (cs.length - rest.length))) rest

/-- What follows the number at the beginning. -/
def afterNumber? (cs : List Char) : Option (List Char) := do
  let based := fun (base : Nat) (rest : List Char) => do
    endOfNumber? (← afterDigits? (isDigitBelow base)
      (if rest.head? == some '_' then rest.drop 1 else rest))
  match cs with
  | '0' :: c :: rest =>
    match c.toLower with
    | 'x' => based 16 rest
    | 'o' => based 8 rest
    | 'b' => based 2 rest
    | _ => afterDecimal? cs
  | '.' :: rest => afterFraction? rest
  | cs => afterDecimal? cs

/-! ## Quoted texts -/

/-- What stands before a quoted text, and says how it is read. -/
structure QuoteMarks where
  /-- It is made of bytes. -/
  ofBytes : Bool
  /-- A backslash stands for itself. -/
  isRaw : Bool
  /-- It has fields. -/
  hasFields : Bool

/-- How a text is read after a word that stands directly before it. -/
def QuoteMarks.ofWord? (word : List Char) : Option QuoteMarks :=
  match word.map Char.toLower with
  | [] | ['u'] => some ⟨false, false, false⟩
  | ['r'] => some ⟨false, true, false⟩
  | ['b'] => some ⟨true, false, false⟩
  | ['f'] => some ⟨false, false, true⟩
  | ['b', 'r'] | ['r', 'b'] => some ⟨true, true, false⟩
  | ['f', 'r'] | ['r', 'f'] => some ⟨false, true, true⟩
  | _ => none

/-- The characters up to the closing quotes, and what follows them.  A long text has three quotes
and may go over several lines. -/
def untilQuote? (q : Char) (long : Bool) : List Char → Option (List Char × List Char)
  | [] => none
  | '\\' :: c :: cs => (fun r => ('\\' :: c :: r.1, r.2)) <$> untilQuote? q long cs
  | c :: cs =>
    if c == q && (!long || cs.take 2 == [q, q]) then some ([], if long then cs.drop 2 else cs)
    else if c == '\n' && !long then none
    else (fun r => (c :: r.1, r.2)) <$> untilQuote? q long cs

/-- The characters between the quotes that a text begins with and those that close it, and what
follows. -/
def quoted? : List Char → Option (List Char × List Char)
  | q :: cs =>
    if cs.take 2 == [q, q] then untilQuote? q true (cs.drop 2) else untilQuote? q false cs
  | [] => none

/-- Whether characters begin with a number of digits in base sixteen. -/
def hasHexDigits (n : Nat) (cs : List Char) : Bool :=
  let ds := cs.take n
  ds.length == n && ds.all (isDigitBelow 16)

/-- Whether every escape means something.  Which names characters have is left open. -/
def hasValidEscapes (ofBytes : Bool) : List Char → Bool
  | '\\' :: c :: cs =>
    (match c with
    | 'x' => hasHexDigits 2 cs
    | 'u' => ofBytes || hasHexDigits 4 cs
    | 'U' => ofBytes || (hasHexDigits 8 cs && (cs.take 2 == ['0', '0']) &&
        (cs[2]?.any fun d => d == '0' || d == '1' && cs[3]? == some '0'))
    | 'N' => ofBytes || (cs.head? == some '\x7b' && cs[1]? != some '\x7d' && cs.contains '\x7d')
    | _ => true) && hasValidEscapes ofBytes cs
  | _ :: cs => hasValidEscapes ofBytes cs
  | [] => true

/-- Whether the characters between quotes make a text. -/
def isProperText (m : QuoteMarks) (cs : List Char) : Bool :=
  (!m.ofBytes || cs.all fun c => c.toNat < 0x80) && (m.isRaw || hasValidEscapes m.ofBytes cs)

/-! ## Fields

A field holds an expression in which there may be texts with fields again.  So the brackets are
counted up to where it ends, and what is between them is read later. -/

/-- The bracket that closes another one. -/
def closing? : Char → Option Char
  | '(' => some ')'
  | '[' => some ']'
  | '\x7b' => some '\x7d'
  | _ => none

/-- The most brackets that stand inside each other. -/
def maxNested : Nat := 200

/-- The expression at the beginning of a field, and what follows it: a conversion, a format or the
end.  `nested` are the brackets that still have to be closed, and `quote` the quotes of a text,
which are three if it is a long one. -/
def fieldExpression? (quote : Option (Char × Bool)) (nested : List Char) :
    List Char → Option (List Char × List Char)
  | [] => none
  | '\\' :: _ => none
  | c :: cs =>
    let keep := fun (kept : List Char) (r : Option (List Char × List Char)) =>
      r.map fun r => (kept ++ r.1, r.2)
    match quote with
    | some (q, long) =>
      if c != q then keep [c] (fieldExpression? quote nested cs)
      else if !long then keep [c] (fieldExpression? none nested cs)
      else match cs with
        | d :: e :: rest =>
          if d == q && e == q then keep [c, d, e] (fieldExpression? none nested rest)
          else keep [c] (fieldExpression? quote nested (d :: e :: rest))
        | _ => none
    | none =>
      if c == '"' || c == '\'' then
        match cs with
        | d :: e :: rest =>
          if d == c && e == c then keep [c, d, e] (fieldExpression? (some (c, true)) nested rest)
          else keep [c] (fieldExpression? (some (c, false)) nested (d :: e :: rest))
        | _ => none
      else if c == '#' then none
      else match closing? c with
        | some closer =>
          if maxNested ≤ nested.length then none
          else keep [c] (fieldExpression? none (closer :: nested) cs)
        | none =>
          if nested.isEmpty && ['!', ':', '\x7d', '=', '<', '>'].contains c then
            match cs with
            | '=' :: rest =>
              if c == ':' || c == '\x7d' then some ([], c :: '=' :: rest)
              else keep [c, '='] (fieldExpression? none nested rest)
            | cs =>
              if c == '<' || c == '>' then keep [c] (fieldExpression? none nested cs)
              else some ([], c :: cs)
          else if c == ')' || c == ']' || c == '\x7d' then
            match nested with
            | closer :: nested =>
              if c == closer then keep [c] (fieldExpression? none nested cs) else none
            | [] => none
          else keep [c] (fieldExpression? none nested cs)

/-- Whether a character is a blank between tokens or the end of a line. -/
def isGap (c : Char) : Bool := c == ' ' || c == '\t' || c == '\n' || c == '\x0c'

/-- What follows the sign by which a field shows its own expression, and the conversion of its
value. -/
def afterConversion? (cs : List Char) : Option (List Char) :=
  let cs := if cs.head? == some '=' then (cs.drop 1).dropWhile isGap else cs
  match cs with
  | '!' :: c :: cs => if ['s', 'r', 'a'].contains c then some cs else none
  | '!' :: [] => none
  | cs => some cs

/-- The expressions in the fields of a text, and what remains: nothing, or the end of the field
whose format this is.  Formats have fields of their own, `depth` fields inside each other, and at
most `fuel` characters are looked at. -/
def fieldsUpTo (raw : Bool) : Nat → Nat → List Char → Option (List (List Char) × List Char)
  | 0, _, _ => none
  | _, _, [] => some ([], [])
  | fuel + 1, depth, '\\' :: c :: cs =>
    if raw then fieldsUpTo raw fuel depth (c :: cs)
    else if c == '\x7b' || c == '\x7d' then fieldsUpTo raw fuel depth (c :: cs)
    else if c == 'N' && cs.head? == some '\x7b' then
      fieldsUpTo raw fuel depth ((cs.dropWhile (· != '\x7d')).drop 1)
    else fieldsUpTo raw fuel depth cs
  | fuel + 1, depth, c :: cs =>
    if c == '\x7b' then
      if depth == 0 && cs.head? == some c then fieldsUpTo raw fuel depth (cs.drop 1)
      else if 2 ≤ depth then none
      else do
        let (text, rest) ← fieldExpression? none [] cs
        if text.all isGap then none
        let rest ← afterConversion? rest
        let (inner, rest) ← match rest with
          | ':' :: rest => fieldsUpTo raw fuel (depth + 1) rest
          | rest => some ([], rest)
        match rest with
        | '\x7d' :: rest => do
          let (others, rest) ← fieldsUpTo raw fuel depth rest
          return (text :: inner ++ others, rest)
        | _ => none
    else if c == '\x7d' then
      if depth != 0 then some ([], c :: cs)
      else if cs.head? == some c then fieldsUpTo raw fuel depth (cs.drop 1)
      else none
    else fieldsUpTo raw fuel depth cs

/-- The expressions in the fields of a text. -/
def fieldsOf? (raw : Bool) (cs : List Char) : Option (List (List Char)) :=
  (fieldsUpTo raw (2 * cs.length + 2) 0 cs).map (·.1)

end Expression

end ValueShape
