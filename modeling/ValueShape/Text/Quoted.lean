import ValueShape.Text.Printable

/-!
# Quoted texts and bytes

How a text or a string of bytes is written inside a rendering.

* `quote` writes a text between quotes.  It prefers the single quote and falls back on the double
  one when the text has a single quote and no double quote, so at most one kind of quote ever needs
  a backslash.
* `quoteBytes` does the same for bytes, with the letter `b` in front.  Only visible ASCII stands for
  itself there.
-/

set_option autoImplicit false

namespace ValueShape

/-- `n` in lower-case hexadecimal, padded with zeros to at least `width` digits. -/
def hexDigits (width n : Nat) : List Char :=
  let ds := Nat.toDigits 16 n
  List.replicate (width - ds.length) '0' ++ ds

/-- The quote to write around a text in which `single` and `double` tell which quotes occur. -/
def chooseQuote (single double : Bool) : Char :=
  if single && !double then '"' else '\''

/-- A character by its code. -/
def escapeCode (c : Char) : List Char :=
  if c.toNat < 0x100 then '\\' :: 'x' :: hexDigits 2 c.toNat
  else if c.toNat < 0x10000 then '\\' :: 'u' :: hexDigits 4 c.toNat
  else '\\' :: 'U' :: hexDigits 8 c.toNat

/-- How one character is written inside quotes `q`. -/
def escapeChar (q c : Char) : List Char :=
  if c == q || c == '\\' then ['\\', c]
  else if c == '\n' then ['\\', 'n']
  else if c == '\r' then ['\\', 'r']
  else if c == '\t' then ['\\', 't']
  else if isPrintable c then [c]
  else escapeCode c

/-- Characters with all those outside ASCII by their codes. -/
def escapeWide (cs : List Char) : List Char :=
  cs.flatMap fun c => if c.toNat < 0x80 then [c] else escapeCode c

/-- A text between quotes. -/
def quote (cs : List Char) : List Char :=
  let q := chooseQuote (cs.contains '\'') (cs.contains '"')
  q :: cs.flatMap (escapeChar q) ++ [q]

/-- A `String` between quotes. -/
def quoteString (s : String) : String :=
  String.ofList (quote s.toList)

/-- How one byte is written inside quotes `q`. -/
def escapeByte (q : Char) (b : UInt8) : List Char :=
  let c := Char.ofNat b.toNat
  if c == q || c == '\\' then ['\\', c]
  else if c == '\n' then ['\\', 'n']
  else if c == '\r' then ['\\', 'r']
  else if c == '\t' then ['\\', 't']
  else if 0x20 ≤ b.toNat && b.toNat < 0x7f then [c]
  else '\\' :: 'x' :: hexDigits 2 b.toNat

/-- Bytes between quotes, after the letter that marks them. -/
def quoteBytes (bs : List UInt8) : List Char :=
  let q := chooseQuote (bs.contains 0x27) (bs.contains 0x22)
  'b' :: q :: bs.flatMap (escapeByte q) ++ [q]

/-- The characters of a mutable buffer escape single quotes, whatever quote surrounds them. -/
def quoteBuffer (bs : List UInt8) : List Char :=
  let q := chooseQuote (bs.contains 0x27) (bs.contains 0x22)
  let escape := fun b => if b == 0x27 then ['\\', '\''] else escapeByte q b
  'b' :: q :: bs.flatMap escape ++ [q]

end ValueShape
