import ValueShape.Text.Digits
import ValueShape.Text.Quoted

/-!
# Encodings

Texts as bytes.

* An `Encoding` is one of the encodings that are known by name: `Encoding.ofName?` finds it, without
  regard to case and to the marks between the parts of the name.
* `Encoding.encode` turns characters into bytes, and `Encoding.decode` bytes into characters.  What
  cannot be turned is a `Misfit`, and an `ErrorRule` says what becomes of it.
* `Misfit.decodingMessage` and `Misfit.encodingMessage` are the texts about a misfit that is refused.
-/

set_option autoImplicit false

namespace ValueShape

/-- The known encodings. -/
inductive Encoding
  | utf8
  | ascii
  | latin1
deriving DecidableEq, Repr

/-- What becomes of units that cannot be turned. -/
inductive ErrorRule
  /-- They are refused. -/
  | strict
  /-- They are left out. -/
  | ignore
  /-- A mark stands for them. -/
  | replace
  /-- An escape with their code stands for them. -/
  | escape
  /-- A reference with their code stands for them. -/
  | reference
deriving DecidableEq, Repr

/-- Units that cannot be turned: those from `first` up to but not including `stop`. -/
structure Misfit where
  /-- The place of the first one. -/
  first : Nat
  /-- The place behind the last one. -/
  stop : Nat
  /-- Why they cannot be turned. -/
  reason : String

namespace ErrorRule

/-- The rule of the given name. -/
def ofName? (s : String) : Option ErrorRule :=
  [("strict", strict), ("ignore", ignore), ("replace", replace), ("backslashreplace", escape),
    ("xmlcharrefreplace", reference)].lookup s

end ErrorRule

namespace Encoding

/-- The name of an encoding in messages. -/
def name : Encoding → String
  | utf8 => "utf-8"
  | ascii => "ascii"
  | latin1 => "latin-1"

/-- The names under which encodings are known, with underscores between their parts. -/
def names : List (String × Encoding) :=
  [("utf_8", utf8), ("utf8", utf8), ("u8", utf8), ("utf", utf8), ("cp65001", utf8),
    ("ascii", ascii), ("us_ascii", ascii), ("646", ascii), ("latin_1", latin1), ("latin1", latin1),
    ("iso_8859_1", latin1), ("iso8859_1", latin1), ("8859", latin1), ("cp819", latin1),
    ("l1", latin1), ("latin", latin1)]

/-- The encoding of the given name. -/
def ofName? (s : String) : Option Encoding :=
  let plain := fun (c : Char) => if c.isAlphanum then c.toLower else '_'
  names.lookup (String.ofList (s.toList.map plain))

/-- The number of codes that stand for themselves in an encoding of single bytes. -/
def size : Encoding → Nat
  | utf8 => 0x110000
  | ascii => 0x80
  | latin1 => 0x100

end Encoding

/-! ## Encoding -/

/-- The bytes of the characters of ASCII. -/
def asciiBytes (cs : List Char) : List UInt8 := cs.map fun c => UInt8.ofNat c.toNat

/-- The escape that stands for a character. -/
def codeEscape (n : Nat) : List Char :=
  if n < 0x100 then '\\' :: 'x' :: hexDigits 2 n
  else if n < 0x10000 then '\\' :: 'u' :: hexDigits 4 n
  else '\\' :: 'U' :: hexDigits 8 n

namespace Encoding

/-- The bytes of characters, those before the first `place` of which have been turned. -/
def encodeFrom (e : Encoding) (rule : ErrorRule) : Nat → List Char → Except Misfit (List UInt8)
  | _, [] => .ok []
  | place, c :: cs =>
    if e == .utf8 then (encodeFrom e rule (place + 1) cs).map (String.utf8EncodeChar c ++ ·)
    else if c.toNat < e.size then
      (encodeFrom e rule (place + 1) cs).map (UInt8.ofNat c.toNat :: ·)
    else
      let go := fun (instead : List Char) =>
        (encodeFrom e rule (place + 1) cs).map (asciiBytes instead ++ ·)
      match rule with
      | .strict =>
        let length := (cs.takeWhile fun d => decide (e.size ≤ d.toNat)).length + 1
        .error ⟨place, place + length, "ordinal not in range(" ++ e.size.repr ++ ")"⟩
      | .ignore => go []
      | .replace => go ['?']
      | .escape => go (codeEscape c.toNat)
      | .reference => go ("&#".toList ++ c.toNat.repr.toList ++ [';'])

/-- The bytes of characters. -/
def encode (e : Encoding) (rule : ErrorRule) (cs : List Char) : Except Misfit (List UInt8) :=
  e.encodeFrom rule 0 cs

/-! ## Decoding

Bytes that make up no character are told by their places, so that a rule can say what becomes of
them. -/

/-- Whether a byte continues a character. -/
def continues (b : UInt8) : Bool := 0x80 ≤ b && b < 0xc0

/-- Whether the second byte of a character fits the first one. -/
def fitsSecond (b c : UInt8) : Bool :=
  continues c &&
    (if b == 0xe0 then 0xa0 ≤ c
    else if b == 0xed then c < 0xa0
    else if b == 0xf0 then 0x90 ≤ c
    else if b == 0xf4 then c < 0x90
    else true)

/-- The number of bytes of a character that begins with the given byte, if one does. -/
def lengthOf? (b : UInt8) : Option Nat :=
  if b < 0x80 then some 1
  else if b < 0xc2 then none
  else if b < 0xe0 then some 2
  else if b < 0xf0 then some 3
  else if b < 0xf5 then some 4
  else none

/-- How many bytes after the first one belong to the same character. -/
def followers (b : UInt8) (length : Nat) (bs : List UInt8) : Nat :=
  match bs with
  | [] => 0
  | c :: rest =>
    if length ≤ 1 || !fitsSecond b c then 0
    else 1 + ((rest.take (length - 2)).takeWhile continues).length

/-- The code of a character of several bytes. -/
def codeOf (b : UInt8) (length : Nat) (bs : List UInt8) : Nat :=
  let lead := b.toNat % Nat.pow 2 (7 - length)
  (bs.take (length - 1)).foldl (fun n c => n * 64 + c.toNat % 64) lead

/-- The first character of bytes and how many bytes it has, or why there is none. -/
def decodeFirst (e : Encoding) (b : UInt8) (bs : List UInt8) :
    Except (Nat × String) (Char × Nat) :=
  match e with
  | .latin1 => .ok (Char.ofNat b.toNat, 1)
  | .ascii =>
    if b < 0x80 then .ok (Char.ofNat b.toNat, 1) else .error (1, "ordinal not in range(128)")
  | .utf8 =>
    match lengthOf? b with
    | none => .error (1, "invalid start byte")
    | some 1 => .ok (Char.ofNat b.toNat, 1)
    | some length =>
      let found := followers b length bs
      if found + 1 = length then .ok (Char.ofNat (codeOf b length bs), length)
      else .error (found + 1,
        if found = bs.length then "unexpected end of data" else "invalid continuation byte")

/-- The characters of bytes, of which at most `fuel` are left.  The first of them stands at the
given place. -/
def decodeFrom (e : Encoding) (rule : ErrorRule) :
    Nat → Nat → List UInt8 → Except Misfit (List Char)
  | 0, _, _ | _, _, [] => .ok []
  | fuel + 1, place, b :: bs =>
    match e.decodeFirst b bs with
    | .ok (c, length) =>
      (decodeFrom e rule fuel (place + length) (bs.drop (length - 1))).map (c :: ·)
    | .error (length, reason) =>
      let go := fun (instead : List Char) =>
        (decodeFrom e rule fuel (place + length) (bs.drop (length - 1))).map (instead ++ ·)
      match rule with
      | .ignore => go []
      | .replace => go [Char.ofNat 0xfffd]
      | .escape => go ((b :: bs.take (length - 1)).flatMap fun c => codeEscape c.toNat)
      | _ => .error ⟨place, place + length, reason⟩

/-- The characters of bytes. -/
def decode (e : Encoding) (rule : ErrorRule) (bs : List UInt8) : Except Misfit (List Char) :=
  e.decodeFrom rule (bs.length + 1) 0 bs

end Encoding

/-! ## Messages -/

namespace Misfit

/-- The place of misfits in a message; `one` is what is said about a single one. -/
def place (m : Misfit) (what one : String) : String :=
  if m.stop = m.first + 1 then what ++ " " ++ one ++ " in position " ++ m.first.repr
  else what ++ "s in position " ++ m.first.repr ++ "-" ++ (m.stop - 1).repr

/-- The message about bytes that make up no text. -/
def decodingMessage (m : Misfit) (e : Encoding) (bs : List UInt8) : String :=
  let one := "0x" ++ String.ofList (hexDigits 2 ((bs[m.first]?.getD 0).toNat))
  "'" ++ e.name ++ "' codec can't decode " ++ m.place "byte" one ++ ": " ++ m.reason

/-- The message about characters that an encoding has no bytes for. -/
def encodingMessage (m : Misfit) (e : Encoding) (cs : List Char) : String :=
  let one := "'" ++ String.ofList (codeEscape ((cs[m.first]?.getD ' ').toNat)) ++ "'"
  "'" ++ e.name ++ "' codec can't encode " ++ m.place "character" one ++ ": " ++ m.reason

end Misfit

/-! ## Laws -/

/-- Every character has bytes in UTF-8. -/
theorem encodeFrom_utf8 (rule : ErrorRule) (place : Nat) (cs : List Char) :
    Encoding.utf8.encodeFrom rule place cs = .ok (cs.flatMap String.utf8EncodeChar) := by
  induction cs generalizing place with
  | nil => rfl
  | cons c cs ih => simp [Encoding.encodeFrom, ih, Except.map]

/-- Latin-1 has a character for every byte. -/
theorem decodeFirst_latin1 (b : UInt8) (bs : List UInt8) :
    Encoding.latin1.decodeFirst b bs = .ok (Char.ofNat b.toNat, 1) := rfl

end ValueShape
