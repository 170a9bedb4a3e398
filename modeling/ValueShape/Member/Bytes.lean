import ValueShape.Member.Textual
import ValueShape.Text.Encoding

/-!
# Methods of bytes

`Run.callOfBytes` carries out the methods of bytes and buffers, apart from those that operations are
carried out by.

* `bytesTextual` says what bytes have of their own among the methods that they share with texts.
  Cases and classes of bytes are those of the ASCII characters that they are.
* `Run.encodingArguments`, `Run.encodeText` and `Run.decodeBytes` turn texts into bytes and back.
* The results of methods of a buffer are new buffers.
-/

set_option autoImplicit false

namespace ValueShape

/-! ## Bytes as characters

Many methods of bytes do what those of texts do with characters of ASCII. So bytes are taken for
such characters. -/

/-- The character of ASCII that a byte is, or one that has no properties. -/
def charOfByte (b : UInt8) : Char := if b < 0x80 then Char.ofNat b.toNat else '\x00'

/-- Whether a byte is a blank. -/
def isBlankByte (b : UInt8) : Bool := b == 0x20 || (9 ≤ b && b ≤ 13)

/-- A byte in the other case, if the test says so. -/
def mapByte (test : Char → Bool) (f : Char → Char) (b : UInt8) : UInt8 :=
  if test (charOfByte b) then UInt8.ofNat (f (charOfByte b)).toNat else b

/-- A byte in upper case. -/
def upperByte (b : UInt8) : UInt8 := mapByte Char.isLower Char.toUpper b

/-- A byte in lower case. -/
def lowerByte (b : UInt8) : UInt8 := mapByte Char.isUpper Char.toLower b

/-- Bytes whose words begin with capital letters. -/
def titledBytes : Bool → List UInt8 → List UInt8
  | _, [] => []
  | inWord, b :: bs =>
    (if inWord then lowerByte b else upperByte b) :: titledBytes (charOfByte b).isAlpha bs

/-- Whether capital letters stand in the beginning of words and nowhere else. -/
def haveTitleForm : Bool → List UInt8 → Bool
  | _, [] => true
  | inWord, b :: bs =>
    let c := charOfByte b
    if c.isUpper then !inWord && haveTitleForm true bs
    else if c.isLower then inWord && haveTitleForm true bs
    else haveTitleForm false bs

/-- The questions about all of certain bytes, which no empty bytes pass. -/
def byteTests : List (String × (UInt8 → Bool)) :=
  [("isdigit", fun b => (charOfByte b).isDigit), ("isalpha", fun b => (charOfByte b).isAlpha),
    ("isalnum", fun b => (charOfByte b).isAlphanum), ("isspace", isBlankByte)]

/-- The questions about bytes as a whole. -/
def bytesTests : List (String × (List UInt8 → Bool)) :=
  let isUpper := fun b => (charOfByte b).isUpper
  let isLower := fun b => (charOfByte b).isLower
  [("isascii", fun bs => bs.all (· < 0x80)),
    ("islower", fun bs => bs.any isLower && !bs.any isUpper),
    ("isupper", fun bs => bs.any isUpper && !bs.any isLower),
    ("istitle", fun bs => bs.any (fun b => isUpper b || isLower b) && haveTitleForm false bs)]

/-- The bytes that are made of other bytes. -/
def byteMaps : List (String × (List UInt8 → List UInt8)) :=
  [("upper", List.map upperByte), ("lower", List.map lowerByte), ("title", titledBytes false),
    ("swapcase", List.map fun b => if upperByte b == b then lowerByte b else upperByte b),
    ("capitalize", fun bs => (bs.take 1).map upperByte ++ (bs.drop 1).map lowerByte)]

namespace Run

/-! ## Arguments -/

/-- The failure of an argument that is no bytes. -/
def notBytes (v : Value) : Run Failure := do
  return .badType ("a bytes-like object is required, not '" ++
    Failure.moreBriefly ((← heap).qualifiedTypeName v) ++ "'")

/-- The bytes of an argument that has to be bytes or a buffer. -/
def bytesArgument (v : Value) : Run (List UInt8) := do
  match (← heap).bytes? v with
  | some bs => return bs
  | none => throw (← notBytes v)

/-- The bytes that a method looks for, which may be given as a single integer. -/
def soughtBytes (v : Value) : Run (List UInt8) := do
  match (← heap).bytes? v with
  | some bs => return bs
  | none =>
    match ← asIndex? v with
    | some n =>
      if 0 ≤ n && n < 256 then return [UInt8.ofNat n.toNat]
      throw (.badValue byteRangeText)
    | none =>
      throw (.badType ("argument should be integer or bytes-like object, not '" ++
        Failure.briefly ((← heap).qualifiedTypeName v) ++ "'"))

/-- The beginnings or ends that a method of bytes asks for. -/
def bytesAffixes (c : MemberCall) (v : Value) : Run (List (List UInt8)) := do
  match v, (← heap).bytes? v with
  | .tuple _ _ items, _ => items.mapM bytesArgument
  | _, some bs => return [bs]
  | _, none =>
    throw (.badType (c.name ++ " first arg must be bytes or a tuple of bytes, not " ++
      Failure.briefly ((← heap).qualifiedTypeName v)))

/-- The byte that an argument names to fill with. -/
def fillByte (c : MemberCall) (v : Value) : Run UInt8 := do
  match (← heap).bytes? v with
  | some [b] => return b
  | _ =>
    throw (.badType (c.name ++ "() argument 2 must be a byte string of length 1, not " ++
      Failure.mostBriefly ((← heap).qualifiedTypeName v)))

/-- The bytes of an element that is joined to others. -/
def joinedBytes (place : Nat) (v : Value) : Run (List UInt8) := do
  match (← heap).bytes? v with
  | some bs => return bs
  | none =>
    throw (.badType ("sequence item " ++ place.repr ++ ": expected a bytes-like object, " ++
      cut 80 ((← heap).qualifiedTypeName v) ++ " found"))

/-- New bytes of the kind that a method belongs to, or the object of the call if that has the same
bytes and does not change. -/
def bytesResult (c : MemberCall) (bs : List UInt8) : Run Value := do
  if c.owner == .buffer then alloc (.kind .buffer) (.buffer bs)
  else match c.self with
    | .scalar (.kind .bytes) id (.bytes own) =>
      if own == bs then return .scalar (.kind .bytes) id (.bytes own)
      identified (.scalar (.kind .bytes) unidentified (.bytes bs))
    | _ => identified (.scalar (.kind .bytes) unidentified (.bytes bs))

/-- What bytes have of their own. -/
def bytesTextual : Textual UInt8 where
  argument _ _ := bytesArgument
  sought _ := soughtBytes
  affixes := bytesAffixes
  filler := fillByte
  joined _ := joinedBytes
  result := bytesResult
  unit d := UInt8.ofNat d.toNat
  outgrows _ _ := false
  isBlank := isBlankByte
  isLineEnd b := b == 10 || b == 13
  notFound := "subsection not found"
  notStrippable _ := notBytes

/-! ## Encodings -/

/-- The name of the class of an argument; null goes by its own name. -/
def argumentTypeName (v : Value) : Run String := do
  let h ← heap
  return if v.identical .null then "None" else Failure.mostBriefly (h.qualifiedTypeName v)

/-- The name that an argument gives to something that is looked for by name. -/
def nameArgument (c : MemberCall) (what : String) (v : Value) : Run String := do
  match v.text? with
  | some s => return s
  | none =>
    throw (.badType (c.name ++ "() argument '" ++ what ++ "' must be str, not " ++
      (← argumentTypeName v)))

/-- The encoding and the rule for misfits that the arguments of a call name. -/
def encodingArguments (c : MemberCall) : Run (Encoding × String) := do
  let encoding ← (c.arguments[0]?).elim (pure "utf-8") (nameArgument c "encoding")
  let rule ← (c.arguments[1]?).elim (pure "strict") (nameArgument c "errors")
  match Encoding.ofName? encoding with
  | some e => return (e, rule)
  | none => throw (.unknownEncoding ("unknown encoding: " ++ encoding))

/-- Turns units under the rule of the given name, which has to be known only if there are misfits. -/
def underRule {α : Type} (name : String) (turn : ErrorRule → Except Misfit α)
    (refuse : Misfit → Failure) : Run α := do
  match turn (.strict), ErrorRule.ofName? name with
  | .ok result, _ => return result
  | .error _, none =>
    throw (.unknownEncoding ("unknown error handler name '" ++ name ++ "'"))
  | .error _, some rule =>
    match turn rule with
    | .ok result => return result
    | .error misfit => throw (refuse misfit)

/-- The bytes of a text. -/
def encodeText (e : Encoding) (rule : String) (cs : List Char) : Run (List UInt8) :=
  underRule rule (e.encode · cs) fun m => .unencodable (m.encodingMessage e cs)

/-- The text that bytes are. -/
def decodeBytes (e : Encoding) (rule : String) (bs : List UInt8) : Run Value := do
  let cs ← underRule rule (e.decode · bs) fun m => .badEncoding (m.decodingMessage e bs)
  identified (.text (String.ofList cs))

/-! ## Hexadecimal text -/

/-- The bytes that hexadecimal digits write, two of them each, with blanks between the bytes; or the
place of the character that does not fit. -/
def readHex : Nat → Nat → List Char → Except Nat (List UInt8)
  | 0, _, _ | _, _, [] => .ok []
  | fuel + 1, place, c :: cs =>
    if c == ' ' || (9 ≤ c.toNat && c.toNat ≤ 13) then readHex fuel (place + 1) cs
    else match hexDigit? c, cs.head?.bind hexDigit? with
      | none, _ => .error place
      | some _, none => .error (place + 1)
      | some high, some low =>
        (readHex fuel (place + 2) (cs.drop 1)).map (UInt8.ofNat (high * 16 + low) :: ·)

/-- The bytes that a text writes in hexadecimal. -/
def bytesFromHex (c : MemberCall) (v : Value) : Run (List UInt8) := do
  match v.text? with
  | none =>
    throw (.badType (c.name ++ "() argument must be str, not " ++ (← argumentTypeName v)))
  | some s =>
    let cs := s.toList
    let wide? := cs.findIdx? fun d => decide (0x80 ≤ d.toNat)
    match wide?.elim (readHex (cs.length + 1) 0 cs) Except.error with
    | .ok bs => return bs
    | .error place =>
      throw (.badValue ("non-hexadecimal number found in fromhex() arg at position " ++ place.repr))

/-- The separator of a hexadecimal form: one character of ASCII. -/
def hexSeparator (v : Value) : Run Char := do
  if (← size v) != 1 then throw (.badValue "sep must be length 1.")
  match v.text?.map String.toList, v.bytes? with
  | some (d :: _), _ =>
    if d.toNat < 0x80 then return d else throw (.badValue "sep must be ASCII.")
  | _, some (b :: _) => return charOfByte b
  | _, _ => throw (.badType "sep must be str or bytes.")

/-- Groups of so many bytes each, the first of which may have less. -/
def grouped (size : Nat) (bs : List UInt8) : List (List UInt8) :=
  let first := bs.length % size
  let rest := bs.drop first
  let groups := (List.range (rest.length / size)).map fun n => (rest.drop (n * size)).take size
  if first = 0 then groups else bs.take first :: groups

/-- The hexadecimal form of bytes, with a separator between groups of them. -/
def hexForm (c : MemberCall) (bs : List UInt8) : Run Value := do
  let digits := fun (bs : List UInt8) => bs.flatMap fun b => hexDigits 2 b.toNat
  match c.arguments with
  | [] => identified (.text (String.ofList (digits bs)))
  | x :: rest =>
    let size ← (rest.head?).elim (pure 1) smallIntOf
    let separator ← hexSeparator x
    let groups :=
      if size = 0 then [bs]
      else if 0 < size then grouped size.toNat bs
      else ((grouped (-size).toNat bs.reverse).map List.reverse).reverse
    identified (.text (String.ofList ([separator].intercalate (groups.map digits))))

/-! ## Translation -/

/-- Bytes with others in their places by a table, without certain bytes. -/
def translateBytes (c : MemberCall) (bs : List UInt8) : Run Value := do
  let table ← match c.arguments with
    | .null :: _ => pure []
    | x :: _ => do
      let table ← bytesArgument x
      if table.length != 256 then
        throw (.badValue "translation table must be 256 characters long")
      pure table
    | [] => throw (.badArguments "translate() takes at least 1 positional argument (0 given)")
  let removed ← (c.arguments[1]?).elim (pure []) bytesArgument
  let kept := bs.filter fun b => !removed.contains b
  bytesResult c (kept.map fun b => table[b.toNat]?.getD b)

/-- A new translation table for bytes. -/
def newByteTable (sources targets : Value) : Run Value := do
  let sources ← bytesArgument sources
  let targets ← bytesArgument targets
  if sources.length != targets.length then
    throw (.badValue "maketrans arguments must have same length")
  let moved := sources.zip targets
  let target := fun (n : Nat) =>
    ((moved.reverse.find? fun p => p.1 == UInt8.ofNat n).map (·.2)).getD (UInt8.ofNat n)
  identified (.scalar (.kind .bytes) unidentified (.bytes ((List.range 256).map target)))

/-! ## Changing buffers -/

/-- The bytes that a buffer is extended by. -/
def extension (v : Value) : Run (List UInt8) := do
  match (← heap).bytes? v with
  | some bs => return bs
  | none =>
    match ← recovering Failure.isOfType (cursor v) with
    | some c => each (fun _ item => requireByte byteRangeText item) c
    | none =>
      throw (.badType ("can't extend bytearray with " ++
        Failure.moreBriefly ((← heap).qualifiedTypeName v)))

/-- The byte that a value stands for in a buffer. -/
def bufferByte (v : Value) : Run UInt8 := requireByte byteRangeText v

/-- Carries out a method by which a buffer is changed. -/
def callOfBuffer (c : MemberCall) (bs : List UInt8) : Run Value := do
  let put := fun (bs : List UInt8) => overwrite c.self (.buffer bs)
  match c.name, c.arguments with
  | "append", [x] => changing do put (bs ++ [← bufferByte x])
  | "clear", _ => changing (put [])
  | "copy", _ => alloc (.kind .buffer) (.buffer bs)
  | "extend", [x] => changing do
    let added ← extension x
    put ((((← heap).bytes? c.self).getD []) ++ added)
  | "insert", [place, x] => changing do
    let n ← indexOf place
    let b ← bufferByte x
    let n := (if n < 0 then max 0 (n + bs.length) else n).toNat
    put (bs.take n ++ b :: bs.drop n)
  | "pop", args => do
    let index ← (args.head?).elim (pure (-1)) indexOf
    if bs.isEmpty then throw (.indexOutOfRange "pop from empty bytearray")
    match positionOf? bs.length index with
    | some place =>
      put (bs.eraseIdx place)
      identified (.int (bs[place]?.getD 0).toNat)
    | none => throw (.indexOutOfRange "pop index out of range")
  | "remove", [x] => changing do
    let b ← bufferByte x
    match bs.findIdx? (· == b) with
    | some place => put (bs.eraseIdx place)
    | none => throw (.badValue "value not found in bytearray")
  | "reverse", _ => changing (put bs.reverse)
  | "__alloc__", _ => newInt (if bs.isEmpty then 0 else bs.length + 1)
  | "__delitem__", [key] => changing do
    put (bs.eraseIdx (← requirePosition (IndexRule.slicing "bytearray") bs.length key))
  | _, _ => return .null

/-! ## Methods -/

/-- Carries out a method of bytes or of buffers. -/
def callOfBytes (c : MemberCall) (bs : List UInt8) : Run Value := do
  match byteTests.lookup c.name, bytesTests.lookup c.name, byteMaps.lookup c.name,
    callTextual? bytesTextual c bs with
  | some test, _, _, _ => return .bool (!bs.isEmpty && bs.all test)
  | _, some test, _, _ => return .bool (test bs)
  | _, _, some change, _ =>
    if c.owner == .buffer then alloc (.kind .buffer) (.buffer (change bs))
    else identified (.scalar (.kind .bytes) unidentified (.bytes (change bs)))
  | _, _, _, some act => act
  | _, _, _, _ =>
    match c.name, c.arguments with
    | "decode", _ => do
      let (e, rule) ← encodingArguments c
      decodeBytes e rule bs
    | "hex", _ => hexForm c bs
    | "translate", _ => translateBytes c bs
    | "maketrans", [sources, targets] => newByteTable sources targets
    | "__getnewargs__", _ => do
      tuple [← identified (.scalar (.kind .bytes) unidentified (.bytes bs))]
    | "__bytes__", _ => bytesResult c bs
    | _, _ => callOfBuffer c bs

end Run

end ValueShape
