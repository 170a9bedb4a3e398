import ValueShape.Conduct.Writing
import ValueShape.Member.Textual
import ValueShape.Text.Case
import ValueShape.Text.Lines
import ValueShape.Text.Printable

/-!
# Methods of texts

`Run.callOfText` carries out the methods of texts, apart from those that operations are carried out
by.

* `textual` says what texts have of their own among the methods that they share with bytes.
* `characterTests` are the questions about all characters of a text, and `characterMaps` the texts
  that are made of the characters of another one.
* A translation table is anything that has a part under the code point of a character.
-/

set_option autoImplicit false

namespace ValueShape

/-- The questions about all characters of a text, which no empty text passes. -/
def characterTests : List (String × (Char → Bool)) :=
  [("isdigit", isDigit), ("isdecimal", isDecimal), ("isnumeric", isNumeric),
    ("isalpha", isAlphabetic), ("isalnum", isAlphanumeric), ("isspace", isWhite)]

/-- The questions about a text as a whole. -/
def textTests : List (String × (List Char → Bool)) :=
  [("isascii", fun cs => cs.all fun c => decide (c.toNat < 0x80)),
    ("isprintable", fun cs => cs.all isPrintable), ("islower", isLowerText),
    ("isupper", isUpperText), ("istitle", isTitledText),
    ("isidentifier", fun cs => cs.head?.any isLetter && (cs.drop 1).all isNamePart)]

/-- The texts that are made of the characters of another one. -/
def characterMaps : List (String × (List Char → List Char)) :=
  [("upper", upperedText), ("lower", loweredText), ("casefold", foldedText),
    ("swapcase", swappedText), ("title", titledText), ("capitalize", capitalizedText)]

namespace Run

/-! ## Arguments -/

/-- The characters of an argument that has to be a text. -/
def textArgument (refusal : String → String) (v : Value) : Run (List Char) := do
  match v.text? with
  | some s => return s.toList
  | none => throw (.badType (refusal (Failure.briefly ((← heap).qualifiedTypeName v))))

/-- The text about an argument of a method that is no text. -/
def notText (c : MemberCall) (place : Nat) (typeName : String) : String :=
  match c.name with
  | "split" | "rsplit" => "must be str or None, not " ++ typeName
  | "replace" => "replace() argument " ++ place.repr ++ " must be str, not " ++ typeName
  | "removeprefix" | "removesuffix" => c.name ++ "() argument must be str, not " ++ typeName
  | _ => "must be str, not " ++ typeName

/-- A text made of characters: the object of the call if it has the same characters. -/
def textResult (c : MemberCall) (cs : List Char) : Run Value := do
  match c.self with
  | .scalar (.kind .text) id (.text s) =>
    if s.toList == cs then return .scalar (.kind .text) id (.text s)
    identified (.text (String.ofList cs))
  | _ => identified (.text (String.ofList cs))

/-- The beginnings or ends that a method of texts asks for. -/
def textAffixes (c : MemberCall) (v : Value) : Run (List (List Char)) := do
  match v with
  | .tuple _ _ items =>
    items.mapM (textArgument fun t => "tuple for " ++ c.name ++ " must only contain str, not " ++ t)
  | x => do
    let refusal := fun (t : String) => c.name ++ " first arg must be str or a tuple of str, not " ++ t
    return [← textArgument refusal x]

/-- The character that an argument names to fill with. -/
def fillCharacter (v : Value) : Run Char := do
  match v.text?.map String.toList with
  | some [d] => return d
  | some _ => throw (.badType "The fill character must be exactly one character long")
  | none =>
    throw (.badType ("The fill character must be a unicode character, not " ++
      Failure.moreBriefly ((← heap).qualifiedTypeName v)))

/-- The text of an element that is joined to others. -/
def joinedText (place : Nat) (v : Value) : Run (List Char) := do
  match v.text? with
  | some s => return s.toList
  | none =>
    throw (.badType ("sequence item " ++ place.repr ++ ": expected str instance, " ++
      cut 80 ((← heap).qualifiedTypeName v) ++ " found"))

/-- The room that each character of a text needs, if they all get the same. -/
def charSize (cs : List Char) : Nat :=
  if cs.any (0xffff < ·.toNat) then 4 else if cs.any (0xff < ·.toNat) then 2 else 1

/-- What texts have of their own. -/
def textual : Textual Char where
  argument c place v := textArgument (notText c place) v
  sought c v := textArgument (notText c 1) v
  affixes := textAffixes
  filler _ v := fillCharacter v
  joined _ := joinedText
  result := textResult
  unit d := d
  outgrows part cs := cs.length < part.length || charSize cs < charSize part
  isBlank := isWhite
  isLineEnd := isLineBoundary
  notFound := "substring not found"
  notStrippable c _ := return .badType (c.name ++ " arg must be None or str")

/-! ## Translation -/

/-- The failure of a table that translates a character into something unsuitable. -/
def mistranslated : Failure :=
  .badType "character mapping must return integer, None or str"

/-- What a table translates a character into. -/
def translateChar (table : Value) (d : Char) : Run (List Char) := do
  let misses := fun (e : Failure) => e.isOfKey || e.isOfIndex
  match ← recovering misses do item table (← identified (.int d.toNat)) with
  | none => return [d]
  | some .null => return []
  | some v =>
    match v.text?, v.index? with
    | some s, _ => return s.toList
    | none, some n =>
      if 0 ≤ n && n ≤ 0x10ffff then return [Char.ofNat n.toNat]
      throw (.badValue "character mapping must be in range(0x110000)")
    | none, none => throw mistranslated

/-- The key of a translation table that a key of a mapping stands for. -/
def tableKey (v : Value) : Run Value := do
  match v.text?.map String.toList, v.index? with
  | some [d], _ => identified (.int d.toNat)
  | some _, _ => throw (.badValue "string keys in translate table must be of length 1")
  | none, some _ => return v
  | none, none => throw (.badType "keys in translate table must be strings or integers")

/-- A translation table from one text to another one of the same length, and without certain
characters. -/
def tableBetween (sources targets removed : List Char) : Run Value := do
  if sources.length != targets.length then
    throw (.badValue "the first two maketrans arguments must have equal length")
  let code := fun (d : Char) => identified (.int d.toNat)
  let moved ← (sources.zip targets).mapM fun p => do return (← code p.1, ← code p.2)
  newDict (.kind .dict) (moved ++ (← removed.mapM fun d => do return (← code d, Value.null)))

/-- A new translation table. -/
def newTable (args : List Value) : Run Value := do
  let argument := fun (place : Nat) =>
    textArgument fun t => "maketrans() argument " ++ place.repr ++ " must be str, not " ++ t
  match args with
  | [x] =>
    match (← heap).entries? x with
    | some es => newDict (.kind .dict) (← es.mapM fun e => do return (← tableKey e.1.value, e.2))
    | none => throw (.badType "if you give only one argument to maketrans it must be a dict")
  | x :: y :: rest =>
    let targets ← argument 2 y
    let removed ← (rest.head?).elim (pure []) (argument 3)
    match x.text? with
    | some s => tableBetween s.toList targets removed
    | none =>
      throw (.badType "first maketrans argument must be a string if there is a second argument")
  | [] => return .null

/-! ## Methods -/

/-- Carries out a method of texts. -/
def callOfText (c : MemberCall) (s : String) : Run Value := do
  let cs := s.toList
  match characterTests.lookup c.name, textTests.lookup c.name, characterMaps.lookup c.name,
    callTextual? textual c cs with
  | some test, _, _, _ => return .bool (!cs.isEmpty && cs.all test)
  | _, some test, _, _ => return .bool (test cs)
  | _, _, some change, _ => identified (.text (String.ofList (change cs)))
  | _, _, _, some act => act
  | _, _, _, _ =>
    match c.name, c.arguments with
    | "translate", [table] => do
      textResult c (← cs.mapM (translateChar table)).flatten
    | "maketrans", args => newTable args
    | "__getnewargs__", _ => do tuple [← identified (.text s)]
    | _, _ => return .null

end Run

end ValueShape
