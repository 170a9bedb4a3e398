import ValueShape.Expression.Literal

/-!
# Tokens

The tokens that the text of an expression is made of.

* `tokens? cs` divides a text into tokens.  It fails if a literal is wrong, if brackets are not
  closed by their own kind, if a line is indented, or if a character belongs to no token.
* Outside brackets the end of a line is a token of its own, unless nothing but a comment stands on
  the line.
* The fields of a text follow it as expressions in parentheses.
-/

set_option autoImplicit false

namespace ValueShape

namespace Expression

/-- A token of an expression. -/
inductive Token where
  /-- A name that is not reserved. -/
  | name (s : String)
  /-- A number. -/
  | number
  /-- A text, of characters or of bytes. -/
  | text (ofBytes : Bool)
  /-- The beginning of a field of the text before. -/
  | field
  /-- A reserved word, an operator or a bracket. -/
  | mark (s : String)
  /-- The end of a line. -/
  | lineEnd
  deriving BEq

/-- The reserved words. -/
def reservedWords : List String := [
  "False", "None", "True", "and", "as", "assert", "async", "await", "break", "class", "continue",
  "def", "del", "elif", "else", "except", "finally", "for", "from", "global", "if", "import", "in",
  "is", "lambda", "nonlocal", "not", "or", "pass", "raise", "return", "try", "while", "with",
  "yield"]

/-- The operators and other signs, a longer one before its beginnings. -/
def signs : List String := [
  "**=", "//=", ">>=", "<<=", "...", "!=", "**", "//", "->", "<<", ">>", "<=", ">=", "==", ":=",
  "+=", "-=", "*=", "/=", "%=", "&=", "|=", "^=", "@=", "<>", ":", ",", ";", "+", "-", "*", "/",
  "|", "&", "<", ">", "=", ".", "%", "~", "^", "@"]

/-- The sign at the beginning, and what follows it. -/
def sign? (cs : List Char) : Option (String × List Char) :=
  (signs.find? fun s => s.toList.isPrefixOf cs).map fun s => (s, cs.drop s.length)

/-- The token of a word. -/
def wordToken (word : List Char) : Token :=
  let s := String.ofList word
  if reservedWords.contains s then .mark s else .name s

/-- Whether a word is a name or a reserved word. -/
def isWord (word : List Char) : Bool := word.head?.any isLetter && word.all isNamePart

/-- Whether a character is part of a word, or at least is no character of ASCII. -/
def isWordCharacter (c : Char) : Bool := isNamePart c || 0x80 ≤ c.toNat

/-- A text whose lines all end in the same way. -/
def withPlainLineEnds : List Char → List Char
  | '\r' :: '\n' :: cs => '\n' :: withPlainLineEnds cs
  | '\r' :: cs => '\n' :: withPlainLineEnds cs
  | c :: cs => c :: withPlainLineEnds cs
  | [] => []

/-- What a line holds after its indentation, and whether it is indented.  An indentation may go on
after a backslash at the end of a line, but then the part before counts. -/
def afterIndentation? (column first : Nat) : List Char → Option (Bool × List Char)
  | ' ' :: cs | '\t' :: cs => afterIndentation? (column + 1) first cs
  | '\x0c' :: cs => afterIndentation? 0 first cs
  | '\\' :: cs =>
    match cs with
    | '\n' :: c :: cs =>
      afterIndentation? column (if first == 0 then column else first) (c :: cs)
    | _ => none
  | cs => some ((if first == 0 then column else first) != 0, cs)

/-- The rest of a text after a comment, if it begins with one. -/
def afterComment (cs : List Char) : List Char :=
  if cs.head? == some '#' then cs.dropWhile (· != '\n') else cs

/-- The tokens from a quoted text on, which a word stands before that says how to read it; `after`
gives those of what follows it, and `inside` those of an expression in one of its fields. -/
def textTokens (after inside : List Char → Option (List Token)) (word cs : List Char) :
    Option (List Token) := do
  let m ← QuoteMarks.ofWord? word
  let (content, rest) ← quoted? cs
  if !isProperText m content then none
  let fields ← if m.hasFields then fieldsOf? m.isRaw content else some []
  let inner ← fields.mapM fun text => inside ('(' :: text ++ [')'])
  let others ← after rest
  return .text m.ofBytes :: inner.flatMap (fun ts => .field :: ts) ++ others

/-- The tokens of a text.  `nested` are the brackets that still have to be closed, `fresh` says
whether a line begins, and at most `fuel` steps are taken. -/
def tokensUpTo : Nat → Bool → List Char → List Char → Option (List Token)
  | 0, _, _, _ => none
  | fuel + 1, true, nested, cs => do
    let (indented, rest) ← afterIndentation? 0 0 cs
    let blank := rest.head? == some '#' || rest.head? == some '\n'
    if nested.isEmpty && indented && !blank then none
    match afterComment rest with
    | '\n' :: after =>
      if blank then tokensUpTo fuel true nested after
      else tokensUpTo fuel false nested rest
    | after => tokensUpTo fuel false nested after
  | _, false, _, [] => some []
  | fuel + 1, false, nested, c :: cs => do
    if c == ' ' || c == '\t' || c == '\x0c' then tokensUpTo fuel false nested cs
    else if c == '#' then tokensUpTo fuel false nested (cs.dropWhile (· != '\n'))
    else if c == '\n' then
      let after ← tokensUpTo fuel true nested cs
      return if nested.isEmpty then .lineEnd :: after else after
    else if c == '\\' then
      match cs with
      | '\n' :: d :: rest => tokensUpTo fuel false nested (d :: rest)
      | _ => none
    else if c.isDigit || c == '.' && cs.head?.any Char.isDigit then
      return .number :: (← tokensUpTo fuel false nested (← afterNumber? (c :: cs)))
    else if c == '"' || c == '\'' then
      textTokens (tokensUpTo fuel false nested) (tokensUpTo fuel false []) [] (c :: cs)
    else if isWordCharacter c then
      let word := (c :: cs).takeWhile isWordCharacter
      let rest := (c :: cs).dropWhile isWordCharacter
      let quoted := rest.head? == some '"' || rest.head? == some '\''
      if quoted && (QuoteMarks.ofWord? word).isSome then
        textTokens (tokensUpTo fuel false nested) (tokensUpTo fuel false []) word rest
      else if !isWord word then none
      else return wordToken word :: (← tokensUpTo fuel false nested rest)
    else match closing? c with
      | some closer =>
        if maxNested ≤ nested.length then none
        else return .mark (String.singleton c) :: (← tokensUpTo fuel false (closer :: nested) cs)
      | none =>
        if nested.head? == some c then
          return .mark (String.singleton c) :: (← tokensUpTo fuel false nested.tail cs)
        else do
          let (s, rest) ← sign? (c :: cs)
          return .mark s :: (← tokensUpTo fuel false nested rest)

/-- The tokens of a text. -/
def tokens? (cs : List Char) : Option (List Token) :=
  if cs.contains '\x00' then none
  else tokensUpTo (3 * cs.length + 3) true [] (withPlainLineEnds cs)

end Expression

end ValueShape
