import ValueShape.Expression.Token

/-!
# Expressions

Which texts are expressions, as those that name a type before it exists.

* `isExpression cs` says whether `cs` is one expression, or several with commas between them.
* Reading goes from the operators that bind least to those that bind most, by one function a level.
  All that is kept of what was read is its `Shape`, which says whether it may be assigned to, and
  its `Traits`, which say what the scope around it has to allow.
* A scope is the whole text, a function or a comprehension.  Results are yielded inside functions
  only, and nothing waits outside a generator.  A name that a comprehension goes through is not
  assigned inside it, and nothing is assigned in what it goes through.
-/

set_option autoImplicit false

namespace ValueShape

namespace Expression

/-! ## What is kept

Reading builds no tree.  It keeps as much as decides whether all of the text is an expression. -/

/-- What was read, as far as it matters for what stands around it. -/
inductive Shape where
  /-- A name. -/
  | name (s : String)
  /-- A named part of something. -/
  | part (s : String)
  /-- What stands in something under a key. -/
  | item
  /-- Several things in a row. -/
  | several (parts : List Shape)
  /-- What stands for its members. -/
  | starred (content : Shape)
  /-- A name with a value that is assigned to it. -/
  | assignment
  /-- Anything else. -/
  | other

namespace Shape

/-- Whether this stands for its members. -/
def isStarred : Shape → Bool
  | .starred _ => true
  | _ => false

/-- Whether this assigns a value to a name. -/
def isAssignment : Shape → Bool
  | .assignment => true
  | _ => false

/-- Whether this may stand on its own: it neither assigns anything nor stands for its members. -/
def isPlain (s : Shape) : Bool := !s.isStarred && !s.isAssignment

/-- The one name that is never assigned to. -/
def fixedName : String := "__debug__"

mutual

/-- Whether values may be assigned to this. -/
def isTarget : Shape → Bool
  | .name s | .part s => s != fixedName
  | .item => true
  | .several parts => areTargets parts && (parts.filter isStarred).length ≤ 1
  | .starred content => content.isTarget
  | .assignment | .other => false

/-- Whether values may be assigned to all of these. -/
def areTargets : List Shape → Bool
  | [] => true
  | s :: parts => s.isTarget && areTargets parts

end

mutual

/-- The names that this assigns to. -/
def names : Shape → List String
  | .name s => [s]
  | .several parts => namesOfAll parts
  | .starred content => content.names
  | _ => []

/-- The names that these assign to. -/
def namesOfAll : List Shape → List String
  | [] => []
  | s :: parts => s.names ++ namesOfAll parts

end

end Shape

/-- What the scope around an expression has to allow. -/
structure Traits where
  /-- The names that are assigned in the scope. -/
  assigned : List String
  /-- Whether anything is assigned, in the scope or in a function inside it. -/
  assigns : Bool
  /-- Whether something is waited for. -/
  waits : Bool
  /-- Whether results are yielded. -/
  yields : Bool

namespace Traits

/-- Those of an expression that needs nothing. -/
def none : Traits := ⟨[], false, false, false⟩

/-- Those of two expressions in the same scope. -/
def join (t u : Traits) : Traits :=
  ⟨t.assigned ++ u.assigned, t.assigns || u.assigns, t.waits || u.waits, t.yields || u.yields⟩

end Traits

/-! ## Reading -/

/-- How far reading has come. -/
structure Progress where
  /-- The tokens that have not been read. -/
  rest : List Token
  /-- What the scope at hand has to allow for what was read. -/
  traits : Traits

/-- Reading may fail, and goes forward by tokens. -/
abbrev Reading := StateT Progress Option

namespace Reading

/-- The next token. -/
def peek : Reading (Option Token) := do return (← get).rest.head?

/-- Leaves out the next token. -/
def skip : Reading Unit := modify fun p => { p with rest := p.rest.tail }

/-- Whether the next token is a sign or a reserved word. -/
def sees (s : String) : Reading Bool := do return (← peek) == some (.mark s)

/-- Reads a sign or a reserved word if it comes next. -/
def takes (s : String) : Reading Bool := do
  if ← sees s then
    skip
    return true
  else return false

/-- Reads a sign or a reserved word, which has to come next. -/
def expect (s : String) : Reading Unit := do guard (← takes s)

/-- The name that comes next, if it stands before a sign. -/
def nameBefore? (s : String) : Reading (Option String) := do
  match (← get).rest with
  | .name n :: .mark t :: _ => return if s == t then some n else none
  | _ => return none

/-- Reads a name. -/
def name : Reading String := do
  match ← peek with
  | some (.name s) =>
    skip
    return s
  | _ => failure

/-- Takes notice of what the scope at hand has to allow. -/
def note (t : Traits) : Reading Unit := modify fun p => { p with traits := p.traits.join t }

/-- Reads in a scope of its own, and gives what that has to allow. -/
def apart {α : Type} (read : Reading α) : Reading (α × Traits) := do
  let outer := (← get).traits
  modify fun p => { p with traits := .none }
  let a ← read
  let inner := (← get).traits
  modify fun p => { p with traits := outer }
  return (a, inner)

/-! ## Operators

Operators differ in how closely they bind, so they are listed by levels, and one function reads
those of any level. -/

/-- The levels of operators that stand between two operands, those that bind least first.  Between
the second and the third stand the negations, and then the comparisons. -/
def binaryLevels : List (List String) := [
  ["or"], ["and"], [], [], ["|"], ["^"], ["&"], ["<<", ">>"], ["+", "-"], ["*", "/", "//", "%", "@"]]

/-- The level of the negations. -/
def negationLevel : Nat := 2

/-- The level of the comparisons. -/
def comparisonLevel : Nat := 3

/-- The level at which a value may be taken apart or follow a star. -/
def starLevel : Nat := 4

/-- Reads a comparison sign, if one comes next. -/
def takesComparison : Reading Bool := do
  match (← get).rest with
  | .mark "not" :: .mark "in" :: _ | .mark "is" :: .mark "not" :: _ =>
    skip
    skip
    return true
  | .mark s :: _ =>
    if ["==", "!=", "<", "<=", ">", ">=", "in", "is"].contains s then
      skip
      return true
    else return false
  | _ => return false

/-- Reads an operator of a level, if one comes next. -/
def takesOperator (level : Nat) : Reading Bool := do
  if level == comparisonLevel then takesComparison
  else match ← peek with
    | some (.mark s) =>
      if (binaryLevels[level]?.getD []).contains s then
        skip
        return true
      else return false
    | _ => return false

/-! ## Functions and comprehensions -/

/-- What has been read of the parameters of a function. -/
structure Parameters where
  /-- Their names. -/
  names : List String
  /-- Whether the parameters before have been closed. -/
  closed : Bool
  /-- Whether there was a star. -/
  starred : Bool
  /-- Whether a parameter has to follow a star. -/
  waiting : Bool
  /-- Whether there was a parameter with a value of its own. -/
  optional : Bool
  /-- Whether there was a parameter for all others. -/
  complete : Bool

/-- The parameters with another one, whose name has to be new. -/
def Parameters.add (ps : Parameters) (name : String) : Reading Parameters := do
  guard (!ps.names.contains name && name != Shape.fixedName && !ps.complete)
  return { ps with names := name :: ps.names, waiting := false }

/-- Whether values may be assigned to what stands between *for* and *in*, which goes through a
row of one or more things. -/
def requireTargets (parts : List Shape) (row : Bool) : Reading (List String) := do
  let target := if row then Shape.several parts else parts.head?.getD .other
  guard (target.isTarget && !target.isStarred)
  return target.names

/-- Closes the scope of a comprehension, which goes through `names`. -/
def closeComprehension (generator waits : Bool) (names : List String) (inner : Traits) :
    Reading Unit := do
  guard (!inner.yields && inner.assigned.all fun n => !names.contains n)
  note { inner with waits := !generator && (waits || inner.waits) }

/-! ## Expressions

The functions call each other, and each gives less fuel to those that it calls.  How much there is
in the beginning grows with the number of tokens. -/

mutual

/-- Reads an expression. -/
def expression : Nat → Reading Shape
  | 0 => failure
  | fuel + 1 => do
    if ← takes "lambda" then function fuel
    else
      let s ← operation fuel 0
      if ← takes "if" then
        discard (operation fuel 0)
        expect "else"
        discard (expression fuel)
        return .other
      else return s

/-- Reads operands of a level and the operators between them. -/
def operation : Nat → Nat → Reading Shape
  | 0, _ => failure
  | fuel + 1, level => do
    if binaryLevels.length ≤ level then factor fuel
    else if level == negationLevel then
      if ← takes "not" then
        discard (operation fuel level)
        return .other
      else operation fuel (level + 1)
    else
      let s ← operation fuel (level + 1)
      if ← takesOperator level then
        operands fuel level
        return .other
      else return s

/-- Reads an operand after an operator, and all that follow at the same level. -/
def operands : Nat → Nat → Reading Unit
  | 0, _ => failure
  | fuel + 1, level => do
    discard (operation fuel (level + 1))
    if ← takesOperator level then operands fuel level

/-- Reads an operand with its signs and its exponent. -/
def factor : Nat → Reading Shape
  | 0 => failure
  | fuel + 1 => do
    if (← sees "+") || (← sees "-") || (← sees "~") then
      skip
      discard (factor fuel)
      return .other
    else
      let waits ← takes "await"
      if waits then note { Traits.none with waits := true }
      let s ← trailers fuel (← atom fuel)
      if ← takes "**" then
        discard (factor fuel)
        return .other
      else return if waits then .other else s

/-- Reads the parts, items and calls that follow a value. -/
def trailers : Nat → Shape → Reading Shape
  | 0, _ => failure
  | fuel + 1, s => do
    if ← takes "." then trailers fuel (.part (← name))
    else if ← takes "(" then
      arguments fuel [] false false true
      trailers fuel .other
    else if ← takes "[" then
      slices fuel
      trailers fuel .item
    else return s

/-- Reads a value without operators. -/
def atom : Nat → Reading Shape
  | 0 => failure
  | fuel + 1 => do
    match ← peek with
    | some (.name s) =>
      skip
      return .name s
    | some .number =>
      skip
      return .other
    | some (.text ofBytes) =>
      texts fuel ofBytes
      return .other
    | some (.mark s) =>
      skip
      if ["None", "True", "False", "..."].contains s then return .other
      else if s == "(" then group fuel
      else if s == "[" then
        if ← takes "]" then return .several []
        let (first, traits) ← apart (element fuel)
        display fuel "]" false false first traits
      else if s == "\x7b" then brace fuel
      else failure
    | _ => failure

/-- Reads texts that stand side by side, with their fields. -/
def texts : Nat → Bool → Reading Unit
  | 0, _ => failure
  | fuel + 1, ofBytes => do
    match ← peek with
    | some (.text other) =>
      guard (other == ofBytes)
      skip
      texts fuel ofBytes
    | some .field =>
      skip
      discard (atom fuel)
      texts fuel ofBytes
    | _ => return ()

/-- Reads what stands in parentheses. -/
def group : Nat → Reading Shape
  | 0 => failure
  | fuel + 1 => do
    if ← takes ")" then return .several []
    else if ← takes "yield" then
      note { Traits.none with yields := true }
      if ← takes "from" then discard (expression fuel)
      else if !(← sees ")") then results fuel
      expect ")"
      return .other
    else
      let (first, traits) ← apart (element fuel)
      display fuel ")" true true first traits

/-- Reads the results that are yielded. -/
def results : Nat → Reading Unit
  | 0 => failure
  | fuel + 1 => do
    if ← takes "*" then discard (operation fuel starLevel)
    else discard (expression fuel)
    if ← takes "," then
      if !(← sees ")") then results fuel

/-- Reads an expression to which a name may be given. -/
def named : Nat → Reading Shape
  | 0 => failure
  | fuel + 1 => do
    match ← nameBefore? ":=" with
    | some s =>
      guard (s != Shape.fixedName)
      skip
      skip
      discard (expression fuel)
      note ⟨[s], true, false, false⟩
      return .assignment
    | none => expression fuel

/-- Reads an element of a row, which may stand for its members. -/
def element : Nat → Reading Shape
  | 0 => failure
  | fuel + 1 => do
    if ← takes "*" then return .starred (← operation fuel starLevel)
    else named fuel

/-- Reads what follows the first element in brackets: the rest of a comprehension or of a row.
`single` says whether one element without a comma is no row, and `generator` whether a
comprehension is a generator. -/
def display : Nat → String → Bool → Bool → Shape → Traits → Reading Shape
  | 0, _, _, _, _, _ => failure
  | fuel + 1, closer, single, generator, first, traits => do
    if (← sees "for") || (← sees "async") then
      guard (!first.isStarred)
      comprehension fuel generator traits
      expect closer
      return .other
    else
      note traits
      if ← takes closer then
        guard (!single || !first.isStarred)
        if !single then return .several [first]
        else return if first.isAssignment then .other else first
      else
        expect ","
        return .several (first :: (← row fuel closer))

/-- Reads the elements of a row up to a closing bracket. -/
def row : Nat → String → Reading (List Shape)
  | 0, _ => failure
  | fuel + 1, closer => do
    if ← takes closer then return []
    let s ← element fuel
    if ← takes closer then return [s]
    expect ","
    return s :: (← row fuel closer)

/-- Reads a set or a mapping in braces. -/
def brace : Nat → Reading Shape
  | 0 => failure
  | fuel + 1 => do
    if ← takes "\x7d" then return .other
    if ← sees "**" then
      entries fuel
      return .other
    let (first, traits) ← apart (element fuel)
    if ← takes ":" then
      guard first.isPlain
      let (_, more) ← apart (expression fuel)
      let traits := traits.join more
      if (← sees "for") || (← sees "async") then
        comprehension fuel false traits
        expect "\x7d"
      else
        note traits
        if !(← takes "\x7d") then
          expect ","
          entries fuel
      return .other
    else
      discard (display fuel "\x7d" false false first traits)
      return .other

/-- Reads the entries of a mapping up to the closing brace. -/
def entries : Nat → Reading Unit
  | 0 => failure
  | fuel + 1 => do
    if ← takes "\x7d" then return ()
    if ← takes "**" then discard (operation fuel starLevel)
    else
      discard (expression fuel)
      expect ":"
      discard (expression fuel)
    if ← takes "\x7d" then return ()
    expect ","
    entries fuel

/-- Reads what a comprehension goes through, and closes its scope, in which an element has been
read.  The first row belongs to the scope around. -/
def comprehension : Nat → Bool → Traits → Reading Unit
  | 0, _, _ => failure
  | fuel + 1, generator, traits => do
    let waits ← takes "async"
    expect "for"
    let (names, ofTargets) ← apart (targets fuel [] false)
    let (_, ofRow) ← apart (operation fuel 0)
    guard !ofRow.assigns
    note ofRow
    let ((names, waits), inner) ← apart (clauses fuel names waits)
    closeComprehension generator waits names ((traits.join ofTargets).join inner)

/-- Reads the conditions and further rows of a comprehension. -/
def clauses : Nat → List String → Bool → Reading (List String × Bool)
  | 0, _, _ => failure
  | fuel + 1, names, waits => do
    if ← takes "if" then
      discard (operation fuel 0)
      clauses fuel names waits
    else if (← sees "for") || (← sees "async") then
      let waits := waits || (← takes "async")
      expect "for"
      let more ← targets fuel [] false
      let (_, ofRow) ← apart (operation fuel 0)
      guard !ofRow.assigns
      note ofRow
      clauses fuel (names ++ more) waits
    else return (names, waits)

/-- Reads what a comprehension assigns the members of a row to, up to the word before the row, and
gives the names in it. -/
def targets : Nat → List Shape → Bool → Reading (List String)
  | 0, _, _ => failure
  | fuel + 1, parts, row => do
    let starred ← takes "*"
    let s ← operation fuel starLevel
    let parts := parts ++ [if starred then .starred s else s]
    if ← takes "in" then requireTargets parts row
    else
      expect ","
      if ← takes "in" then requireTargets parts true
      else targets fuel parts true

/-- Reads the arguments of a call up to the closing parenthesis.  `names` are the names that
arguments were given by, `byName` says whether there was such an argument or a mapping of them,
`unpacked` whether there was a mapping, and `first` whether there was no argument. -/
def arguments : Nat → List String → Bool → Bool → Bool → Reading Unit
  | 0, _, _, _, _ => failure
  | fuel + 1, names, byName, unpacked, first => do
    if ← takes ")" then return ()
    if ← takes "**" then
      discard (expression fuel)
      moreArguments fuel names true true
    else if ← takes "*" then
      guard !unpacked
      discard (expression fuel)
      moreArguments fuel names byName unpacked
    else match ← nameBefore? "=" with
      | some s =>
        guard (!names.contains s && s != Shape.fixedName)
        skip
        skip
        discard (expression fuel)
        moreArguments fuel (s :: names) true unpacked
      | none =>
        guard !byName
        let (_, traits) ← apart (named fuel)
        if (← sees "for") || (← sees "async") then
          guard first
          comprehension fuel true traits
          expect ")"
        else
          note traits
          moreArguments fuel names byName unpacked

/-- Reads the end of the arguments of a call, or further ones. -/
def moreArguments : Nat → List String → Bool → Bool → Reading Unit
  | 0, _, _, _ => failure
  | fuel + 1, names, byName, unpacked => do
    if ← takes ")" then return ()
    expect ","
    arguments fuel names byName unpacked false

/-- Reads the keys and slices of an item up to the closing bracket. -/
def slices : Nat → Reading Unit
  | 0 => failure
  | fuel + 1 => do
    if ← takes "*" then discard (expression fuel)
    else slice fuel
    if ← takes "]" then return ()
    expect ","
    if ← takes "]" then return ()
    slices fuel

/-- Reads a key or a slice. -/
def slice : Nat → Reading Unit
  | 0 => failure
  | fuel + 1 => do
    if !(← sees ":") then
      let s ← named fuel
      if !(← sees ":") then return ()
      guard !s.isAssignment
    expect ":"
    bound fuel
    if ← takes ":" then bound fuel

/-- Reads a bound of a slice, which may be left out. -/
def bound : Nat → Reading Unit
  | 0 => failure
  | fuel + 1 => do
    if !((← sees ":") || (← sees ",") || (← sees "]")) then discard (expression fuel)

/-- Reads the parameters and the body of a function. -/
def function : Nat → Reading Shape
  | 0 => failure
  | fuel + 1 => do
    let (ps, traits) ← apart (parameters fuel ⟨[], false, false, false, false, false⟩)
    note traits
    guard !ps.waiting
    let (_, inner) ← apart (expression fuel)
    guard !inner.waits
    note { Traits.none with assigns := inner.assigns }
    return .other

/-- Reads the parameters of a function up to the colon. -/
def parameters : Nat → Parameters → Reading Parameters
  | 0, _ => failure
  | fuel + 1, ps => do
    if ← takes ":" then return ps
    let ps ← parameter fuel ps
    if ← takes ":" then return ps
    expect ","
    parameters fuel ps

/-- Reads a parameter of a function, or a sign that parts them. -/
def parameter : Nat → Parameters → Reading Parameters
  | 0, _ => failure
  | fuel + 1, ps => do
    guard !ps.complete
    if ← takes "/" then
      guard (!ps.names.isEmpty && !ps.closed && !ps.starred)
      return { ps with closed := true }
    else if ← takes "**" then
      guard !ps.waiting
      let ps ← ps.add (← name)
      return { ps with complete := true }
    else if ← takes "*" then
      guard !ps.starred
      if ← sees "," then return { ps with starred := true, waiting := true }
      let ps ← ps.add (← name)
      return { ps with starred := true }
    else
      let ps ← ps.add (← name)
      if ← takes "=" then
        discard (expression fuel)
        return { ps with optional := true }
      guard (ps.starred || !ps.optional)
      return ps

end

/-- Reads expressions with commas between them up to the end. -/
def expressions : Nat → Reading Unit
  | 0 => failure
  | fuel + 1 => do
    let s ← expression fuel
    guard s.isPlain
    if ← takes "," then
      match ← peek with
      | none | some .lineEnd => return ()
      | _ => expressions fuel

end Reading

/-- Whether tokens make an expression. -/
def areExpression (ts : List Token) : Bool :=
  let fuel := 20 * ts.length + 20
  match (Reading.expressions fuel).run ⟨ts, .none⟩ with
  | some (_, p) => p.rest.all (· == .lineEnd) && !p.traits.waits && !p.traits.yields
  | none => false

end Expression

/-- Whether a text is an expression.  One that begins with a star stands for the members of
something, which it gives to a row. -/
def isExpression (cs : List Char) : Bool :=
  let cs := if cs.head? == some '*' then '(' :: cs ++ ",)[0]".toList else cs
  (Expression.tokens? cs).any Expression.areExpression

end ValueShape
