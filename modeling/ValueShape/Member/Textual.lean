import ValueShape.Conduct.Convert
import ValueShape.Member.Arity
import ValueShape.Text.Pieces

/-!
# Methods of texts and bytes

Texts and bytes have most of their methods in common.

* A `Textual` says what a kind of them has of its own: how arguments are read, what results are made
  of, and which units are blanks or end a line.
* `Run.callTextual?` carries out a method that they have in common.
* `Run.sliceBounds` are the bounds of the part that some methods are limited to.
-/

set_option autoImplicit false

namespace ValueShape

/-- A kind of texts or bytes, whose units are of the type `α`. -/
structure Textual (α : Type) where
  /-- The units of an argument; the number is its place among the arguments. -/
  argument : MemberCall → Nat → Value → Run (List α)
  /-- The units that a method looks for. -/
  sought : MemberCall → Value → Run (List α)
  /-- The beginnings or ends that a method asks for. -/
  affixes : MemberCall → Value → Run (List (List α))
  /-- The unit that an argument names to fill with. -/
  filler : MemberCall → Value → Run α
  /-- The units of an element that is joined to others, at a place among them. -/
  joined : MemberCall → Nat → Value → Run (List α)
  /-- The value made of units. -/
  result : MemberCall → List α → Run Value
  /-- The unit that a character of ASCII is. -/
  unit : Char → α
  /-- Whether units cannot occur in others, since they are too many, or need more room each. -/
  outgrows : List α → List α → Bool
  /-- Whether a unit is a blank between words. -/
  isBlank : α → Bool
  /-- Whether a unit ends a line. -/
  isLineEnd : α → Bool
  /-- What is said where nothing is found. -/
  notFound : String
  /-- What is said about an argument to strip that is no text. -/
  notStrippable : MemberCall → Value → Run Failure

/-- Units cut into lines, with their ends if they are kept.  A carriage return and a line feed end a
line together. -/
def linesOf {α : Type} [BEq α] (t : Textual α) (keepEnds : Bool) :
    List α → List α → List (List α)
  | line, [] => if line.isEmpty then [] else [line.reverse]
  | line, a :: as =>
    if !t.isLineEnd a then linesOf t keepEnds (a :: line) as
    else if a == t.unit '\r' && as.head? == some (t.unit '\n') then
      linesOfFeed t keepEnds (a :: line) as
    else (if keepEnds then a :: line else line).reverse :: linesOf t keepEnds [] as
where
  /-- The lines where the first unit ends a line together with the one before it. -/
  linesOfFeed (t : Textual α) (keepEnds : Bool) (line : List α) : List α → List (List α)
    | [] => [line.reverse]
    | a :: as =>
      (if keepEnds then a :: line else line.drop 1).reverse :: linesOf t keepEnds [] as

/-- Units with every tab replaced by blanks up to the next multiple of `size` columns. -/
def expandTabs {α : Type} [BEq α] (t : Textual α) (size : Nat) : Nat → List α → List α
  | _, [] => []
  | column, a :: as =>
    if a == t.unit '\t' then
      let blanks := if size = 0 then 0 else size - column % size
      List.replicate blanks (t.unit ' ') ++ expandTabs t size (column + blanks) as
    else if a == t.unit '\n' || a == t.unit '\r' then a :: expandTabs t size 0 as
    else a :: expandTabs t size (column + 1) as

/-- Units with zeros in front, behind a sign. -/
def zeroFilled {α : Type} [BEq α] (t : Textual α) (width : Nat) (as : List α) : List α :=
  let zeros := List.replicate (width - as.length) (t.unit '0')
  match as with
  | a :: rest => if a == t.unit '+' || a == t.unit '-' then a :: zeros ++ rest else zeros ++ as
  | [] => zeros

namespace Run

/-! ## Bounds -/

/-- A bound of a slice: an integer, or none at all. -/
def sliceBound (default : Int) (v : Value) : Run Int := do
  match v with
  | .null => return default
  | v =>
    match ← asIndex? v with
    | some n => return max (-(maxIndex : Int)) (min n (maxIndex - 1))
    | none =>
      throw (.badType "slice indices must be integers or None or have an __index__ method")

/-- A bound of a part of a sequence that is searched. -/
def requireBound (v : Value) : Run Int := do
  match ← asIndex? v with
  | some n => return n
  | none => throw (.badType "slice indices must be integers or have an __index__ method")

/-- The bounds of a slice, given by the second and the third argument of a call. -/
def sliceBounds (c : MemberCall) : Run (Int × Int) := do
  let start ← (c.arguments[1]?).elim (pure 0) (sliceBound 0)
  let stop ← (c.arguments[2]?).elim (pure ((maxIndex : Int) - 1)) (sliceBound (maxIndex - 1))
  return (start, stop)

/-- The number that limits how often something is done; below zero, it is no limit. -/
def limitOf (length : Nat) : Option Value → Run Nat
  | none => return length + 1
  | some v => do
    let n ← indexOf v
    return if n < 0 then length + 1 else n.toNat

/-- A width, below zero no width at all. -/
def widthOf (v : Value) : Run Nat := do
  let n ← indexOf v
  if maxListLength ≤ n.toNat then throw .noMemory
  return n.toNat

/-- An integer of thirty-two bits. -/
def smallIntOf (v : Value) : Run Int := do
  let n ← asIndex v
  if maxIndex ≤ n.natAbs then throw (.tooLarge "Python int too large to convert to C long")
  if Nat.pow 2 31 ≤ n.natAbs then throw (.tooLarge "Python int too large to convert to C int")
  return n

/-! ## Methods

Texts and bytes have most methods in common.  What is different about them is in `Textual`: their
units, and how arguments are read. -/

variable {α : Type} [BEq α]

/-- The places at which a part occurs within the bounds that a call is limited to. -/
def soughtPlaces (t : Textual α) (c : MemberCall) (as : List α) : Run (List α × List Nat) := do
  let (start, stop) ← sliceBounds c
  let part ← t.sought c (c.arguments.head?.getD .null)
  return (part, (slice? as start stop).elim [] fun s => places part s.2 s.1)

/-- The place of an occurrence, if there is one. -/
def foundPlace (t : Textual α) (required : Bool) : Option Nat → Run Value
  | some n => identified (.int n)
  | none => if required then throw (.badValue t.notFound) else identified (.int (-1))

/-- The pieces of units between those of a separator, or between blanks.  A separator that cannot
occur leaves the object itself. -/
def splitUnits (t : Textual α) (c : MemberCall) (back : Bool) (as : List α) : Run Value := do
  let limit ← limitOf as.length c.arguments[1]?
  match c.arguments.head?.getD .null with
  | .null => do
    let pieces := if back then splitWordsBack t.isBlank limit as
      else splitWords t.isBlank (as.length + 1) limit as
    list (← pieces.mapM (t.result c))
  | x => do
    let part ← t.argument c 1 x
    if part.isEmpty then throw (.badValue "empty separator")
    if t.outgrows part as then return ← list [c.self]
    let pieces := if back then splitBetweenBack part limit as else splitBetween part limit as
    list (← pieces.mapM (t.result c))

/-- Units cut in three at the occurrence of a separator. -/
def partitionUnits (t : Textual α) (c : MemberCall) (back : Bool) (as : List α) : Run Value := do
  let x := c.arguments.head?.getD .null
  let part ← t.argument c 1 x
  if part.isEmpty then throw (.badValue "empty separator")
  match (if back then cutAtBack? part as else cutAt? part as) with
  | some (front, rest) => do tuple (← [front, part, rest].mapM (t.result c))
  | none => do
    let whole ← if c.owner == .buffer then t.result c as else pure c.self
    let empty ← [[], []].mapM (t.result c)
    tuple (if back then empty ++ [whole] else whole :: empty)

/-- Units without certain ones at their ends. -/
def stripUnits (t : Textual α) (c : MemberCall) (as : List α) : Run Value := do
  let test ← match c.arguments with
    | [] | [.null] => pure t.isBlank
    | x :: _ =>
      match ← recovering Failure.isOfType (t.argument c 1 x) with
      | some units => pure fun a => units.contains a
      | none => throw (← t.notStrippable c x)
  t.result c (match c.name with
    | "lstrip" => trimFront test as
    | "rstrip" => trimBack test as
    | _ => trimBack test (trimFront test as))

/-- Units with fillers around them, up to a width. -/
def padUnits (t : Textual α) (c : MemberCall) (as : List α) : Run Value := do
  let width ← widthOf (c.arguments.head?.getD .null)
  let filler ← (c.arguments[1]?).elim (pure (t.unit ' ')) (t.filler c)
  let lack := List.replicate (width - as.length) filler
  t.result c (match c.name with
    | "ljust" => as ++ lack
    | "rjust" => lack ++ as
    | _ => centered width filler as)

/-- What values are joined to, with the units between them. -/
def joinUnits (t : Textual α) (c : MemberCall) (as : List α) : Run Value := do
  let v := c.arguments.head?.getD .null
  match ← recovering Failure.isOfType (cursor v) with
  | none => throw (.badType "can only join an iterable")
  | some _ =>
    let items ← iterate v
    match items, c.owner with
    | [.scalar (.kind .text) id s], .text => return .scalar (.kind .text) id s
    | [.scalar (.kind .bytes) id s], .bytes => return .scalar (.kind .bytes) id s
    | items, _ =>
      let step := fun (done : Nat × List (List α)) (item : Value) => do
        return (done.1 + 1, (← t.joined c done.1 item) :: done.2)
      let (_, pieces) ← items.foldlM step (0, [])
      t.result c (as.intercalate pieces.reverse)

/-- Units with others in the place of a part of them. -/
def replaceUnits (t : Textual α) (c : MemberCall) (as : List α) : Run Value := do
  match c.arguments with
  | old :: new :: rest =>
    let old ← t.argument c 1 old
    let new ← t.argument c 2 new
    let limit ← limitOf as.length rest.head?
    t.result c (if old.isEmpty then
        replaced [] new (min limit (as.length + 1)) as
      else replaced old new limit as)
  | _ => return .null

/-- Whether units begin or end with a part, or with one of several parts. -/
def hasAffix (t : Textual α) (c : MemberCall) (as : List α) : Run Value := do
  let (start, stop) ← sliceBounds c
  let parts ← t.affixes c (c.arguments.head?.getD .null)
  return .bool <| (slice? as start stop).any fun s => parts.any fun part =>
    if c.name == "startswith" then part.isPrefixOf s.2 else part.isSuffixOf s.2

/-- Carries out a method that texts and bytes have in common. -/
def callTextual? (t : Textual α) (c : MemberCall) (as : List α) : Option (Run Value) :=
  let first := c.arguments.head?.getD .null
  match c.name with
  | "count" => some do
    let (part, found) ← soughtPlaces t c as
    identified (.int (apart (max part.length 1) 0 found).length)
  | "find" => some do foundPlace t false (← soughtPlaces t c as).2.head?
  | "rfind" => some do foundPlace t false (← soughtPlaces t c as).2.getLast?
  | "index" => some do foundPlace t true (← soughtPlaces t c as).2.head?
  | "rindex" => some do foundPlace t true (← soughtPlaces t c as).2.getLast?
  | "startswith" | "endswith" => some (hasAffix t c as)
  | "strip" | "lstrip" | "rstrip" => some (stripUnits t c as)
  | "split" => some (splitUnits t c false as)
  | "rsplit" => some (splitUnits t c true as)
  | "partition" => some (partitionUnits t c false as)
  | "rpartition" => some (partitionUnits t c true as)
  | "join" => some (joinUnits t c as)
  | "replace" => some (replaceUnits t c as)
  | "removeprefix" => some do
    let part ← t.argument c 1 first
    t.result c (if part.isPrefixOf as then as.drop part.length else as)
  | "removesuffix" => some do
    let part ← t.argument c 1 first
    t.result c (if part.isSuffixOf as then as.take (as.length - part.length) else as)
  | "center" | "ljust" | "rjust" => some (padUnits t c as)
  | "zfill" => some do t.result c (zeroFilled t (← widthOf first) as)
  | "expandtabs" => some do
    let size ← (c.arguments.head?).elim (pure 8) smallIntOf
    t.result c (expandTabs t size.toNat 0 as)
  | "splitlines" => some do
    let keepEnds ← (c.arguments.head?).elim (pure 0) smallIntOf
    list (← (linesOf t (keepEnds != 0) [] as).mapM (t.result c))
  | _ => none

end Run

end ValueShape
