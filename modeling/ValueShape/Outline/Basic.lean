import ValueShape.Text.Lines

/-!
# Outlines

An `Outline` is what a rendering shows of a value: the texts of its leaves, the nesting of its
containers, and the places where the nesting was cut.  Laying out an outline turns it into text.

* A `LineLimit` says how long a line of items may be.
* `bracket` writes items between brackets.  They stand on one line if that line is within the limit
  and has no line feed; otherwise each item has lines of its own, indented by two spaces.
* `Outline.layout` writes a whole outline from the inside out, so an item that is broken itself
  breaks everything around it, and its lines move right by two spaces for each broken container.
* The members of a set are written in the order of their texts, unless they are arranged in some
  order of their own.  A tuple with one element is never broken by itself.
-/

set_option autoImplicit false

namespace ValueShape

/-- What a rendering shows of a value. -/
inductive Outline
  /-- A text that stands for itself. -/
  | leaf (text : List Char)
  /-- A container inside itself. -/
  | circular
  /-- A container nested too deeply. -/
  | cut
  /-- A list. -/
  | list (items : List Outline)
  /-- A tuple. -/
  | tuple (items : List Outline)
  /-- A set; an empty one is shown by the name of its class. -/
  | set (typeName : List Char) (items : List Outline)
  /-- A set whose members have been put into an order already. -/
  | arranged (items : List Outline)
  /-- A mapping, entry by entry. -/
  | mapping (entries : List (Outline × Outline))

instance : Inhabited Outline := ⟨.circular⟩

/-! ## Line limits -/

/-- How long a line of items may be. -/
inductive LineLimit
  /-- No line is short enough. -/
  | never
  /-- A line has at most `n` characters. -/
  | upTo (n : Nat)
  /-- Every line is short enough. -/
  | always
deriving DecidableEq, Repr

/-- Whether a line of `length` characters is within the limit. -/
def LineLimit.allows (limit : LineLimit) (length : Nat) : Bool :=
  match limit with
  | never => false
  | upTo n => length ≤ n
  | always => true

theorem LineLimit.allows_upTo (n length : Nat) : (upTo n).allows length = decide (length ≤ n) := rfl

/-! ## Brackets

Items stand on one line if they fit.  Otherwise each of them has a line of its own, one level
further in. -/

/-- The indentation of one level. -/
def indent : List Char := [' ', ' ']

/-- Items on one line. -/
def oneLine (items : List (List Char)) : List Char := [',', ' '].intercalate items

/-- Items on lines of their own, indented by one level. -/
def indented (items : List (List Char)) : List Char :=
  joinLines ((lines ([',', '\n'].intercalate items)).map (indent ++ ·))

/-- Whether items stand on one line. -/
def fits (limit : LineLimit) (items : List (List Char)) : Bool :=
  limit.allows (oneLine items).length && !(oneLine items).contains '\n'

/-- Items between brackets. -/
def bracket (limit : LineLimit) (opener closer : Char) (items : List (List Char)) : List Char :=
  if fits limit items then opener :: oneLine items ++ [closer]
  else opener :: '\n' :: indented items ++ ['\n', closer]

/-! ## Layout

Layout goes from the inside out.  A container is broken or not by the texts of what stands inside,
which are known by then. -/

/-- The order of texts by their characters. -/
def textLE (s t : List Char) : Bool := !decide (t < s)

namespace Outline

/-- What stands for a container inside itself. -/
def circularText : List Char := "<circular>".toList

/-- What stands for a container nested too deeply. -/
def cutText : List Char := "...".toList

mutual

/-- The text of an outline. -/
def layout (limit : LineLimit) : Outline → List Char
  | leaf text => text
  | circular => circularText
  | cut => cutText
  | list items => bracket limit '[' ']' (layoutAll limit items)
  | tuple items =>
    match layoutAll limit items with
    | [item] => '(' :: item ++ [',', ')']
    | items => bracket limit '(' ')' items
  | set typeName items =>
    match (layoutAll limit items).mergeSort textLE with
    | [] => typeName ++ ['(', ')']
    | items => bracket limit '\x7b' '\x7d' items
  | arranged items => bracket limit '\x7b' '\x7d' (layoutAll limit items)
  | mapping entries => bracket limit '\x7b' '\x7d' (layoutEntries limit entries)

/-- The texts of several outlines. -/
def layoutAll (limit : LineLimit) : List Outline → List (List Char)
  | [] => []
  | o :: os => layout limit o :: layoutAll limit os

/-- The texts of the entries of a mapping. -/
def layoutEntries (limit : LineLimit) : List (Outline × Outline) → List (List Char)
  | [] => []
  | (k, v) :: es =>
    (layout limit k ++ ':' :: ' ' :: layout limit v) :: layoutEntries limit es

end

/-- The items of a container on one line. -/
def line (limit : LineLimit) : Outline → List Char
  | list items | tuple items | arranged items => oneLine (layoutAll limit items)
  | set _ items => oneLine ((layoutAll limit items).mergeSort textLE)
  | mapping entries => oneLine (layoutEntries limit entries)
  | o => layout limit o

theorem layoutAll_eq_map (limit : LineLimit) (os : List Outline) :
    layoutAll limit os = os.map (layout limit) := by
  induction os with
  | nil => rfl
  | cons o os ih => simp [layoutAll, ih]

theorem layoutEntries_eq_map (limit : LineLimit) (es : List (Outline × Outline)) :
    layoutEntries limit es =
      es.map fun e => layout limit e.1 ++ ':' :: ' ' :: layout limit e.2 := by
  induction es with
  | nil => rfl
  | cons e es ih => obtain ⟨k, v⟩ := e; simp [layoutEntries, ih]

end Outline

end ValueShape
