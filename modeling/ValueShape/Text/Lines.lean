/-!
# Lines of a text

A text is cut into lines at every *line boundary*: line feed, carriage return, vertical tab, form
feed, the three ASCII separators from `U+001C` on, next line, and the line and paragraph separators
of Unicode.  A carriage return followed by a line feed is one boundary.

* `lines` drops the boundaries and never ends in an empty line, so a text that ends in a boundary
  has as many lines as the same text without it.
* `joinLines` puts line feeds between lines.
-/

set_option autoImplicit false

namespace ValueShape

/-- The characters at which a text is cut into lines. -/
def isLineBoundary (c : Char) : Bool :=
  c == '\n' || c == '\r' || c == '\x0b' || c == '\x0c' || c == '\x1c' || c == '\x1d' ||
    c == '\x1e' || c == '\x85' || c == '\u2028' || c == '\u2029'

/-- The lines of a text, without their boundaries and without an empty last line.  A carriage return
in front of a line feed leaves the cut to the line feed. -/
def lines : List Char → List (List Char)
  | [] => []
  | c :: cs =>
    if isLineBoundary c then
      if c == '\r' && cs.head? == some '\n' then lines cs else [] :: lines cs
    else
      match lines cs with
      | [] => [[c]]
      | l :: ls => (c :: l) :: ls

/-- Lines joined by line feeds. -/
def joinLines (ls : List (List Char)) : List Char :=
  ['\n'].intercalate ls

/-- A text without a boundary is a single line, unless it is empty. -/
theorem lines_of_no_boundary {cs : List Char} (h : ∀ c ∈ cs, isLineBoundary c = false)
    (hne : cs ≠ []) : lines cs = [cs] := by
  induction cs with
  | nil => exact absurd rfl hne
  | cons c cs ih =>
    rw [lines, h c (by simp)]
    cases cs with
    | nil => rfl
    | cons d ds => rw [ih (fun e he => h e (List.mem_cons_of_mem _ he)) (by simp)]; rfl

end ValueShape
