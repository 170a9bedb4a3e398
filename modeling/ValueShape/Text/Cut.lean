/-!
# Cutting texts

A message shows no more than the beginning of a long name.

* The limit counts units of UTF-8, so it may fall inside a character.  `cutChars` keeps the
  characters that fit and puts a `replacement` in the place of one that is cut in two.
* `split` keeps the characters that fit and tells the units of one that is cut in two.
* `cut_of_le` says that a text within the limit is shown as it is.
-/

set_option autoImplicit false

namespace ValueShape

/-- What stands for a character that is cut in two. -/
def replacement : Char := '\ufffd'

/-- The beginning of a text that has room in the given number of units. -/
def cutChars : Nat → List Char → List Char
  | _, [] => []
  | room, c :: cs =>
    if c.utf8Size ≤ room then c :: cutChars (room - c.utf8Size) cs
    else if room = 0 then [] else [replacement]

/-- The beginning of a text, as far as the first units of it reach. -/
def cut (limit : Nat) (s : String) : String :=
  if s.utf8ByteSize ≤ limit then s else String.ofList (cutChars limit s.toList)

/-- The beginning of a text that has room in the given number of units, and the units of a character
that is cut in two. -/
def split (room : Nat) : List Char → List Char × List UInt8
  | [] => ([], [])
  | c :: cs =>
    if c.utf8Size ≤ room then
      let (begun, rest) := split (room - c.utf8Size) cs
      (c :: begun, rest)
    else ([], (String.singleton c).toUTF8.toList.take room)

theorem cut_of_le {limit : Nat} {s : String} (h : s.utf8ByteSize ≤ limit) : cut limit s = s :=
  if_pos h

theorem length_cutChars_le (room : Nat) (cs : List Char) : (cutChars room cs).length ≤ room := by
  induction cs generalizing room with
  | nil => exact Nat.zero_le _
  | cons c cs ih =>
    have := ih (room - c.utf8Size)
    have := c.utf8Size_pos
    simp only [cutChars]
    split
    · simp only [List.length_cons]; omega
    · split <;> simp only [List.length_cons, List.length_nil] <;> omega

end ValueShape
