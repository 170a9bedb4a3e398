/-!
# Pieces of lists

Finding one list in another, and taking lists apart at what is found.  Texts and bytes are searched
in the same way.

* `places` are the places at which one list occurs in another, and `placesApart` those of them that
  do not overlap.
* `replaced` puts another list in the place of each occurrence, and `splitBetween` gives what stands
  between the occurrences.
* `splitWords` gives what stands between blanks.
* `clampSlice` turns the bounds of a slice, which may count from the end, into places.
-/

set_option autoImplicit false

namespace ValueShape

variable {α : Type} [BEq α]

/-! ## Searching -/

/-- The places at which one list occurs in another. -/
def places (part : List α) : List α → Nat → List Nat
  | [], place => if part.isEmpty then [place] else []
  | a :: as, place =>
    if part.isPrefixOf (a :: as) then place :: places part as (place + 1)
    else places part as (place + 1)

/-- The places among increasing ones that lie at least so far apart, beginning with the first that
is not below `least`. -/
def apart (distance : Nat) : Nat → List Nat → List Nat
  | _, [] => []
  | least, p :: ps =>
    if least ≤ p then p :: apart distance (p + distance) ps else apart distance least ps

/-- The places at which one list occurs in another, without overlaps. -/
def placesApart (part whole : List α) : List Nat :=
  apart (max part.length 1) 0 (places part whole 0)

/-- The places at which one list occurs in another, without overlaps, found from the end on and
given in decreasing order. -/
def placesApartBack (part whole : List α) : List Nat :=
  (placesApart part.reverse whole.reverse).map fun p => whole.length - p - part.length

/-! ## Taking apart -/

/-- What stands between parts of a list that begin at increasing places and are `length` long; the
list begins at the place `start` of a longer one. -/
def between (length : Nat) : Nat → List Nat → List α → List (List α)
  | _, [], as => [as]
  | start, p :: ps, as =>
    as.take (p - start) :: between length (p + length) ps (as.drop (p - start + length))

/-- What stands between the first `limit` occurrences of a part that is not empty. -/
def splitBetween (part : List α) (limit : Nat) (whole : List α) : List (List α) :=
  between part.length 0 ((placesApart part whole).take limit) whole

/-- What stands between the last `limit` occurrences of a part that is not empty. -/
def splitBetweenBack (part : List α) (limit : Nat) (whole : List α) : List (List α) :=
  between part.length 0 ((placesApartBack part whole).take limit).reverse whole

/-- A list with another one in the place of the first `limit` occurrences of a part.  An empty part
occurs before each element and at the end. -/
def replaced (part new : List α) (limit : Nat) (whole : List α) : List α :=
  new.intercalate (between part.length 0 ((placesApart part whole).take limit) whole)

/-- What stands before the first occurrence of a part and what follows it. -/
def cutAt? (part whole : List α) : Option (List α × List α) :=
  (placesApart part whole).head?.map fun p => (whole.take p, whole.drop (p + part.length))

/-- What stands before the last occurrence of a part and what follows it. -/
def cutAtBack? (part whole : List α) : Option (List α × List α) :=
  (placesApartBack part whole).head?.map fun p => (whole.take p, whole.drop (p + part.length))

omit [BEq α] in
/-- The words of a list, of which at most `limit` are told apart from what follows them. -/
def splitWords (isBlank : α → Bool) : Nat → Nat → List α → List (List α)
  | 0, _, _ => []
  | fuel + 1, limit, as =>
    let as := as.dropWhile isBlank
    if as.isEmpty then []
    else if limit = 0 then [as]
    else
      as.takeWhile (!isBlank ·) ::
        splitWords isBlank fuel (limit - 1) (as.dropWhile (!isBlank ·))

omit [BEq α] in
/-- The words of a list, found from the end on. -/
def splitWordsBack (isBlank : α → Bool) (limit : Nat) (as : List α) : List (List α) :=
  ((splitWords isBlank (as.length + 1) limit as.reverse).map List.reverse).reverse

/-! ## Ends -/

omit [BEq α] in
/-- A list without the elements at its front that pass a test. -/
def trimFront (test : α → Bool) (as : List α) : List α := as.dropWhile test

omit [BEq α] in
/-- A list without the elements at its end that pass a test. -/
def trimBack (test : α → Bool) (as : List α) : List α := (as.reverse.dropWhile test).reverse

omit [BEq α] in
/-- A list with so many fillers around it as its length lacks to `width`.  One that cannot be put
evenly on both sides goes to the left if the width is odd, and to the right otherwise. -/
def centered (width : Nat) (filler : α) (as : List α) : List α :=
  let lack := width - as.length
  let left := lack / 2 + lack % 2 * (width % 2)
  List.replicate left filler ++ as ++ List.replicate (lack - left) filler

/-! ## Slices -/

/-- The places that the bounds of a slice of a list stand for.  Bounds below zero count from the
end. -/
def clampSlice (length : Nat) (start stop : Int) : Nat × Nat :=
  let ofEnd := fun (i : Int) => if i < 0 then (i + length).toNat else i.toNat
  (ofEnd start, min (ofEnd stop) length)

omit [BEq α] in
/-- The part of a list between two bounds, unless the first lies behind the second. -/
def slice? (as : List α) (start stop : Int) : Option (Nat × List α) :=
  let (first, last) := clampSlice as.length start stop
  if first ≤ last then some (first, (as.take last).drop first) else none

/-! ## Laws -/

omit [BEq α] in
theorem between_nil (length start : Nat) (as : List α) : between length start [] as = [as] := rfl

omit [BEq α] in
theorem length_between (length : Nat) (start : Nat) (ps : List Nat) (as : List α) :
    (between length start ps as).length = ps.length + 1 := by
  induction ps generalizing start as with
  | nil => rfl
  | cons p ps ih => simp [between, ih]

omit [BEq α] in
theorem length_centered (width : Nat) (filler : α) (as : List α) :
    (centered width filler as).length = max width as.length := by
  have h : (width - as.length) / 2 + (width - as.length) % 2 * (width % 2) ≤ width - as.length := by
    have := Nat.mod_lt width (Nat.zero_lt_two)
    rcases Nat.mod_two_eq_zero_or_one width with h | h <;> simp [h] <;> omega
  simp only [centered, List.length_append, List.length_replicate]
  omega

end ValueShape
