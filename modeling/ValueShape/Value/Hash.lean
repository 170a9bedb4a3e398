import ValueShape.Number.Double
import ValueShape.Value.Kind
import ValueShape.Vocabulary

/-!
# Hashes

What a value is found by when it is a key.

* A `Hash` is a number, for a number; the characters or bytes, for a text or a string of bytes; the
  hashes of the parts, for a tuple or a set; and a `Token` for a value that equals nothing but
  itself.  Numbers that are equal have the same hash, whatever their classes, and so do the empty
  text and zero.
* `Hash.same` compares two hashes.  The order of the parts of a set does not matter.
* `Hash.toInt` is the integer that a hash is told as.
* `hashInt`, `hashDouble` and `hashComplex` are the hashes of numbers: a rational number is reduced
  modulo a prime.
-/

set_option autoImplicit false

namespace ValueShape

/-! ## Hashes

A hash keeps what it was made from.  Values that are found by each other have the same one. -/

/-- What tells apart values that equal nothing but themselves. -/
inductive Token
  /-- The place in the heap. -/
  | place (p : Nat)
  /-- The identity. -/
  | id (n : Nat)
  /-- A class. -/
  | cls (c : Class)
  /-- A ready-made predicate. -/
  | leaf (l : Leaf)
  /-- An operation. -/
  | operation (o : Operation)
  /-- A ready-made function, by its name. -/
  | builtin (name : String)
  /-- The only value of a kind. -/
  | only (k : Kind)
  /-- A field of a class, by its name. -/
  | field (owner : Kind) (name : String)
deriving DecidableEq, Repr

/-- What a value is found by. -/
inductive Hash
  /-- That of a number. -/
  | number (n : Int)
  /-- That of a text or a string of bytes that is not empty, by its bytes. -/
  | bytes (bs : List UInt8)
  /-- That of a value with parts in order. -/
  | parts (hs : List Hash)
  /-- That of a value with parts in any order. -/
  | members (hs : List Hash)
  /-- That of a value that equals nothing but itself. -/
  | token (t : Token)

instance : Inhabited Hash := ⟨.number 0⟩

/-- A list without the first element that has a property, if there is one. -/
def dropFirst? {α : Type} (p : α → Bool) : List α → Option (List α)
  | [] => none
  | a :: as => if p a then some as else (dropFirst? p as).map (a :: ·)

namespace Hash

mutual

/-- Whether two hashes are the same. -/
def same : Hash → Hash → Bool
  | number m, number n => m == n
  | bytes bs, bytes cs => bs == cs
  | parts hs, parts ks => sameParts hs ks
  | members hs, members ks => sameMembers hs ks
  | token t, token u => t == u
  | _, _ => false

/-- Whether the parts of two values have the same hashes, one after the other. -/
def sameParts : List Hash → List Hash → Bool
  | [], [] => true
  | h :: hs, k :: ks => same h k && sameParts hs ks
  | _, _ => false

/-- Whether the parts of two values have the same hashes, in any order. -/
def sameMembers : List Hash → List Hash → Bool
  | [], ks => ks.isEmpty
  | h :: hs, ks =>
    match dropFirst? (fun k => same h k) ks with
    | some ks => sameMembers hs ks
    | none => false

end

/-- The hash that stands for no number: minus one is kept for failures. -/
def ofInt (n : Int) : Hash := .number (if n == -1 then -2 else n)

end Hash

/-! ## Numbers -/

/-- The prime that numbers are reduced by. -/
def hashPrime : Nat := Nat.pow 2 61 - 1

/-- A natural number with a sign. -/
def signed (negative : Bool) (n : Nat) : Int := if negative then -(n : Int) else n

/-- The hash of an integer, as a number. -/
def reducedInt (n : Int) : Int := signed (n < 0) (n.natAbs % hashPrime)

/-- The hash of an infinite number. -/
def infiniteHash : Nat := 314159

/-- The hash of a double, as a number; nothing for one that is not a number.  As two to the power of
61 is one modulo the prime, the exponent counts modulo 61. -/
def reducedDouble? (bits : UInt64) : Option Int :=
  match Double.decode bits with
  | .nan => none
  | .infinite negative => some (signed negative infiniteHash)
  | .finite negative m q =>
    some (signed negative (m * Nat.pow 2 (q % 61).toNat % hashPrime))

/-- An integer as a signed word of 64 bits. -/
def toWord (n : Int) : Int := Int.bmod n (Nat.pow 2 64)

/-- The factor of the imaginary part. -/
def imaginaryFactor : Int := 1000003

/-- The hash of an integer. -/
def hashInt (n : Int) : Hash := .ofInt (reducedInt n)

/-- The hash of a double; one that is not a number has the given one. -/
def hashDouble (other : Hash) (bits : UInt64) : Hash :=
  ((reducedDouble? bits).map Hash.ofInt).getD other

/-- The hash of a complex number; one with a part that is not a number has the given one. -/
def hashComplex (other : Hash) (re im : UInt64) : Hash :=
  match reducedDouble? re, reducedDouble? im with
  | some a, some b =>
    let part := fun (n : Int) => if n == -1 then -2 else n
    .ofInt (toWord (part a + imaginaryFactor * part b))
  | _, _ => other

/-- The integer that a method gives as a hash, which is reduced unless it fits into a word. -/
def hashGiven (n : Int) : Hash :=
  if toWord n == n then .ofInt n else hashInt n

/-! ## Texts -/

/-- The number `n` in `width` bytes, the least significant one first. -/
def littleEndian : Nat → Nat → List UInt8
  | 0, _ => []
  | width + 1, n => UInt8.ofNat (n % 256) :: littleEndian width (n / 256)

/-- The number of bytes that each character of a text takes. -/
def unitWidth (cs : List Char) : Nat :=
  if cs.all fun c : Char => c.toNat < 0x100 then 1
  else if cs.all fun c : Char => c.toNat < 0x10000 then 2
  else 4

/-- The hash of bytes. -/
def hashBytes (bs : List UInt8) : Hash := if bs.isEmpty then .number 0 else .bytes bs

/-- The hash of a text. -/
def hashText (s : String) : Hash :=
  let cs := s.toList
  hashBytes (cs.flatMap fun c : Char => littleEndian (unitWidth cs) c.toNat)

/-! ## Numbers for hashes

A method may ask for the hash as a number, which then can be compared and calculated with. -/

/-- Multiplication of words, after which bits move from the upper end to the lower one. -/
def mixLane (acc lane : UInt64) : UInt64 :=
  let sum := acc + lane * 14029467366897019727
  ((sum <<< 31) ||| (sum >>> 33)) * 11400714785074694791

/-- The number for the numbers of parts in order. -/
def mixParts (lanes : List UInt64) : UInt64 :=
  let start : UInt64 := 2870177450012600261
  let acc := lanes.foldl mixLane start + (UInt64.ofNat lanes.length ^^^ (start ^^^ (3527539 : UInt64)))
  if acc == 0 - 1 then 1546275796 else acc

/-- The number for the numbers of parts in any order. -/
def mixMembers (lanes : List UInt64) : UInt64 :=
  let shuffle := fun (n : UInt64) => ((n ^^^ (89869747 : UInt64)) ^^^ (n <<< 16)) * 3644798167
  let acc := lanes.foldl (fun acc n => acc ^^^ shuffle n) 0 ^^^
    ((UInt64.ofNat lanes.length + 1) * 1927868237)
  let acc := (acc ^^^ ((acc >>> 11) ^^^ (acc >>> 25))) * 69069 + 907133923
  if acc == 0 - 1 then 590923713 else acc

namespace Token

/-- A number for a token, which tells nothing about it. -/
def toNat : Token → Nat
  | place p => p + 1
  | id n => n + 1
  | _ => 0

end Token

namespace Hash

mutual

/-- The word for a hash.  The words for texts and for values that equal nothing but themselves only
depend on these, and tell nothing else about them. -/
def toWord : Hash → UInt64
  | number n => UInt64.ofInt n
  | bytes bs => mixParts (bs.map UInt8.toUInt64)
  | parts hs => mixParts (toWords hs)
  | members hs => mixMembers (toWords hs)
  | token t => UInt64.ofNat (16 * t.toNat)

/-- The words for several hashes. -/
def toWords : List Hash → List UInt64
  | [] => []
  | h :: hs => toWord h :: toWords hs

end

/-- The integer for a hash. -/
def toInt (h : Hash) : Int := h.toWord.toInt64.toInt

end Hash

/-! ## Laws -/

theorem dropFirst?_cons_self {α : Type} {p : α → Bool} {a : α} (as : List α) (h : p a = true) :
    dropFirst? p (a :: as) = some as := by
  simp [dropFirst?, h]

namespace Hash

mutual

/-- A hash is the same as itself. -/
theorem same_refl : ∀ h : Hash, h.same h = true
  | number n => by simp [same]
  | bytes bs => by simp [same]
  | parts hs => by simpa [same] using sameParts_refl hs
  | members hs => by simpa [same] using sameMembers_refl hs
  | token t => by simp [same]

theorem sameParts_refl : ∀ hs : List Hash, sameParts hs hs = true
  | [] => rfl
  | h :: hs => by simp [sameParts, same_refl h, sameParts_refl hs]

theorem sameMembers_refl : ∀ hs : List Hash, sameMembers hs hs = true
  | [] => rfl
  | h :: hs => by
    rw [sameMembers, dropFirst?_cons_self hs (same_refl h)]
    exact sameMembers_refl hs

end

end Hash

end ValueShape
