import ValueShape.Proofs.Ask.Plain
import ValueShape.Proofs.Conduct.Container

/-!
# Matching literals

Which values match a literal that is compared in the built-in way.

* `Heap.IsPlainLiteral h l` says that `l` is such a literal: a primitive value, an integer, a double, a
  text or bytes of a class that takes the comparison from the kind of these contents.
* `Heap.IsPlainLiteral.matchesPlainly_eq` says what it comes to then: a value matches if it is the
  same, or if it is of the same class and has the same contents, where doubles count by their values.
* Between literals, matching is an equivalence: `Heap.IsPlainLiteral.matches_self`, `matches_comm` and
  `matches_congr`, the last of which is about all values that are matched against two literals.
* `Heap.any_matches_congr` says when the same values match one of several literals.
-/

set_option autoImplicit false

namespace ValueShape

/-! ## Doubles

Two zeros are equal, though they are different doubles, and what is no number does not even equal
itself. -/

namespace Double

/-- A zero is a finite number without a mantissa. -/
theorem decode_of_isZero {a : UInt64} (ha : isZero a = true) :
    decode a = .finite (signBit a) 0 (-1074) := by
  have hmod : a.toNat % Nat.pow 2 63 = 0 := by simpa [isZero] using ha
  have hfraction : fractionBits a = 0 := by
    simp only [fractionBits, Nat.pow_eq] at hmod ⊢
    omega
  have hexponent : exponentBits a = 0 := by
    simp only [exponentBits, Nat.pow_eq] at hmod ⊢
    omega
  rw [decode, hexponent, hfraction]
  rfl

theorem isNaN_of_isZero {a : UInt64} (ha : isZero a = true) : isNaN a = false := by
  rw [isNaN, decode_of_isZero ha]
  rfl

theorem toInt?_of_isZero {a : UInt64} (ha : isZero a = true) : toInt? a = some 0 := by
  have hneg : ¬(0 : Int) ≤ -1074 := by decide
  simp only [toInt?, decode_of_isZero ha, if_neg hneg, Nat.zero_mod, Nat.zero_div, if_true]
  cases signBit a <;> rfl

/-- Equal doubles are the same, or both are zeros. -/
theorem eq_or_isZero {a b : UInt64} (h : eq a b = true) : a = b ∨ isZero a = true ∧ isZero b = true := by
  simp only [eq, Bool.and_eq_true, Bool.or_eq_true, beq_iff_eq] at h
  exact h.2

/-- To equal a zero is to be one. -/
theorem eq_of_isZero {a : UInt64} (ha : isZero a = true) (x : UInt64) : eq x a = isZero x := by
  by_cases hx : isZero x = true
  · simp [eq, ha, hx, isNaN_of_isZero]
  · have hne : (x == a) = false := beq_eq_false_iff_ne.mpr fun h => hx (h ▸ ha)
    simp [eq, hx, hne]

/-- Equal doubles equal the same doubles. -/
theorem eq_congr {a b : UInt64} (h : eq a b = true) (x : UInt64) : eq x a = eq x b := by
  rcases eq_or_isZero h with rfl | ⟨ha, hb⟩
  · rfl
  · rw [eq_of_isZero ha, eq_of_isZero hb]

/-- Equal doubles equal the same integers. -/
theorem toInt?_congr {a b : UInt64} (h : eq a b = true) : toInt? a = toInt? b := by
  rcases eq_or_isZero h with rfl | ⟨ha, hb⟩
  · rfl
  · rw [toInt?_of_isZero ha, toInt?_of_isZero hb]

end Double

/-- Equal doubles equal the same numbers. -/
theorem Numeric.eq_double_congr {a b : UInt64} (h : Double.eq a b = true) (m : Numeric) :
    m.eq (.double a) = m.eq (.double b) := by
  cases m with
  | int n => simp only [Numeric.eq, Double.toInt?_congr h]
  | double c => exact Double.eq_congr h c
  | complex re im => simp only [Numeric.eq, Double.eq_congr h re]

/-! ## Contents -/

/-- Whether two contents are equal. -/
def Scalar.agrees : Scalar → Scalar → Bool
  | int m, int n => m == n
  | float a, float b => Double.eq a b
  | text s, text t => s == t
  | bytes bs, bytes cs => bs == cs
  | _, _ => false

theorem Scalar.agrees_comm (s t : Scalar) : s.agrees t = t.agrees s := by
  cases s <;> cases t <;> first | rfl | exact BEq.comm | exact Double.eq_comm _ _

namespace Value

/-- The contents of a number, a text or bytes.  The truth values are zero and one. -/
def scalar? : Value → Option Scalar
  | .bool b => some (.int (if b then 1 else 0))
  | .scalar _ _ s => some s
  | _ => none

/-- Whether a value equals contents, by what these say. -/
def equals (x : Value) : Scalar → Bool
  | .int n => x.numeric?.any fun m => m.eq (.int n)
  | .float b => x.numeric?.any fun m => m.eq (.double b)
  | .text t => x.text? == some t
  | .bytes bs => x.bytes? == some bs

theorem equals_of_scalar? {x : Value} {s t : Scalar} (hx : x.scalar? = some s) (hkind : s.kind = t.kind) :
    x.equals t = s.agrees t := by
  cases x with
  | bool b =>
    cases hx
    cases t <;> first | rfl | cases hkind
  | scalar cls id s' =>
    cases hx
    cases s <;> cases t <;> first | rfl | cases hkind
  | _ => cases hx

/-- Whether a value equals the contents of another one, if this has any. -/
def equalsContents (x l : Value) : Bool := l.scalar?.any x.equals

/-- Contents that are equal are equalled by the same values. -/
theorem equals_congr {s t : Scalar} (h : s.agrees t = true) (x : Value) : x.equals s = x.equals t := by
  cases s <;> cases t <;> simp only [Scalar.agrees, Bool.false_eq_true, beq_iff_eq] at h
  · rw [h]
  · simp only [equals, Numeric.eq_double_congr h]
  · rw [h]
  · rw [h]

/-- A primitive value is the same as another one only if that is no other at all. -/
theorem IsPrimitive.identical_iff {l : Value} (hl : l.IsPrimitive) (x : Value) :
    x.identical l = true ↔ x = l ∧ l.isIdentified = true := by
  rcases hl with hplain | rfl
  · cases l with
    | null => cases x <;> simp [identical, isIdentified]
    | bool b => cases x <;> simp [identical, isIdentified]
    | scalar cls id s =>
      cases x with
      | scalar cls' id' s' =>
        simp only [identical, isIdentified, Bool.and_eq_true, beq_iff_eq, Value.scalar.injEq]
        constructor
        · rintro ⟨⟨⟨rfl, rfl⟩, rfl⟩, h⟩
          exact ⟨⟨rfl, rfl, rfl⟩, h⟩
        · rintro ⟨⟨rfl, rfl, rfl⟩, h⟩
          exact ⟨⟨⟨rfl, rfl⟩, rfl⟩, h⟩
      | _ => simp [identical]
    | _ => cases hplain
  · cases x <;> simp [identical, isIdentified]

theorem IsPrimitive.identical_comm {l : Value} (hl : l.IsPrimitive) (x : Value) :
    l.identical x = x.identical l := by
  rcases hl with hplain | rfl
  · cases l with
    | null => cases x <;> simp [identical]
    | bool b => cases x <;> simp [identical, eq_comm]
    | scalar cls id s =>
      cases x with
      | scalar cls' id' s' =>
        rw [Bool.eq_iff_iff]
        simp only [identical, Bool.and_eq_true, beq_iff_eq]
        constructor <;>
        · rintro ⟨⟨⟨rfl, rfl⟩, rfl⟩, h⟩
          exact ⟨⟨⟨rfl, rfl⟩, rfl⟩, h⟩
      | _ => simp [identical]
    | _ => cases hplain
  · cases x <;> simp [identical]

end Value

/-! ## Literals -/

/-- A primitive value with an identity, whose class takes the comparison from the kind of the contents, and
leaves it out if there are none. -/
structure Heap.IsPlainLiteral (h : Heap) (l : Value) : Prop where
  /-- It is primitive. -/
  primitive : l.IsPrimitive
  /-- It has an identity. -/
  identified : l.isIdentified = true
  /-- Its class compares it by its contents. -/
  compares : h.slot? .equality l = l.scalar?.map fun s => .native s.kind

namespace Heap

/-- What two values say about being equal to each other, where one of them has contents. -/
theorem plainAnswer?_getD (h : Heap) {l : Value} {s : Scalar} (hl : l.scalar? = some s) (x : Value) :
    ((h.plainAnswer? s.kind x l).or (h.plainAnswer? s.kind l x)).getD false = x.equals s := by
  cases s with
  | int n =>
    have hn : l.numeric? = some (.int n) := by
      cases l <;> cases hl <;> rfl
    simp only [plainAnswer?, Scalar.kind, numbersEqual?, hn, Value.equals]
    rcases x.numeric? with _ | m <;> rfl
  | float b =>
    have hb : l.numeric? = some (.double b) := by
      cases l <;> cases hl
      rfl
    simp only [plainAnswer?, Scalar.kind, numbersEqual?, hb, Value.equals]
    rcases x.numeric? with _ | m <;> rfl
  | text t =>
    have ht : l.text? = some t := by
      cases l <;> cases hl
      rfl
    simp only [plainAnswer?, Scalar.kind, ht, Value.equals]
    rcases x.text? with _ | t' <;> rfl
  | bytes bs =>
    have hbs : l.bytes? = some bs := by
      cases l <;> cases hl
      rfl
    simp only [plainAnswer?, Scalar.kind, hbs, Value.equals]
    rcases x.bytes? with _ | bs' <;> rfl

namespace IsPlainLiteral

variable {h : Heap} {l l' : Value}

theorem comparesPlainly (hl : h.IsPlainLiteral l) : h.comparesPlainly l = true := by
  rw [Heap.comparesPlainly, hl.compares]
  rcases l.scalar? with _ | s
  · rfl
  · cases s <;> rfl

/-- **What matching a plain literal comes to**: a value is the same, or of the same class with the same
contents. -/
theorem matchesPlainly_eq (hl : h.IsPlainLiteral l) (x : Value) :
    h.matchesPlainly x l = (x.identical l || h.classOf x == h.classOf l && x.equalsContents l) := by
  rw [matchesPlainly]
  cases hid : x.identical l with
  | true => rw [Bool.true_or, Bool.true_or]
  | false =>
    by_cases hclass : h.classOf x = h.classOf l
    · have hcompares : h.slot? .equality x = l.scalar?.map fun s => .native s.kind := by
        rw [slot?, hclass]
        exact hl.compares
      rw [plainlyEqual?, plainlyEqual?, hcompares, hl.compares, Value.equalsContents]
      rcases hs : l.scalar? with _ | s
      · simp [hid, hl.primitive.identical_comm x]
      · simp only [Option.map_some, plainAnswer?_getD h hs, Option.any_some]
    · rw [beq_eq_false_iff_ne.mpr hclass, Bool.false_and, Bool.false_and]

/-- A value of another class does not match. -/
theorem not_matches (hl : h.IsPlainLiteral l) {x : Value} (hx : h.classOf x ≠ h.classOf l) :
    h.matchesPlainly x l = false := by
  have hid : x.identical l = false := Bool.eq_false_iff.mpr fun hid =>
    hx (congrArg h.classOf ((hl.primitive.identical_iff x).mp hid).1)
  rw [hl.matchesPlainly_eq, hid, beq_eq_false_iff_ne.mpr hx]
  rfl

/-- A literal matches itself, even if it is no number. -/
theorem matches_self (hl : h.IsPlainLiteral l) : h.matchesPlainly l l = true := by
  rw [hl.matchesPlainly_eq, (hl.primitive.identical_iff l).mpr ⟨rfl, hl.identified⟩, Bool.true_or]

/-- Literals of one class have contents of one kind, or none of them has contents. -/
theorem scalar?_kind (hl : h.IsPlainLiteral l) (hl' : h.IsPlainLiteral l')
    (hclass : h.classOf l = h.classOf l') : l.scalar?.map Scalar.kind = l'.scalar?.map Scalar.kind := by
  have hslot : h.slot? .equality l = h.slot? .equality l' := by rw [slot?, slot?, hclass]
  rw [hl.compares, hl'.compares] at hslot
  rcases hs : l.scalar? with _ | s
  · rcases hs' : l'.scalar? with _ | s'
    · rfl
    · rw [hs, hs'] at hslot
      cases hslot
  · rcases hs' : l'.scalar? with _ | s'
    · rw [hs, hs'] at hslot
      cases hslot
    · rw [hs, hs'] at hslot
      exact congrArg some (Slot.native.inj (Option.some.inj hslot))

/-- What the contents of two literals of one class say about each other. -/
theorem equalsContents_eq (hl : h.IsPlainLiteral l) (hl' : h.IsPlainLiteral l')
    (hclass : h.classOf l = h.classOf l') :
    l.equalsContents l' = l.scalar?.any fun s => l'.scalar?.any s.agrees := by
  have hkind := hl.scalar?_kind hl' hclass
  rw [Value.equalsContents]
  rcases hs : l.scalar? with _ | s <;> rcases hs' : l'.scalar? with _ | s' <;> rw [hs, hs'] at hkind
  · rfl
  · cases hkind
  · rfl
  · exact Value.equals_of_scalar? hs (Option.some.inj hkind)

/-- **Two literals match each other, or none the other.** -/
theorem matches_comm (hl : h.IsPlainLiteral l) (hl' : h.IsPlainLiteral l') :
    h.matchesPlainly l l' = h.matchesPlainly l' l := by
  by_cases hclass : h.classOf l = h.classOf l'
  · rw [hl.matchesPlainly_eq, hl'.matchesPlainly_eq, hl.primitive.identical_comm l', hclass,
      hl.equalsContents_eq hl' hclass, hl'.equalsContents_eq hl hclass.symm]
    rcases l.scalar? with _ | s <;> rcases l'.scalar? with _ | s' <;> try rfl
    simp only [Option.any_some, s.agrees_comm s']
  · rw [hl.not_matches (Ne.symm hclass), hl'.not_matches hclass]

/-- **The same values match two literals that match.** -/
theorem matches_congr (hl : h.IsPlainLiteral l) (hl' : h.IsPlainLiteral l')
    (hmatches : h.matchesPlainly l l' = true) (x : Value) :
    h.matchesPlainly x l = h.matchesPlainly x l' := by
  have hback : h.matchesPlainly l' l = true := (hl.matches_comm hl').symm.trans hmatches
  -- A value that is one of the two matches both; any other one is compared with the same contents.
  by_cases hx : x.identical l = true
  · obtain ⟨rfl, -⟩ := (hl.primitive.identical_iff x).mp hx
    rw [hl.matches_self, hmatches]
  by_cases hx' : x.identical l' = true
  · obtain ⟨rfl, -⟩ := (hl'.primitive.identical_iff x).mp hx'
    rw [hl'.matches_self, hback]
  rw [hl.matchesPlainly_eq, hl'.matchesPlainly_eq, Bool.eq_false_iff.mpr hx, Bool.eq_false_iff.mpr hx']
  by_cases hid : l.identical l' = true
  · rw [((hl'.primitive.identical_iff l).mp hid).1]
  rw [hl'.matchesPlainly_eq, Bool.eq_false_iff.mpr hid, Bool.false_or, Bool.and_eq_true, beq_iff_eq] at hmatches
  obtain ⟨hclass, hcontents⟩ := hmatches
  rw [hl.equalsContents_eq hl' hclass] at hcontents
  rw [Value.equalsContents, Value.equalsContents, hclass]
  rcases hs : l.scalar? with _ | s
  · rw [hs] at hcontents
    cases hcontents
  · rcases hs' : l'.scalar? with _ | s'
    · rw [hs, hs'] at hcontents
      cases hcontents
    · rw [hs, hs'] at hcontents
      rw [Option.any_some, Option.any_some, Value.equals_congr hcontents]

end IsPlainLiteral

/-- Where each of some literals matches one of others, the values that match one of the former match one of the
latter. -/
theorem any_matches_of_covered {h : Heap} {vs ws : List Value} (hvs : ∀ v ∈ vs, h.IsPlainLiteral v)
    (hws : ∀ w ∈ ws, h.IsPlainLiteral w) (hcovers : ∀ v ∈ vs, ∃ w ∈ ws, h.matchesPlainly v w = true)
    {x : Value} (hx : vs.any (h.matchesPlainly x) = true) : ws.any (h.matchesPlainly x) = true := by
  obtain ⟨v, hv, hxv⟩ := List.any_eq_true.mp hx
  obtain ⟨w, hw, hvw⟩ := hcovers v hv
  refine List.any_eq_true.mpr ⟨w, hw, ?_⟩
  rw [← (hvs v hv).matches_congr (hws w hw) hvw, hxv]

/-- The same values match one of several literals and one of others, if each of these matches one of
those and the other way round. -/
theorem any_matches_congr {h : Heap} {vs ws : List Value} (hvs : ∀ v ∈ vs, h.IsPlainLiteral v)
    (hws : ∀ w ∈ ws, h.IsPlainLiteral w) (hvw : ∀ v ∈ vs, ∃ w ∈ ws, h.matchesPlainly v w = true)
    (hwv : ∀ w ∈ ws, ∃ v ∈ vs, h.matchesPlainly w v = true) (x : Value) :
    vs.any (h.matchesPlainly x) = ws.any (h.matchesPlainly x) :=
  Bool.eq_iff_iff.mpr ⟨any_matches_of_covered hvs hws hvw, any_matches_of_covered hws hvs hwv⟩

end Heap

end ValueShape
