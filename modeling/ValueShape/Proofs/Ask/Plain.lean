import ValueShape.Proofs.Ask.Dialogue
import ValueShape.Proofs.Conduct.Array

/-!
# Readings that cannot fail

Which readings of a check fail, and which do not.

* `Heap.matchesPlainly` tells whether a value matches a literal that is compared without asking
  anything else.
* `Look.IsPlain h l` says that the reading `l` of a value stays within built-in behaviour: the class
  of the value has no method of its own for it, the value is long enough, and no longer than a
  length can be.
* `Look.exec_read` says that such a reading gives a result.
-/

set_option autoImplicit false

namespace ValueShape

open Run (exec)

/-! ## Literals -/

/-- Whether two objects of a kind are compared part by part. -/
def Kind.comparesParts : Kind → Bool
  | .list | .queue | .tuple | .dict | .orderedDict | .view | .set | .frozenSet | .listing ..
  | .metadata | .options | .generic | .parameterized | .keyed | .mapping | .setLike => true
  | _ => false

/-- Whether a value is compared without asking anything else. -/
def Heap.comparesPlainly (h : Heap) (v : Value) : Bool :=
  match h.slot? .equality v with
  | some (.assigned _) => false
  | some (.native k) => !k.comparesParts
  | none => true

/-- What a value that is compared plainly says about being equal to another one, if it knows. -/
def Heap.plainlyEqual? (h : Heap) (v w : Value) : Option Bool :=
  match h.slot? .equality v with
  | some (.native k) => h.plainAnswer? k v w
  | _ => if v.identical w then some true else none

/-- Whether a value matches a literal, where both are compared plainly. -/
def Heap.matchesPlainly (h : Heap) (v literal : Value) : Bool :=
  v.identical literal || h.classOf v == h.classOf literal &&
    ((h.plainlyEqual? v literal).or (h.plainlyEqual? literal v)).getD (v.identical literal)

namespace Run

variable (c : Conduct) {s : Session} {v w : Value}

theorem exec_nativeAnswer (s : Session) {k : Kind} (hk : k.comparesParts = false) (v w : Value) :
    exec c (nativeAnswer k v w) s = .ok ((s.heap.plainAnswer? k v w).map .bool) s := by
  rw [nativeAnswer, exec_bind, exec_heap, Ending.andThen_ok]
  cases k <;> first | rfl | exact absurd hk Bool.true_eq_false.mp

theorem exec_answer (hv : s.heap.comparesPlainly v = true) (w : Value) :
    exec c (answer v w) s = .ok ((s.heap.plainlyEqual? v w).map .bool) s := by
  rw [Heap.comparesPlainly] at hv
  rw [answer, exec_bind, exec_heap, Ending.andThen_ok, Heap.plainlyEqual?]
  rcases hslot : s.heap.slot? .equality v with _ | ⟨method⟩ | ⟨k⟩
  · by_cases hid : v.identical w = true
    · simp [hid]
    · simp [hid]
  · exact absurd hv (by simp [hslot])
  · simp only [hslot, Bool.not_eq_true'] at hv
    exact exec_nativeAnswer c s hv v w

/-- Two values of one class that is compared plainly give a truth value. -/
theorem exec_compareOnce (hw : s.heap.comparesPlainly w = true)
    (hclass : s.heap.classOf v = s.heap.classOf w) :
    exec c (compareOnce v w) s =
      .ok (.bool (((s.heap.plainlyEqual? v w).or (s.heap.plainlyEqual? w v)).getD (v.identical w)))
        s := by
  have hv : s.heap.comparesPlainly v = true := by
    rwa [Heap.comparesPlainly, Heap.slot?, hclass]
  have hfirst : s.heap.asksSecondFirst v w = false := by simp [Heap.asksSecondFirst, hclass]
  rw [compareOnce, exec_bind, exec_heap, Ending.andThen_ok, hfirst]
  simp only [Bool.false_eq_true, if_false, exec_bind, exec_answer c hv, Ending.andThen_ok]
  rcases s.heap.plainlyEqual? v w with _ | b
  · simp only [Option.map_none, exec_bind, exec_answer c hw, Ending.andThen_ok]
    rcases s.heap.plainlyEqual? w v with _ | b <;> rfl
  · rfl

theorem exec_matchLiteral (host : Host) (n : Nat) (hw : s.heap.comparesPlainly w = true) :
    exec (Ask.conduct host (n + 1)) (matchLiteral v w) s =
      .ok (.bool (s.heap.matchesPlainly v w)) s := by
  rw [matchLiteral, Heap.matchesPlainly]
  by_cases hid : v.identical w = true
  · rw [if_pos hid, hid]
    rfl
  rw [if_neg hid, exec_bind, exec_heap, Ending.andThen_ok]
  by_cases hclass : s.heap.classOf v = s.heap.classOf w
  · have hcompare : exec (Ask.conduct host (n + 1)) (compare v w) s = _ :=
      exec_compareOnce (Ask.conduct host n) hw hclass
    have hne : (s.heap.classOf v != s.heap.classOf w) = false := by simp [hclass]
    rw [hne]
    simp only [Bool.false_eq_true, if_false, hcompare]
    simp [hid, hclass]
  · have hne : (s.heap.classOf v != s.heap.classOf w) = true := by simp [hclass]
    rw [hne]
    simp [hid, hclass]

theorem exec_matchesLiteral (host : Host) (n : Nat) (hw : s.heap.comparesPlainly w = true) :
    exec (Ask.conduct host (n + 1)) (matchesLiteral v w) s = .ok (s.heap.matchesPlainly v w) s := by
  rw [matchesLiteral, exec_bind, exec_matchLiteral host n hw, Ending.andThen_ok, truth_bool, exec_pure]

end Run

/-! ## Readings -/

namespace Look

/-- A reading that stays within built-in behaviour: the class of the value has no method of its own
for it, and the value is neither too short nor too long. -/
def IsPlain (h : Heap) : Look → Prop
  | array x | mapping x | belongs x _ => h.readsAttributes x = false
  | length x => ∃ items, h.ReadsPlainly .length items x ∧ items.length < maxIndex
  | cursor x => ∃ items, h.ReadsPlainly .iteration items x
  | limit _ => True
  | next (.rest _) | next (.elements ..) => True
  | next _ | overrun => False
  | item x i => ∃ items, h.ReadsPlainly .item items x ∧ i < items.length ∧ i < maxIndex
  | remainder x _ => ∃ items, h.ReadsPlainly .item items x
  | literal _ l | among _ l => h.comparesPlainly l = true
  | yielded l => l.IsPlain h

/-- **A plain reading gives a result.** -/
theorem exec_read (host : Host) (n : Nat) {s : Session} {l : Look} (hl : l.IsPlain s.heap) :
    ∃ a s', exec (Ask.conduct host (n + 1)) l.read s = .ok a s' := by
  induction l with
  | array x => exact ⟨_, s, Run.exec_isArray _ hl⟩
  | mapping x => exact ⟨_, s, Run.exec_isOfKind _ hl .mapping⟩
  | belongs x cls => exact ⟨_, s, Run.exec_isInstance _ hl cls⟩
  | length x =>
    obtain ⟨items, hx, hlt⟩ := hl
    exact ⟨items.length, s, Run.exec_size _ hx hlt⟩
  | cursor x =>
    obtain ⟨items, hx⟩ := hl
    exact ⟨Run.arrayCursor items x, s, Run.exec_cursor _ hx⟩
  | limit cur => exact ⟨_, s, rfl⟩
  | next cur =>
    cases cur with
    | rest items =>
      rcases items with _ | ⟨v, vs⟩
      · exact ⟨none, s, rfl⟩
      · obtain ⟨w, n', -, hw, -⟩ := Run.exec_next_rest (Ask.conduct host (n + 1)) s v vs
        exact ⟨_, _, hw⟩
    | elements x i =>
      obtain ⟨r, n', -, hr, -⟩ := Run.exec_next_elements (Ask.conduct host (n + 1)) s x i
      exact ⟨_, _, hr⟩
    | _ => exact hl.elim
  | overrun => exact hl.elim
  | item x i =>
    obtain ⟨items, hx, hi, hmax⟩ := hl
    obtain ⟨w, n', -, hw, -⟩ := Run.exec_item (Ask.conduct host (n + 1)) hx
      (List.getElem?_eq_getElem hi) hmax
    exact ⟨w, _, hw⟩
  | remainder x k =>
    obtain ⟨items, hx⟩ := hl
    obtain ⟨w, s', hw, -⟩ := Run.exec_dropFirst (Ask.conduct host (n + 1)) hx k
    exact ⟨w, s', hw⟩
  | literal x l =>
    exact ⟨_, s, Run.exec_matchesLiteral host n hl⟩
  | among x l =>
    refine ⟨s.heap.matchesPlainly x l, s, ?_⟩
    rw [read, Run.exec_bind, Run.exec_yielded, Run.exec_matchLiteral host n hl, Ending.yielded_ok,
      Ending.andThen_ok, Run.truth_bool, Run.exec_pure]
  | yielded l ih =>
    obtain ⟨a, s', ha⟩ := ih hl
    exact ⟨a, s', by rw [read, Run.exec_yielded, ha, Ending.yielded_ok]⟩

end Look

end ValueShape
