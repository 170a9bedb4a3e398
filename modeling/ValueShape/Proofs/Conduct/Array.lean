import ValueShape.Ask.Check
import ValueShape.Proofs.Exec

/-!
# Reading lists and tuples

What the readings of lists and tuples give, as long as their classes have no methods of their own
for it.

* `Heap.ReadsPlainly h m items x` says that `x` is a list or a tuple with the elements `items`, and
  that its method `m` is the built-in one.
* The lemmas `exec_…` say what each reading gives then, and which session it leaves.
-/

set_option autoImplicit false

namespace ValueShape

namespace Heap

/-- Whether the class of a value reads attributes in its own way. -/
def readsAttributes (h : Heap) (x : Value) : Bool :=
  match h.slot? .readAttribute x with
  | some (.assigned _) => true
  | _ => false

/-- A list or a tuple with these elements has the built-in method. -/
inductive ReadsPlainly (h : Heap) (m : Method) (items : List Value) : Value → Prop
  | tuple {cls : Class} {id : Nat}
      (slot : h.slot? m (.tuple cls id items) = some (.native .tuple)) :
      ReadsPlainly h m items (.tuple cls id items)
  | list {place : Nat} (contents : h.contents? (.ref place) = some (.list items))
      (slot : h.slot? m (.ref place) = some (.native .list)) : ReadsPlainly h m items (.ref place)

namespace ReadsPlainly

variable {h : Heap} {m : Method} {items : List Value} {x : Value}

theorem contained? (hx : h.ReadsPlainly m items x) : h.contained? x = some items := by
  cases hx with
  | tuple => rfl
  | list contents => simp only [Heap.contained?, contents]

theorem sequence? (hx : h.ReadsPlainly m items x) : h.sequence? x = some items := by
  cases hx with
  | tuple => rfl
  | list contents => simp only [Heap.sequence?, contents]

theorem count (hx : h.ReadsPlainly m items x) : h.count x = items.length := by
  cases hx with
  | tuple => rfl
  | list contents => simp only [Heap.count, Heap.contained?, contents, Option.getD_some]

end ReadsPlainly

end Heap

/-- A value shows another one: it is that value, up to the identity of a number or a text. -/
def Value.Shows (w v : Value) : Prop :=
  w = v ∨ ∃ cls id id' scalar, v = .scalar cls id scalar ∧ w = .scalar cls id' scalar

namespace Run

variable (c : Conduct) {s : Session} {x : Value} {items : List Value}

/-! ## Classes -/

theorem exec_asksForClass (x : Value) :
    exec c (asksForClass x) s = .ok (s.heap.readsAttributes x) s := by
  rw [asksForClass, exec_bind, exec_heap, Ending.andThen_ok, Heap.readsAttributes]
  rcases s.heap.slot? .readAttribute x with _ | ⟨method⟩ | ⟨k⟩
  · rfl
  · rfl
  · rfl

theorem exec_isInstance (hx : s.heap.readsAttributes x = false) (cls : Class) :
    exec c (isInstance x cls) s = .ok (s.heap.isInstance x cls) s := by
  rw [isInstance, exec_bind, exec_heap, Ending.andThen_ok]
  rcases hslot : s.heap.slot? .readAttribute x with _ | ⟨method⟩ | ⟨k⟩
  · rfl
  · exact absurd hx (by simp [Heap.readsAttributes, hslot])
  · rfl

theorem exec_isOfKind (hx : s.heap.readsAttributes x = false) (k : Kind) :
    exec c (isOfKind x k) s = .ok (s.heap.isOfKind x k) s :=
  exec_isInstance c hx (.kind k)

theorem exec_isArray (hx : s.heap.readsAttributes x = false) :
    exec c (Check.isArray x) s = .ok (s.heap.isArray x) s := by
  rw [Check.isArray, exec_bind, exec_asksForClass, Ending.andThen_ok, hx]
  rfl

/-! ## Length and elements -/

theorem exec_nativeSize {k : Kind} (hk : k.isAbstract = false) (hforeign : k ≠ .foreign) {n : Nat}
    (hcount : s.heap.count x = n) (hlt : n < maxIndex) :
    exec c (nativeSize k x) s = .ok n s := by
  rw [nativeSize, hk, if_neg Bool.false_ne_true, if_neg (by simpa using hforeign), exec_bind,
    exec_heap, Ending.andThen_ok, hcount, if_pos hlt, exec_pure]

theorem exec_size (hx : s.heap.ReadsPlainly .length items x) (hlt : items.length < maxIndex) :
    exec c (size x) s = .ok items.length s := by
  have hcount := hx.count
  cases hx with
  | tuple slot =>
    simp only [size, exec_bind, exec_heap, Ending.andThen_ok, slot]
    exact exec_nativeSize c rfl (by decide) hcount hlt
  | list contents slot =>
    simp only [size, exec_bind, exec_heap, Ending.andThen_ok, slot]
    exact exec_nativeSize c rfl (by decide) hcount hlt

/-- No length is beyond all indices. -/
theorem exec_size_error (hx : s.heap.ReadsPlainly .length items x) (hle : maxIndex ≤ items.length) :
    exec c (size x) s = .error (.tooLarge "Python int too large to convert to C ssize_t") s := by
  have hnative {k : Kind} (hk : k.isAbstract = false) (hforeign : k ≠ .foreign) :
      exec c (nativeSize k x) s =
        .error (.tooLarge "Python int too large to convert to C ssize_t") s := by
    rw [nativeSize, hk, if_neg Bool.false_ne_true, if_neg (by simpa using hforeign), exec_bind,
      exec_heap, Ending.andThen_ok, hx.count, if_neg (Nat.not_lt.mpr hle), exec_throw]
  cases hx with
  | tuple slot =>
    simp only [size, exec_bind, exec_heap, Ending.andThen_ok, slot]
    exact hnative rfl (by decide)
  | list contents slot =>
    simp only [size, exec_bind, exec_heap, Ending.andThen_ok, slot]
    exact hnative rfl (by decide)

/-- The iteration over a list or a tuple, before it has yielded anything. -/
def arrayCursor (items : List Value) : Value → Cursor
  | .tuple .. => .rest items
  | x => .elements x 0

theorem exec_cursor (hx : s.heap.ReadsPlainly .iteration items x) :
    exec c (cursor x) s = .ok (arrayCursor items x) s := by
  cases hx with
  | tuple slot =>
    simp only [cursor, cursorOr, exec_bind, exec_heap, Ending.andThen_ok, slot]
    rfl
  | list contents slot =>
    simp only [cursor, cursorOr, exec_bind, exec_heap, Ending.andThen_ok, slot]
    rfl

theorem exec_limit (cur : Cursor) :
    exec c (limit cur) s = .ok (cur.remaining s.heap + maxListLength) s := rfl

/-- A value gets another identity at most. -/
theorem exec_identified (s : Session) (v : Value) :
    ∃ w n, s.heap.next ≤ n ∧ exec c (identified v) s = .ok w (s.withNext n) ∧ w.Shows v := by
  cases v with
  | scalar cls id scalar =>
    simp only [identified]
    split
    · exact ⟨_, s.heap.next, Nat.le_refl _, rfl, .inl rfl⟩
    · exact ⟨_, s.heap.next + 1, Nat.le_succ _, rfl, .inr ⟨cls, id, s.heap.next, scalar, rfl, rfl⟩⟩
  | _ => exact ⟨_, s.heap.next, Nat.le_refl _, rfl, .inl rfl⟩

theorem exec_next_rest (s : Session) (v : Value) (vs : List Value) :
    ∃ w n, s.heap.next ≤ n ∧
      exec c (next (.rest (v :: vs))) s = .ok (some (w, .rest vs)) (s.withNext n) ∧ w.Shows v := by
  obtain ⟨w, n, hn, hw, hshows⟩ := exec_identified c s v
  refine ⟨w, n, hn, ?_, hshows⟩
  simp only [next, maxChain, nextUpTo, nextElement, exec_bind, exec_pure, Ending.andThen_ok, hw]

theorem exec_next_rest_nil (s : Session) :
    exec c (next (.rest [])) s = .ok none s := rfl

theorem exec_next_elements (s : Session) (x : Value) (i : Nat) :
    ∃ r n, s.heap.next ≤ n ∧ exec c (next (.elements x i)) s = .ok r (s.withNext n) ∧
      match ((s.heap.contained? x).getD [])[i]? with
      | none => r = none
      | some v => ∃ w, r = some (w, .elements x (i + 1)) ∧ w.Shows v := by
  simp only [next, maxChain, nextUpTo, nextElement, exec_bind, exec_pure, exec_heap,
    Ending.andThen_ok]
  rcases ((s.heap.contained? x).getD [])[i]? with _ | v
  · exact ⟨none, s.heap.next, Nat.le_refl _, rfl, rfl⟩
  · obtain ⟨w, n, hn, hw, hshows⟩ := exec_identified c s v
    refine ⟨some (w, .elements x (i + 1)), n, hn, ?_, w, rfl, hshows⟩
    simp only [Option.map_some, exec_bind, hw, Ending.andThen_ok, exec_pure]

theorem exec_requireFit (s : Session) (rule : IndexRule) {i : Nat} (id : Nat)
    (hmax : i < maxIndex) :
    exec c (requireFit rule (.scalar (.kind .int) id (.int i))) s = .ok (i : Int) s := by
  have hindex : exec c (requireIndex rule.refusal (.scalar (.kind .int) id (.int i))) s =
      .ok (i : Int) s := rfl
  have hfit : (-(maxIndex : Int) ≤ i && (i : Int) < maxIndex) = true := by
    simp only [Bool.and_eq_true, decide_eq_true_eq]
    -- The bound is an atom here: nobody should try to count up to it.
    generalize maxIndex = bound at *
    omega
  rw [requireFit, exec_bind, hindex, Ending.andThen_ok, fitting, if_pos hfit, exec_pure]

/-- The place that a natural number stands for is that number. -/
theorem exec_requirePosition (s : Session) (rule : IndexRule) {length i : Nat} (id : Nat)
    (hi : i < length) (hmax : i < maxIndex) :
    exec c (requirePosition rule length (.scalar (.kind .int) id (.int i))) s = .ok i s := by
  have hneg : ¬(i : Int) < 0 := by omega
  have hpos : positionOf? length i = some i := by simp [positionOf?, hneg, hi]
  rw [requirePosition, exec_bind, exec_requireFit c s rule id hmax, Ending.andThen_ok, hpos]
  rfl

theorem exec_sequenceItem (s : Session) (k : Kind) (hx : s.heap.contained? x = some items)
    {i : Nat} {v : Value} (id : Nat) (hi : items[i]? = some v) (hmax : i < maxIndex) :
    exec c (sequenceItem k x (.scalar (.kind .int) id (.int i))) s = .ok v s := by
  obtain ⟨hlt, -⟩ := List.getElem?_eq_some_iff.mp hi
  rw [sequenceItem, exec_bind, exec_heap, Ending.andThen_ok, hx, Option.getD_some, exec_bind,
    exec_requirePosition c s _ id hlt hmax, Ending.andThen_ok, hi]
  rfl

/-- The element at an index is read, and gets an identity if it has none. -/
theorem exec_item_eq (hx : s.heap.ReadsPlainly .item items x) {i : Nat} {v : Value}
    (hi : items[i]? = some v) (hmax : i < maxIndex) :
    ∃ n, s.heap.next ≤ n ∧
      exec c (do item x (← identified (.int i))) s = exec c (identified v) (s.withNext n) := by
  obtain ⟨key, n, hn, hkey, hshows⟩ := exec_identified c s (.int i)
  obtain ⟨id, rfl⟩ : ∃ id, key = .scalar (.kind .int) id (.int i) := by
    rcases hshows with rfl | ⟨cls, id, id', scalar, h, rfl⟩
    · exact ⟨unidentified, rfl⟩
    · cases h
      exact ⟨id', rfl⟩
  refine ⟨n, hn, ?_⟩
  have native (k : Kind) : exec c (do identified (← sequenceItem k x
      (.scalar (.kind .int) id (.int i)))) (s.withNext n) =
      exec c (identified v) (s.withNext n) := by
    rw [exec_bind, exec_sequenceItem c (s.withNext n) k hx.contained? id hi hmax]
    rfl
  rw [exec_bind, hkey, Ending.andThen_ok]
  cases hx with
  | tuple slot =>
    have slot' : (s.withNext n).heap.slot? .item (.tuple _ _ items) = some (.native .tuple) := slot
    simp only [item, exec_bind, exec_heap, Ending.andThen_ok, slot']
    exact native .tuple
  | @list place contents slot =>
    have slot' : (s.withNext n).heap.slot? .item (.ref place) = some (.native .list) := slot
    simp only [item, exec_bind, exec_heap, Ending.andThen_ok, slot']
    exact native .list

theorem exec_item (hx : s.heap.ReadsPlainly .item items x) {i : Nat} {v : Value}
    (hi : items[i]? = some v) (hmax : i < maxIndex) :
    ∃ w n, s.heap.next ≤ n ∧
      exec c (do item x (← identified (.int i))) s = .ok w (s.withNext n) ∧ w.Shows v := by
  obtain ⟨n, hn, hitem⟩ := exec_item_eq c hx hi hmax
  obtain ⟨w, n', hn', hw, hshows⟩ := exec_identified c (s.withNext n) v
  exact ⟨w, n', Nat.le_trans hn hn', hitem.trans hw, hshows⟩

theorem exec_list (s : Session) (vs : List Value) :
    ∃ w s', exec c (list vs) s = .ok w s' ∧ s'.heap.sequence? w = some vs := by
  refine ⟨_, _, rfl, ?_⟩
  have hcell := Heap.cell?_alloc s.heap ⟨.kind .list, .list vs⟩
  change Heap.sequence? (s.heap.alloc ⟨.kind .list, .list vs⟩).2 (.ref _) = some vs
  simp only [Heap.sequence?, Heap.contents?]
  rw [show (s.heap.alloc ⟨.kind .list, .list vs⟩).1 = .ref s.heap.cells.size from rfl] at hcell
  rw [hcell]
  rfl

theorem exec_dropFirst (hx : s.heap.ReadsPlainly .item items x) (n : Nat) :
    ∃ w s', exec c (dropFirst x n) s = .ok w s' ∧ s'.heap.sequence? w = some (items.drop n) := by
  rw [dropFirst, exec_bind, exec_fresh, Ending.andThen_ok]
  cases hx with
  | @tuple cls id slot =>
    have slot' : (s.withNext (s.heap.next + 1)).heap.slot? .item (.tuple cls id items) =
        some (.native .tuple) := slot
    simp only [item, exec_bind, exec_heap, Ending.andThen_ok, slot', nativeItem]
    split
    · rename_i hn
      simp at hn
      refine ⟨_, _, rfl, ?_⟩
      rw [hn.1, List.drop_zero]
      rfl
    · rw [tuple]
      split
      · rename_i hempty
        refine ⟨_, _, rfl, ?_⟩
        rw [List.isEmpty_iff.mp hempty]
        rfl
      · exact ⟨_, _, rfl, rfl⟩
  | @list place contents slot =>
    have slot' : (s.withNext (s.heap.next + 1)).heap.slot? .item (.ref place) =
        some (.native .list) := slot
    simp only [item, exec_bind, exec_heap, Ending.andThen_ok, slot', nativeItem]
    have hcontained : (s.withNext (s.heap.next + 1)).heap.contained? (.ref place) = some items :=
      (Heap.ReadsPlainly.list contents slot).contained?
    rw [hcontained]
    exact exec_list c _ (items.drop n)

end Run

end ValueShape
