import ValueShape.Proofs.Conduct.Iterate

/-!
# Going through the entries of a mapping

What an iteration over a part of a mapping yields, whatever the keys are, and in mappings that keep
an order as in others.

* `Run.YieldsEntry part e w` says that `w` is what is yielded for the entry `e`.
* `Run.iterates_parts` says that one element is yielded for each entry.
-/

set_option autoImplicit false

namespace ValueShape

namespace Run

variable {c : Conduct} {I : Session → Prop} {s : Session} {place : Nat} {es : List Entry}

/-- What an iteration over a part of a mapping yields for a key and a value. -/
def YieldsPart (part : Part) (key value w : Value) : Prop :=
  match part with
  | .keys => w = key
  | .values => w = value
  | .items => ∃ id, w = .tuple (.kind .tuple) id [key, value]

/-- What an iteration over a part of a mapping yields for an entry. -/
def YieldsEntry (part : Part) (e : Entry) (w : Value) : Prop := YieldsPart part e.1.value e.2 w

/-- What is yielded for a key and a value can be told from other values already, unless it is a new
pair. -/
def IsPartAsIs (part : Part) (key value : Value) : Prop :=
  match part with
  | .keys => key.isIdentified = true
  | .values => value.isIdentified = true
  | .items => True

/-- What is yielded for an entry can be told from other values already, unless it is a new pair. -/
def IsYieldedAsIs (part : Part) (e : Entry) : Prop := IsPartAsIs part e.1.value e.2

/-- All that is yielded is made of the entries by one function. -/
theorem eq_map_of_yields {part : Part} {f : Entry → Value} {ws : List Value}
    (hf : ∀ e w, YieldsEntry part e w → w = f e) (h : List.Forall₂ (YieldsEntry part) es ws) :
    ws = es.map f := by
  induction h with
  | nil => rfl
  | cons h _ ih => rw [List.map_cons, ← ih, hf _ _ h]

theorem exec_partOf (c : Conduct) (s : Session) {part : Part} {key value : Value}
    (he : IsPartAsIs part key value) :
    ∃ w n, s.heap.next ≤ n ∧ exec c (partOf part key value) s = .ok w (s.withNext n) ∧
      w.isIdentified = true ∧ YieldsPart part key value w := by
  cases part with
  | keys => exact ⟨_, s.heap.next, Nat.le_refl _, rfl, he, rfl⟩
  | values => exact ⟨_, s.heap.next, Nat.le_refl _, rfl, he, rfl⟩
  | items => exact ⟨_, s.heap.next + 1, Nat.le_succ _, rfl, rfl, _, rfl⟩

/-- The part of the entry at a place is yielded, as it was made. -/
theorem exec_next_of_partOf (hes : s.heap.entries? (.ref place) = some es) {part : Part}
    (ordered : Bool) {i : Nat} {e : Entry} (hi : es[i]? = some e) {w : Value} {n : Nat}
    (hw : exec c (partOf part e.1.value e.2) s = .ok w (s.withNext n)) (hid : w.isIdentified = true) :
    exec c (next (.entries part ordered (.ref place) i es.length false)) s =
      .ok (some (w, .entries part ordered (.ref place) (i + 1) es.length false)) (s.withNext n) := by
  have hlt : i < es.length := (List.getElem?_eq_some_iff.mp hi).1
  have hfirst : exec c (nextEntry part ordered (.ref place) i es.length false) s =
      .ok (some (w, .entries part ordered (.ref place) (i + 1) es.length false)) (s.withNext n) := by
    simp only [nextEntry, exec_bind, exec_heap, Ending.andThen_ok, hes, Option.getD_some,
      bne_self_eq_false, Bool.false_and, Bool.false_eq_true, if_false, Nat.not_le.mpr hlt, hi]
    rw [hw]
    rfl
  simp only [next, maxChain, nextUpTo, nextElement, exec_bind, hfirst, Ending.andThen_ok,
    exec_identified_of_isIdentified c hid, exec_pure]

theorem exec_next_part (hes : s.heap.entries? (.ref place) = some es) (part : Part) (ordered : Bool)
    {i : Nat} {e : Entry} (hi : es[i]? = some e) (he : IsYieldedAsIs part e) :
    ∃ w n, s.heap.next ≤ n ∧ exec c (next (.entries part ordered (.ref place) i es.length false)) s =
      .ok (some (w, .entries part ordered (.ref place) (i + 1) es.length false)) (s.withNext n) ∧
      YieldsEntry part e w := by
  obtain ⟨w, n, hn, hw, hid, hyields⟩ := exec_partOf c s he
  exact ⟨w, n, hn, exec_next_of_partOf hes ordered hi hw hid, hyields⟩

theorem exec_next_part_end (hes : s.heap.entries? (.ref place) = some es) (part : Part)
    (ordered : Bool) :
    exec c (next (.entries part ordered (.ref place) es.length es.length false)) s = .ok none s := by
  simp only [next, maxChain, nextUpTo, nextElement, nextEntry, exec_bind, exec_heap,
    Ending.andThen_ok, hes, Option.getD_some, bne_self_eq_false, Bool.false_and, Bool.false_eq_true,
    if_false, Nat.le_refl, if_true, exec_pure]

/-- **An iteration over a part of a mapping yields one element for each entry.** -/
theorem iterates_parts (hI : Session.Steadfast I) (part : Part) (ordered : Bool)
    (hes : ∀ s, I s → s.heap.entries? (.ref place) = some es) (hid : ∀ e ∈ es, IsYieldedAsIs part e) :
    Iterates c I (YieldsEntry part) es (.entries part ordered (.ref place) 0 es.length false) := by
  refine iterates_places (fun i => .entries part ordered (.ref place) i es.length false)
    (fun i e hi s hs => ?_) fun s hs => ?_
  · obtain ⟨w, n, hn, hw, hyields⟩ := exec_next_part (c := c) (hes s hs) part ordered hi
      (hid e (List.mem_of_getElem? hi))
    exact .of_exec hI hs hw (.withNext hn) ⟨w, rfl, hyields⟩
  · exact .of_exec_self hs (exec_next_part_end (hes s hs) part ordered) rfl

theorem count_of_entries (hes : s.heap.contents? (.ref place) = some (.dict es)) :
    s.heap.count (.ref place) = es.length := by
  simp only [Heap.count, Heap.contained?, hes, Option.getD_some, List.length_map]

theorem hasRoom_parts (part : Part) (ordered : Bool) (m : Nat)
    (hes : ∀ s, I s → s.heap.contents? (.ref place) = some (.dict es)) :
    HasRoom I es.length (.entries part ordered (.ref place) m es.length false) := by
  intro s hs
  rw [Cursor.remaining, count_of_entries (hes s hs)]
  exact Nat.lt_add_of_pos_right (by decide)

/-- The parts of a mapping are what the iteration over them yields. -/
theorem settles_readParts {β : Type} {R : β → Value → Prop} {bs : List β} {cur : Cursor} {part : Part}
    {v : Value} (hlisting : exec c (listing part v) s = .ok (.parts cur none) s)
    (hcur : Iterates c I R bs cur) (hroom : HasRoom I bs.length cur) (hs : I s) :
    Settles c I s (readParts part v) fun ws _ => List.Forall₂ R bs ws := by
  rw [readParts]
  refine .after hlisting ?_
  rw [readListing, Option.forM.eq_def, pure_bind]
  exact settles_elements hcur hroom hs

end Run

end ValueShape
