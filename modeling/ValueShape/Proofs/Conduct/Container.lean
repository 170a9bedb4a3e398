import ValueShape.Proofs.Conduct.Dict

/-!
# Built-in containers

Lists, tuples and mappings of the built-in classes, and what checks read of them.

* An invariant of sessions is `Spacious` if the built-in classes are regular where it holds, and if
  neither the notes of the library nor new cells end it.
* `Value.IsArrayOf I items x` says that `x` is a list or a tuple with the elements `items` wherever the
  invariant `I` holds, and `Value.IsMappingOf I es x` that `x` is a mapping with the entries `es`: one
  that can change, one that keeps an order, or a read-only one that shows such a mapping.
* `Value.IsPrimitive v` says that `v` is a value without parts.
* The other lemmas say what is read of these: whether they are arrays or mappings, their elements, what
  remains of them, their keys and values, and the value under a name.
-/

set_option autoImplicit false

namespace ValueShape

open Run

/-! ## Invariants

Checks make containers on the way: what remains of a list is a new one.  So an invariant says which
cells are in their places, and it must be possible to add one. -/

namespace Session

/-- A session with a new cell. -/
def withCell (s : Session) (cell : Cell) : Session := { s with heap := (s.heap.alloc cell).2 }

/-- An invariant of sessions in which the built-in classes are as they were in the beginning, and in
which there is room for new values. -/
structure Spacious (I : Session → Prop) : Prop extends Lasting I where
  /-- The built-in classes are as they were in the beginning. -/
  regular {s : Session} (hs : I s) : s.heap.Regular
  /-- So is the class of the absent value. -/
  absent {s : Session} (hs : I s) : s.heap.IsOrdinary .undefined .undefined
  /-- New cells do not end it. -/
  withCell {s : Session} (hs : I s) (cell : Cell) : I (s.withCell cell)

theorem spacious_untouched : Spacious Untouched where
  toLasting := enduring_untouched.toLasting
  regular hs := hs.regular
  absent hs := hs.isOrdinary rfl
  withCell hs _ := ⟨hs.attributes, hs.namespaces, hs.classes, hs.positive, hs.before⟩

theorem Spacious.holding {I : Session → Prop} (hI : Spacious I) (cells : List (Nat × Cell)) :
    Spacious (Holding I cells) where
  toLasting := hI.toLasting.holding cells
  regular hs := hI.regular hs.1
  absent hs := hI.absent hs.1
  withCell {s} hs cell := by
    refine ⟨hI.withCell hs.1 cell, fun d hd => ?_⟩
    have hd := hs.2 d hd
    have hlt : d.1 < s.heap.cells.size := (Array.getElem?_eq_some_iff.mp hd).1
    change (s.heap.cells.push cell)[d.1]? = _
    rw [Array.getElem?_push_lt hlt, ← Array.getElem?_eq_getElem hlt]
    exact hd

theorem Spacious.enduring {I : Session → Prop} (hI : Spacious I) : Enduring I where
  toLasting := hI.toLasting
  regular hs := hI.regular hs
  withDict hs _ := hI.withCell hs _

theorem holding_nil (I : Session → Prop) : Holding I [] = I := by
  funext s
  simp [Holding]

/-- A new cell is in its place. -/
theorem Holding.cons_withCell {I : Session → Prop} (hI : Spacious I) {cells : List (Nat × Cell)}
    {s : Session} (hs : Holding I cells s) (cell : Cell) :
    Holding I ((s.heap.cells.size, cell) :: cells) (s.withCell cell) := by
  obtain ⟨hs', hcells⟩ := (hI.holding cells).withCell hs cell
  refine ⟨hs', List.forall_mem_cons.mpr ⟨?_, hcells⟩⟩
  change (s.heap.cells.push cell)[s.heap.cells.size]? = some cell
  exact Array.getElem?_push_size

end Session

/-! ## Values without parts -/

/-- The kinds of the values without parts. -/
def Kind.primitives : List Kind := [null, undefined, bool, int, float, text, bytes]

/-- A value without parts: null, the absent value, a truth value, a number, a text or bytes. -/
def Value.IsPrimitive (v : Value) : Prop := v.isPlain = true ∨ v = .undefined

/-- The kinds of the built-in containers that checks look into. -/
def Kind.containers : List Kind := [list, tuple, dict, orderedDict, view]

/-- A value that may be such a container. -/
def Value.isContainer : Value → Bool
  | .tuple .. | .ref _ | .view .. => true
  | _ => false

namespace Heap.IsOrdinary

variable {h h' : Heap} {k : Kind} {v : Value}

/-- Neither primitive values nor containers answer in their own way when attributes are read, and they
cannot be called. -/
theorem readsAttributes_of_mem (hv : h.IsOrdinary k v) (hk : k ∈ Kind.primitives ++ Kind.containers) :
    h.readsAttributes v = false ∧ h.isCallable v = false := by
  have hstart : start.classSlot? .readAttribute (.kind k) = none ∧
      start.classSlot? .call (.kind k) = none := by
    simp only [Kind.primitives, Kind.containers, List.cons_append, List.nil_append, List.mem_cons,
      List.not_mem_nil, or_false] at hk
    rcases hk with rfl | rfl | rfl | rfl | rfl | rfl | rfl | rfl | rfl | rfl | rfl | rfl <;>
      exact ⟨rfl, rfl⟩
  refine ⟨hv.readsAttributes hstart.1, ?_⟩
  rw [isCallable, hv.slot?, hstart.2]
  rfl

end Heap.IsOrdinary

/-- The method that a leaf takes: it tests values that cannot be called and do not answer in their own
way. -/
theorem Run.exec_accepts_leaf (host : Host) (c : Conduct) {s : Session} {v : Value}
    (hread : s.heap.readsAttributes v = false) (hcall : s.heap.isCallable v = false) (l : Leaf) :
    exec c ((Ask.asked host (.leaf l)).accepts v) s = .ok (l.test s.heap v) s := by
  have hask : exec c (Leaf.ask l v) s = .ok (l.test s.heap v) s := by
    rw [Leaf.ask, exec_bind, exec_heap, Ending.andThen_ok, exec_bind, exec_asksForClass, hread]
    cases l <;> simp [Leaf.test, hcall]
  have hcallLeaf : Ask.asked host (.leaf l) v = do return .bool (← Leaf.ask l v) := rfl
  rw [Asked.accepts, hcallLeaf, exec_bind, exec_bind, hask]
  rfl

/-- What a leaf says about a container depends on whether that is an array and whether it is a
mapping. -/
theorem Leaf.test_container {h : Heap} {k : Kind} {v : Value} (hv : h.IsOrdinary k v)
    (hk : k ∈ Kind.containers) (hcontainer : v.isContainer = true) (l : Leaf) :
    l.test h v = match l with
      | .any | .unknown => true
      | .array => h.isArray v
      | .record => h.isOfKind v .mapping
      | _ => false := by
  have hcall := (hv.readsAttributes_of_mem (List.mem_append_right _ hk)).2
  have habsent : h.isOfKind v .undefined = false := by
    rw [hv.isOfKind]
    simp only [Kind.containers, List.mem_cons, List.not_mem_nil, or_false] at hk
    rcases hk with rfl | rfl | rfl | rfl | rfl <;> rfl
  cases v <;> first | exact absurd hcontainer Bool.false_ne_true |
    (cases l <;> simp [Leaf.test, hcall, habsent, Value.text?, Value.int?, Value.identical,
      Heap.isPrimitive, Value.isPlain])

/-- A leaf says the same about a primitive value wherever that has its class. -/
theorem Leaf.test_primitive {h h' : Heap} {k : Kind} {v : Value} (hv : h.IsOrdinary k v)
    (hv' : h'.IsOrdinary k v) (hk : k ∈ Kind.primitives) (hprimitive : v.IsPrimitive) (l : Leaf) :
    l.test h v = l.test h' v := by
  have hcall := (hv.readsAttributes_of_mem (List.mem_append_left _ hk)).2
  have hcall' := (hv'.readsAttributes_of_mem (List.mem_append_left _ hk)).2
  have harray : h.isArray v = h'.isArray v := by
    rcases hprimitive with hplain | rfl
    · cases v <;> first | rfl | exact absurd hplain Bool.false_ne_true
    · rfl
  cases l <;> simp only [Leaf.test, Heap.isPrimitive, hv.isOfKind, hv'.isOfKind, hcall, hcall', harray]

/-! ## Lists and tuples -/

/-- A list or a tuple of the built-in class has the given elements, wherever an invariant holds. -/
inductive Value.IsArrayOf (I : Session → Prop) (items : List Value) : Value → Prop
  /-- A tuple. -/
  | tuple (id : Nat) : IsArrayOf I items (.tuple (.kind .tuple) id items)
  /-- A list. -/
  | list {place : Nat}
      (hcell : ∀ s, I s → s.heap.cells[place]? = some ⟨.kind .list, .list items⟩) :
      IsArrayOf I items (.ref place)

namespace Value.IsArrayOf

variable {c : Conduct} {I J : Session → Prop} {items : List Value} {x : Value} {s : Session}

theorem mono (h : x.IsArrayOf I items) (hJ : ∀ s, J s → I s) : x.IsArrayOf J items := by
  cases h with
  | tuple id => exact .tuple id
  | list hcell => exact .list fun s hs => hcell s (hJ s hs)

theorem isContainer (h : x.IsArrayOf I items) : x.isContainer = true := by cases h <;> rfl

theorem identified (h : x.IsArrayOf I items) : x.isIdentified = true := by cases h <;> rfl

variable (hI : Session.Spacious I)
include hI

theorem isOrdinary (h : x.IsArrayOf I items) :
    ∃ k ∈ Kind.containers, Heap.start.hasKind (.kind k) .mapping = false ∧
      ∀ s, I s → s.heap.IsOrdinary k x := by
  cases h with
  | tuple id =>
    exact ⟨.tuple, by decide, rfl, fun s hs => (hI.regular hs).isOrdinary rfl rfl⟩
  | @list place hcell =>
    refine ⟨.list, by decide, rfl, fun s hs => (hI.regular hs).isOrdinary rfl ?_⟩
    rw [Heap.initialClass, hcell s hs]
    rfl

/-- The built-in methods of lists and tuples are used. -/
theorem readsPlainly (h : x.IsArrayOf I items) (hs : I s) {m : Method}
    (hm : m ∈ [Method.length, .iteration, .item]) : s.heap.ReadsPlainly m items x := by
  have hslots : Heap.start.classSlot? m (.kind .tuple) = some (.native .tuple) ∧
      Heap.start.classSlot? m (.kind .list) = some (.native .list) := by
    simp only [List.mem_cons, List.not_mem_nil, or_false] at hm
    rcases hm with rfl | rfl | rfl <;> exact ⟨rfl, rfl⟩
  cases h with
  | tuple id => exact .tuple (((hI.regular hs).slot? (k := .tuple) rfl rfl m).trans hslots.1)
  | @list place hcell =>
    refine .list ?_ (((hI.regular hs).slot? (k := .list) rfl ?_ m).trans hslots.2)
    · rw [Heap.contents?, Heap.cell?, hcell s hs]
      rfl
    · rw [Heap.initialClass, hcell s hs]
      rfl

theorem isArray (h : x.IsArrayOf I items) (hs : I s) : s.heap.isArray x = true := by
  rw [Heap.isArray, (h.readsPlainly hI hs (m := .length) (by simp)).sequence?]
  rfl

theorem exec_isArray (c : Conduct) (h : x.IsArrayOf I items) (hs : I s) :
    exec c (Check.isArray x) s = .ok true s := by
  obtain ⟨k, hk, -, hordinary⟩ := h.isOrdinary hI
  rw [Run.exec_isArray c ((hordinary s hs).readsAttributes_of_mem (List.mem_append_right _ hk)).1,
    h.isArray hI hs]

omit hI in
/-- The elements are yielded one after the other. -/
theorem iterates (h : x.IsArrayOf I items) (hitems : ∀ v ∈ items, v.isIdentified = true) :
    Run.Iterates c I Eq items (arrayCursor items x) ∧ HasRoom I items.length (arrayCursor items x) := by
  cases h with
  | tuple id => exact ⟨iterates_rest hitems, hasRoom_rest items⟩
  | @list place hcell =>
    refine iterates_list (fun s hs => ?_) hitems
    rw [Heap.contents?, Heap.cell?, hcell s hs]
    rfl

/-- The element at an index. -/
theorem settles_item (h : x.IsArrayOf I items) (hs : I s) {i : Nat} {v : Value}
    (hi : items[i]? = some v) (hmax : i < maxIndex) (hv : v.isIdentified = true) :
    Settles c I s (do item x (← Run.identified (.int i))) fun w _ => w = v := by
  obtain ⟨n, hn, hitem⟩ := exec_item_eq c (h.readsPlainly hI hs (by simp)) hi hmax
  exact .of_exec hI.toLasting hs (hitem.trans (exec_identified_of_isIdentified c hv)) (.withNext hn) rfl

end Value.IsArrayOf

/-- Whether a value is a tuple. -/
def Value.isTuple : Value → Bool
  | .tuple .. => true
  | _ => false

theorem Session.Holding.holding (I : Session → Prop) (cells more : List (Nat × Cell)) :
    Session.Holding (Session.Holding I cells) more = Session.Holding I (more ++ cells) := by
  funext s
  simp only [Session.Holding, List.forall_mem_append, and_assoc, eq_iff_iff]
  exact ⟨fun ⟨h, h₁, h₂⟩ => ⟨h, h₂, h₁⟩, fun ⟨h, h₂, h₁⟩ => ⟨h, h₁, h₂⟩⟩

/-- **What remains of a list is a new list, and what remains of a tuple is a tuple**, whatever class they
are of. -/
theorem Heap.ReadsPlainly.exec_dropFirst {c : Conduct} {I : Session → Prop} (hI : Session.Spacious I)
    {items : List Value} {x : Value} {s : Session} (hx : s.heap.ReadsPlainly .item items x) (hs : I s)
    (n : Nat) :
    ∃ w s' cells, exec c (dropFirst x n) s = .ok w s' ∧ Session.Holding I cells s' ∧
      w.isTuple = x.isTuple ∧ w.IsArrayOf (Session.Holding I cells) (items.drop n) := by
  have hnext {m : Nat} (hm : s.heap.next ≤ m) : Session.Holding I [] (s.withNext m) :=
    ⟨hI.notes hs (.withNext hm), fun _ hd => absurd hd List.not_mem_nil⟩
  rw [dropFirst, exec_bind, exec_fresh, Ending.andThen_ok]
  cases hx with
  | @tuple cls id slot =>
    have slot' : (s.withNext (s.heap.next + 1)).heap.slot? .item (.tuple cls id items) =
        some (.native .tuple) := slot
    simp only [item, exec_bind, exec_heap, Ending.andThen_ok, slot', nativeItem]
    split
    · rename_i hn
      obtain ⟨rfl, rfl⟩ : n = 0 ∧ cls = .kind .tuple := by simpa using hn
      exact ⟨_, _, [], rfl, hnext (Nat.le_succ _), rfl, .tuple id⟩
    · rw [Run.tuple]
      split
      · rename_i hempty
        rw [List.isEmpty_iff.mp hempty]
        exact ⟨_, _, [], rfl, hnext (Nat.le_succ _), rfl, .tuple 0⟩
      · exact ⟨_, _, [], rfl, hnext (Nat.le_succ_of_le (Nat.le_succ _)), rfl, .tuple _⟩
  | @list place contents slot =>
    have slot' : (s.withNext (s.heap.next + 1)).heap.slot? .item (.ref place) = some (.native .list) := slot
    have contents' : (s.withNext (s.heap.next + 1)).heap.contained? (.ref place) = some items :=
      (Heap.ReadsPlainly.list contents slot).contained?
    simp only [item, exec_bind, exec_heap, Ending.andThen_ok, slot', nativeItem]
    rw [contents']
    let cell : Cell := ⟨.kind .list, .list (items.drop n)⟩
    let s₁ := s.withNext (s.heap.next + 1)
    refine ⟨.ref s₁.heap.cells.size, s₁.withCell cell, [(s₁.heap.cells.size, cell)], rfl,
      .cons_withCell hI (hnext (Nat.le_succ _)) cell, rfl, .list fun t ht => ?_⟩
    exact ht.2 (s₁.heap.cells.size, cell) List.mem_cons_self

/-- What remains of a list or a tuple of the built-in class is one as well. -/
theorem Value.IsArrayOf.exec_dropFirst {c : Conduct} {I : Session → Prop} (hI : Session.Spacious I)
    {cells : List (Nat × Cell)} {items : List Value} {x : Value}
    (h : x.IsArrayOf (Session.Holding I cells) items) {s : Session}
    (hs : Session.Holding I cells s) (n : Nat) :
    ∃ w s' more, exec c (dropFirst x n) s = .ok w s' ∧ Session.Holding I (more ++ cells) s' ∧
      w.IsArrayOf (Session.Holding I (more ++ cells)) (items.drop n) := by
  have hholding := hI.holding cells
  obtain ⟨w, s', more, hdrop, hs', -, hw⟩ :=
    (h.readsPlainly hholding hs (by simp)).exec_dropFirst (c := c) hholding hs n
  rw [Session.Holding.holding] at hs' hw
  exact ⟨w, s', more, hdrop, hs', hw⟩

/-! ## Mappings

All mappings of the built-in classes are read by their entries.  A read-only mapping leaves this to
the one that it shows. -/

/-- A mapping of a built-in class has the given entries, wherever an invariant holds. -/
inductive Value.IsMappingOf (I : Session → Prop) (es : List Entry) : Value → Prop
  /-- A mapping that can change. -/
  | dict {place : Nat}
      (hcell : ∀ s, I s → s.heap.cells[place]? = some ⟨.kind .dict, .dict es⟩) :
      IsMappingOf I es (.ref place)
  /-- A mapping that keeps an order, without attributes that stand for its methods. -/
  | ordered {place : Nat}
      (hcell : ∀ s, I s → s.heap.cells[place]? = some ⟨.kind .orderedDict, .dict es⟩)
      (hbare : ∀ s, I s → ∀ m : Method, m.isOfMappings = true →
        s.heap.assigned? (.ref place) m.name = none) : IsMappingOf I es (.ref place)
  /-- A read-only mapping that shows a mapping. -/
  | view (id : Nat) {source : Value} (hsource : IsMappingOf I es source) :
      IsMappingOf I es (.view id source)

/-- A mapping that can change has the given entries, and its methods are the built-in ones. -/
structure Heap.KeepsEntries (h : Heap) (k : Kind) (place : Nat) (es : List Entry) : Prop where
  /-- It has these entries. -/
  contents : h.contents? (.ref place) = some (.dict es)
  /-- It belongs to its class. -/
  ordinary : h.IsOrdinary k (.ref place)
  /-- No attribute stands for a method. -/
  bare (m : Method) (hm : m.isOfMappings = true) : h.assigned? (.ref place) m.name = none

/-- A mapping that keeps an order has the method for the value under a key from the class above. -/
theorem Heap.inherited?_get_ordered :
    Heap.start.inherited? (.kind .orderedDict) Method.get.name = some (.native .dict) := by
  have hown : start.ownMember? Method.get.name (Method.ofName? Method.get.name)
      (.kind .orderedDict) = none := by decide +kernel
  have habove : start.ownMember? Method.get.name (Method.ofName? Method.get.name)
      (.kind .dict) = some (.native .dict) := rfl
  have hlineage : start.lineage (.kind .orderedDict) =
      [.kind .orderedDict, .kind .dict, .kind .object] := rfl
  rw [inherited?, if_neg (by decide), hlineage]
  simp only [List.findSome?_cons, hown, habove]

namespace Value.IsMappingOf

variable {c : Conduct} {I J : Session → Prop} {es : List Entry} {x : Value} {s : Session}

theorem mono (h : x.IsMappingOf I es) (hJ : ∀ s, J s → I s) : x.IsMappingOf J es := by
  induction h with
  | dict hcell => exact .dict fun s hs => hcell s (hJ s hs)
  | ordered hcell hbare =>
    exact .ordered (fun s hs => hcell s (hJ s hs)) fun s hs => hbare s (hJ s hs)
  | view id _ ih => exact .view id ih

theorem isContainer (h : x.IsMappingOf I es) : x.isContainer = true := by cases h <;> rfl

theorem identified (h : x.IsMappingOf I es) : x.isIdentified = true := by cases h <;> rfl

variable (hI : Session.Spacious I)
include hI

theorem isOrdinary (h : x.IsMappingOf I es) :
    ∃ k ∈ Kind.containers, Heap.start.hasKind (.kind k) .mapping = true ∧
      ∀ s, I s → s.heap.IsOrdinary k x := by
  cases h with
  | @dict place hcell =>
    refine ⟨.dict, by decide, rfl, fun s hs => (hI.regular hs).isOrdinary rfl ?_⟩
    rw [Heap.initialClass, hcell s hs]
    rfl
  | @ordered place hcell hbare =>
    refine ⟨.orderedDict, by decide, rfl, fun s hs => (hI.regular hs).isOrdinary rfl ?_⟩
    rw [Heap.initialClass, hcell s hs]
    rfl
  | view id => exact ⟨.view, by decide, rfl, fun s hs => (hI.regular hs).isOrdinary rfl rfl⟩

omit hI in
theorem isArray (h : x.IsMappingOf I es) (hs : I s) : s.heap.isArray x = false := by
  cases h with
  | @dict place hcell | @ordered place hcell hbare =>
    simp only [Heap.isArray, Heap.sequence?, Heap.contents?, Heap.cell?, hcell s hs]
    rfl
  | view id => rfl

theorem exec_isMapping (c : Conduct) (h : x.IsMappingOf I es) (hs : I s) :
    exec c (isOfKind x .mapping) s = .ok true s := by
  obtain ⟨k, hk, hmapping, hordinary⟩ := h.isOrdinary hI
  rw [Run.exec_isOfKind c ((hordinary s hs).readsAttributes_of_mem (List.mem_append_right _ hk)).1,
    (hordinary s hs).isOfKind, hmapping]

/-- Whatever shows a mapping, it is read as that mapping is. -/
theorem reads (h : x.IsMappingOf I es) :
    ∃ k place, (k = .dict ∨ k = .orderedDict) ∧ (∀ s, I s → s.heap.KeepsEntries k place es) ∧
      (∀ part, listing part x = listing part (.ref place)) ∧
      ∀ key default, getValue x key default = getValue (.ref place) key default := by
  induction h with
  | @dict place hcell =>
    refine ⟨.dict, place, .inl rfl, fun s hs => ?_, fun _ => rfl, fun _ _ => rfl⟩
    have hclass : s.heap.initialClass (.ref place) = .kind .dict := by
      rw [Heap.initialClass, hcell s hs]
      rfl
    refine ⟨?_, (hI.regular hs).isOrdinary rfl hclass, fun _ _ =>
      (hI.regular hs).attributes place hclass _⟩
    rw [Heap.contents?, Heap.cell?, hcell s hs]
    rfl
  | @ordered place hcell hbare =>
    refine ⟨.orderedDict, place, .inr rfl, fun s hs => ?_, fun _ => rfl, fun _ _ => rfl⟩
    refine ⟨?_, (hI.regular hs).isOrdinary rfl ?_, hbare s hs⟩
    · rw [Heap.contents?, Heap.cell?, hcell s hs]
      rfl
    · rw [Heap.initialClass, hcell s hs]
      rfl
  | view id _ ih =>
    obtain ⟨k, place, hk, hkeeps, hlisting, hget⟩ := ih
    exact ⟨k, place, hk, hkeeps, fun part => by rw [listing, hlisting],
      fun key default => by rw [getValue, hget]⟩

/-- A part of a mapping is opened as an iteration over the entries. -/
theorem exec_listing (h : x.IsMappingOf I es) :
    ∃ place ordered, (∀ s, I s → s.heap.contents? (.ref place) = some (.dict es)) ∧
      ∀ s, I s → ∀ part, exec c (listing part x) s =
        .ok (.parts (.entries part ordered (.ref place) 0 es.length false) none) s := by
  obtain ⟨k, place, hk, hkeeps, hlisting, -⟩ := h.reads hI
  refine ⟨place, k == .orderedDict, fun s hs => (hkeeps s hs).contents, fun s hs part => ?_⟩
  have hkept := hkeeps s hs
  rw [hlisting, ← count_of_entries hkept.contents]
  have hbare := hkept.bare part.method part.isOfMappings_method
  rcases hk with rfl | rfl
  · exact (exec_listing_of_inherited c hkept.ordinary rfl rfl part hbare
      (show _ = some (Slot.native .dict) by cases part <;> rfl)).trans rfl
  · exact (exec_listing_of_inherited c hkept.ordinary rfl rfl part hbare
      (show _ = some (Slot.native .orderedDict) by cases part <;> rfl)).trans rfl

/-- The keys or the values of a mapping. -/
theorem settles_readParts (h : x.IsMappingOf I es) (hs : I s) {part : Part}
    (hid : ∀ e ∈ es, IsYieldedAsIs part e) :
    Settles c I s (readParts part x) fun ws _ => List.Forall₂ (YieldsEntry part) es ws := by
  obtain ⟨place, ordered, hcontents, hopened⟩ := h.exec_listing (c := c) hI
  have hentries : ∀ s, I s → s.heap.entries? (.ref place) = some es := fun s hs => by
    rw [Heap.entries?, hcontents s hs]
  exact Run.settles_readParts (hopened s hs part) (iterates_parts hI.toLasting part ordered hentries hid)
    (hasRoom_parts part ordered 0 hcontents) hs

theorem settles_keys (h : x.IsMappingOf I es) (hs : I s)
    (hid : ∀ key ∈ es.map (·.1), key.value.isIdentified = true) :
    Settles c I s (readParts .keys x) fun ws _ => ws = es.map (·.1.value) := by
  have hparts : ∀ e ∈ es, IsYieldedAsIs .keys e := fun e he => hid _ (List.mem_map_of_mem he)
  exact (h.settles_readParts hI hs hparts).mono fun _ _ _ _ => eq_map_of_yields fun _ _ h => h

theorem settles_values (h : x.IsMappingOf I es) (hs : I s)
    (hid : ∀ v ∈ es.map (·.2), v.isIdentified = true) :
    Settles c I s (readParts .values x) fun ws _ => ws = es.map (·.2) := by
  have hparts : ∀ e ∈ es, IsYieldedAsIs .values e := fun e he => hid _ (List.mem_map_of_mem he)
  exact (h.settles_readParts hI hs hparts).mono fun _ _ _ _ => eq_map_of_yields fun _ _ h => h

/-- The value under a key is looked for among the entries. -/
theorem exec_getValue (h : x.IsMappingOf I es) :
    ∃ place, (∀ s, I s → s.heap.entries? (.ref place) = some es) ∧
      ∀ s, I s → ∀ key default, exec c (getValue x key default) s = exec c (do
        let key ← keyed key
        return (← entryUnder? key (((← heap).entries? (.ref place)).getD [])).getD default) s := by
  obtain ⟨k, place, hk, hkeeps, -, hget⟩ := h.reads hI
  refine ⟨place, fun s hs => by rw [Heap.entries?, (hkeeps s hs).contents],
    fun s hs key default => ?_⟩
  have hbare := (hkeeps s hs).bare .get rfl
  obtain ⟨hreading, hmissing, hin⟩ : Heap.start.classSlot? .readAttribute (.kind k) = none ∧
      Heap.start.classSlot? .missingAttribute (.kind k) = none ∧
      Heap.start.inherited? (.kind k) Method.get.name = some (.native .dict) := by
    rcases hk with rfl | rfl
    · exact ⟨rfl, rfl, rfl⟩
    · exact ⟨rfl, rfl, Heap.inherited?_get_ordered⟩
  have hnative : nativeGet .dict (.ref place) key default = (do
      let key ← keyed key
      return (← entryUnder? key (((← heap).entries? (.ref place)).getD [])).getD default) := by
    simp only [nativeGet]
  rw [hget, ← hnative]
  exact exec_getValue_of_inherited c (hkeeps s hs).ordinary hreading hmissing hbare hin key default

end Value.IsMappingOf

end ValueShape
