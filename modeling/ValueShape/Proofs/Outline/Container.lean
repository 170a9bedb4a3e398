import ValueShape.Outline.Inspect
import ValueShape.Proofs.Build.Title
import ValueShape.Proofs.Conduct.Foreign

/-!
# Containers of the built-in classes

How rendering reads the containers of the built-in classes: lists, tuples, sets, the collections that
show a part of a mapping, and mappings.

* `Value.IsContainerOf I k shape v` says that `v` is such a container, of the class of the kind `k`, and
  which shape it has for a rendering.
* `Value.GoesThrough c I vs v` says that `v` yields the values `vs`.
* `Run.settles_readParts_entries` says what is read of the entries of a mapping.
-/

set_option autoImplicit false

namespace ValueShape

open Run

/-- A text of the built-in class. -/
def Value.IsText (v : Value) : Prop := ∃ id text, v = .scalar (.kind .text) id (.text text)

/-- A mapping whose class and whose entries are known, and whose methods were not replaced. -/
structure Heap.HoldsEntries (h : Heap) (k : Kind) (place : Nat) (es : List Entry) : Prop where
  /-- It has these entries. -/
  contents : h.contents? (.ref place) = some (.dict es)
  /-- It belongs to its class. -/
  ordinary : h.IsOrdinary k (.ref place)
  /-- No attribute stands for the method that tells the entries. -/
  bare : h.assigned? (.ref place) Method.items.name = none

namespace Run

variable {c : Conduct} {I : Session → Prop} {s : Session} {S : Value → Prop} {v : Value} {k : Kind}

/-! ## What values are taken for -/

theorem exec_appearance_eq (hread : s.heap.readsAttributes v = false) :
    exec c (appearance v) s = .ok (s.heap.appearance v) s := by
  rw [appearance, exec_bind, exec_heap, Ending.andThen_ok, exec_bind, exec_asksForClass, hread]
  rfl

theorem exec_containerOf_eq (hread : s.heap.readsAttributes v = false) :
    exec c (containerOf v) s = .ok ((s.heap.container? v).getD .list) s := by
  rw [containerOf, exec_bind, exec_asksForClass, hread]
  rfl

/-! ## Containers of the built-in classes -/

/-- A kind of containers that are no callables and that are read in the ordinary way. -/
structure IsContainerKind (k : Kind) : Prop where
  /-- Its objects cannot be called. -/
  call : Heap.start.classSlot? .call (.kind k) = none
  /-- Their attributes are read in the ordinary way. -/
  reading : Heap.start.classSlot? .readAttribute (.kind k) = none
  /-- None of them stands for the absent value. -/
  present : Heap.start.hasKind (.kind k) .undefined = false
  /-- Its class has the name that it was made with. -/
  name : Heap.start.assigned? (.ofClass (.kind k)) Heap.nameField = none

namespace IsContainerKind

variable (hk : IsContainerKind k) (hv : s.heap.IsOrdinary k v)
include hk hv

theorem readsAttributes : s.heap.readsAttributes v = false := hv.readsAttributes hk.reading

theorem typeNameValue : ∃ id, s.heap.typeNameValue v = .scalar (.kind .text) id (.text k.name) := by
  rw [Heap.typeNameValue, hv.classOf, Heap.classNameValue,
    hv.members k (Kind.mem_lineage k) Heap.nameField (by decide), hk.name, Option.getD_none]
  split <;> exact ⟨_, rfl⟩

theorem typeName : s.heap.typeName v = k.name := by
  obtain ⟨id, hname⟩ := hk.typeNameValue hv
  have hclass : s.heap.classNameValue (s.heap.classOf v) = .scalar (.kind .text) id (.text k.name) :=
    hname
  rw [Heap.typeName, Heap.className, hclass]
  rfl

variable (hplain : v.isPlain = false)
include hplain

theorem isNeither : (s.heap.isPrimitive v || s.heap.isCallable v) = false := by
  rw [Heap.isPrimitive, hplain, hv.isOfKind, hk.present, Heap.isCallable, hv.slot?, hk.call]
  rfl

theorem container?_mapping (hmapping : Heap.start.hasKind (.kind k) .mapping = true) :
    s.heap.container? v = some .mapping := by
  rw [Heap.container?.eq_def, hk.isNeither hv hplain, hv.isOfKind, hmapping]
  rfl

variable (hmapping : Heap.start.hasKind (.kind k) .mapping = false)
include hmapping

theorem container?_set (hset : Heap.start.hasKind (.kind k) .setLike = true) :
    s.heap.container? v = some .set := by
  rw [Heap.container?.eq_def, hk.isNeither hv hplain, hv.isOfKind, hv.isOfKind, hmapping, hset]
  rfl

variable (hset : Heap.start.hasKind (.kind k) .setLike = false)
include hset

theorem container?_tuple {cls : Class} {id : Nat} {vs : List Value} (htuple : v = .tuple cls id vs) :
    s.heap.container? v = some .tuple := by
  rw [Heap.container?.eq_def, hk.isNeither hv hplain, hv.isOfKind, hv.isOfKind, hmapping, hset,
    htuple]
  rfl

theorem container?_list {place : Nat} {vs : List Value} (hplace : v = .ref place)
    (hvs : s.heap.contents? v = some (.list vs)) : s.heap.container? v = some .list := by
  rw [Heap.container?.eq_def, hk.isNeither hv hplain, hv.isOfKind, hv.isOfKind, hmapping, hset, hvs,
    hplace]
  rfl

end IsContainerKind

theorem exec_appearance_container (hread : s.heap.readsAttributes v = false)
    (hclass : v.isClass = false) {k : Container} (hk : s.heap.container? v = some k) :
    exec c (appearance v) s = .ok .container s ∧ exec c (containerOf v) s = .ok k s := by
  have hneither : s.heap.isPrimitive v = false ∧ s.heap.isCallable v = false := by
    rw [Heap.container?.eq_def] at hk
    split at hk
    · cases hk
    next h => simpa using h
  have happearance : s.heap.appearance v = .container := by
    rw [Heap.appearance, hneither.1, hclass, hneither.2, hk]
    rfl
  exact ⟨by rw [exec_appearance_eq hread, happearance], by rw [exec_containerOf_eq hread, hk]; rfl⟩

end Run

/-! ## Shapes

Containers differ in their brackets, and in what is read of them.  What rendering asks before that
is the same for all of them, and is gathered here. -/

/-- A container of a built-in class, wherever an invariant holds. -/
structure Value.IsContainerOf (I : Session → Prop) (k : Kind) (shape : Container) (v : Value) :
    Prop where
  /-- Its class is one of containers. -/
  kind : Run.IsContainerKind k
  /-- It belongs to its class. -/
  ordinary {s : Session} (hs : I s) : s.heap.IsOrdinary k v
  /-- It is no class itself. -/
  isClass : v.isClass = false
  /-- It has this shape. -/
  container? {s : Session} (hs : I s) : s.heap.container? v = some shape

namespace Value.IsContainerOf

variable {c : Conduct} {I : Session → Prop} {s : Session} {v : Value} {k : Kind} {shape : Container}

theorem readsAttributes (h : v.IsContainerOf I k shape) (hs : I s) :
    s.heap.readsAttributes v = false := h.kind.readsAttributes (h.ordinary hs)

theorem exec_appearance (h : v.IsContainerOf I k shape) (hs : I s) :
    exec c (appearance v) s = .ok .container s ∧ exec c (containerOf v) s = .ok shape s :=
  exec_appearance_container (h.readsAttributes hs) h.isClass (h.container? hs)

/-- In a title, the name of its class stands for itself. -/
theorem settles_shownClass (h : v.IsContainerOf I k shape) (hs : I s) :
    Settles c I s (shownClass v) fun t _ => t = k.name := by
  obtain ⟨id, hname⟩ := h.kind.typeNameValue (h.ordinary hs)
  rw [shownClass]
  refine .after (exec_heap c s) ?_
  rw [hname]
  exact .of_exec_self hs rfl rfl

/-- The name of its class as a value. -/
theorem settles_typeNameValue (hI : Session.Steadfast I) (h : v.IsContainerOf I k shape) (hs : I s) :
    Settles c I s (do identified ((← heap).typeNameValue v)) fun w _ =>
      ∃ id, w = .scalar (.kind .text) id (.text k.name) := by
  obtain ⟨id, hname⟩ := h.kind.typeNameValue (h.ordinary hs)
  refine .after (exec_heap c s) ?_
  rw [hname]
  exact (settles_identified hI hs _).mono fun w _ _ _ hw => hw.text

theorem tuple {cls : Class} {id : Nat} {vs : List Value} (hk : k ∈ [.tuple, .derivedTuple])
    (hv : ∀ s, I s → s.heap.IsOrdinary k (.tuple cls id vs)) :
    (Value.tuple cls id vs).IsContainerOf I k .tuple := by
  obtain ⟨hkind, hmapping, hset⟩ : IsContainerKind k ∧
      Heap.start.hasKind (.kind k) .mapping = false ∧
      Heap.start.hasKind (.kind k) .setLike = false := by
    simp only [List.mem_cons, List.not_mem_nil, or_false] at hk
    rcases hk with rfl | rfl <;> exact ⟨⟨rfl, rfl, rfl, rfl⟩, rfl, rfl⟩
  exact ⟨hkind, hv _, rfl, fun hs => hkind.container?_tuple (hv _ hs) rfl hmapping hset rfl⟩

theorem list {place : Nat} {vs : List Value} (hk : k ∈ [.list, .derivedList])
    (hv : ∀ s, I s → s.heap.IsOrdinary k (.ref place))
    (hcontents : ∀ s, I s → s.heap.contents? (.ref place) = some (.list vs)) :
    (Value.ref place).IsContainerOf I k .list := by
  obtain ⟨hkind, hmapping, hset⟩ : IsContainerKind k ∧
      Heap.start.hasKind (.kind k) .mapping = false ∧
      Heap.start.hasKind (.kind k) .setLike = false := by
    simp only [List.mem_cons, List.not_mem_nil, or_false] at hk
    rcases hk with rfl | rfl <;> exact ⟨⟨rfl, rfl, rfl, rfl⟩, rfl, rfl⟩
  exact ⟨hkind, hv _, rfl, fun hs =>
    hkind.container?_list (hv _ hs) rfl hmapping hset rfl (hcontents _ hs)⟩

theorem set (hk : k ∈ [.set, .frozenSet]) (hv : ∀ s, I s → s.heap.IsOrdinary k v)
    (hplain : v.isPlain = false) (hclass : v.isClass = false) : v.IsContainerOf I k .set := by
  obtain ⟨hkind, hmapping, hset⟩ : IsContainerKind k ∧
      Heap.start.hasKind (.kind k) .mapping = false ∧
      Heap.start.hasKind (.kind k) .setLike = true := by
    simp only [List.mem_cons, List.not_mem_nil, or_false] at hk
    rcases hk with rfl | rfl <;> exact ⟨⟨rfl, rfl, rfl, rfl⟩, rfl, rfl⟩
  exact ⟨hkind, hv _, hclass, fun hs => hkind.container?_set (hv _ hs) hplain hmapping hset⟩

/-- A collection of keys or of entries is a set. -/
theorem listing {part : Part} {ordered : Bool} {place : Nat} (hpart : part ≠ .values)
    (hv : ∀ s, I s → s.heap.IsOrdinary (.listing part ordered) (.ref place)) :
    (Value.ref place).IsContainerOf I (.listing part ordered) .set := by
  obtain ⟨hkind, hmapping, hset⟩ : IsContainerKind (.listing part ordered) ∧
      Heap.start.hasKind (.kind (.listing part ordered)) .mapping = false ∧
      Heap.start.hasKind (.kind (.listing part ordered)) .setLike = true := by
    cases part with
    | values => exact absurd rfl hpart
    | keys | items => cases ordered <;> exact ⟨⟨rfl, rfl, rfl, rfl⟩, rfl, rfl⟩
  exact ⟨hkind, hv _, rfl, fun hs => hkind.container?_set (hv _ hs) rfl hmapping hset⟩

theorem mapping (hk : IsContainerKind k) (hmapping : Heap.start.hasKind (.kind k) .mapping = true)
    (hv : ∀ s, I s → s.heap.IsOrdinary k v) (hplain : v.isPlain = false)
    (hclass : v.isClass = false) : v.IsContainerOf I k .mapping :=
  ⟨hk, hv _, hclass, fun hs => hk.container?_mapping (hv _ hs) hplain hmapping⟩

theorem dict {place : Nat} {es : List Entry} (hk : k ∈ [.dict, .derivedDict, .orderedDict])
    (hholds : ∀ s, I s → s.heap.HoldsEntries k place es) :
    (Value.ref place).IsContainerOf I k .mapping := by
  obtain ⟨hkind, hmapping⟩ : IsContainerKind k ∧
      Heap.start.hasKind (.kind k) .mapping = true := by
    simp only [List.mem_cons, List.not_mem_nil, or_false] at hk
    rcases hk with rfl | rfl | rfl <;> exact ⟨⟨rfl, rfl, rfl, rfl⟩, rfl⟩
  exact .mapping hkind hmapping (fun s hs => (hholds s hs).ordinary) rfl rfl

theorem view {id : Nat} {source : Value}
    (hv : ∀ s, I s → s.heap.IsOrdinary .view (.view id source)) :
    (Value.view id source).IsContainerOf I .view .mapping :=
  .mapping ⟨rfl, rfl, rfl, rfl⟩ rfl hv rfl rfl

theorem foreign {place : Nat} {m : Foreign} (hholds : ∀ s, I s → s.heap.HoldsForeign place m) :
    (Value.ref place).IsContainerOf I .foreign .mapping :=
  .mapping ⟨rfl, rfl, rfl, rfl⟩ rfl (fun s hs => (hholds s hs).ordinary) rfl rfl

end Value.IsContainerOf

/-! ## Going through what is inside -/

namespace Run

variable {c : Conduct} {I : Session → Prop} {s : Session} {S : Value → Prop} {v : Value} {k : Kind}
  {place : Nat}

/-- The members of a set are yielded one after the other. -/
theorem iterates_set {ms : List (Key Value)}
    (hcontents : ∀ s, I s → s.heap.contents? (.ref place) = some (.set ms))
    (hms : ∀ m ∈ ms, m.value.isIdentified = true) :
    Iterates c I Eq (ms.map (·.value)) (.members (.ref place) 0 ms.length) ∧
      HasRoom I (ms.map (·.value)).length (.members (.ref place) 0 ms.length) := by
  have hcontained : ∀ s, I s → s.heap.contained? (.ref place) = some (ms.map (·.value)) :=
    fun s hs => by simp only [Heap.contained?, hcontents s hs]
  refine ⟨iterates_places (fun i => .members (.ref place) i ms.length) (fun i v hi s hs => ?_)
    fun s hs => ?_, fun s hs => ?_⟩
  · have hv : v.isIdentified = true := by
      obtain ⟨m, hm, rfl⟩ := List.mem_map.mp (List.mem_of_getElem? hi)
      exact hms m hm
    refine .of_exec_self hs (a := some (v, .members (.ref place) (i + 1) ms.length)) ?_ ⟨v, rfl, rfl⟩
    simp only [next, maxChain, nextUpTo, nextElement, exec_bind, exec_heap, Ending.andThen_ok,
      hcontained s hs, Option.getD_some, List.length_map, bne_self_eq_false, Bool.false_eq_true,
      if_false, hi, exec_pure]
    change exec c (identified v >>= _) s = _
    rw [exec_bind, exec_identified_of_isIdentified c hv]
    rfl
  · have hend : (ms.map (·.value))[ms.length]? = none := by simp
    rw [List.length_map]
    refine .of_exec_self hs (a := none) ?_ rfl
    simp only [next, maxChain, nextUpTo, nextElement, exec_bind, exec_heap, Ending.andThen_ok,
      hcontained s hs, Option.getD_some, List.length_map, bne_self_eq_false, Bool.false_eq_true,
      if_false, hend]
    rfl
  · simp only [Cursor.remaining, Heap.count, hcontents s hs, hcontained s hs,
      Option.getD_some]
    exact Nat.lt_add_of_pos_right (by decide)

end Run

/-- A value yields the given values one after the other. -/
def Value.GoesThrough (c : Conduct) (I : Session → Prop) (vs : List Value) (v : Value) : Prop :=
  ∃ cur, (∀ s, I s → exec c (cursor v) s = .ok cur s) ∧
    Run.Iterates c I Eq vs cur ∧ HasRoom I vs.length cur

section GoesThrough

variable {c : Conduct} {I : Session → Prop} {k : Kind} {place : Nat}

theorem Run.exec_cursor_of_native {s : Session} {v : Value} {m : Kind} (hv : s.heap.IsOrdinary k v)
    (hm : Heap.start.classSlot? .iteration (.kind k) = some (.native m))
    (hview : ∀ id source, v ≠ .view id source) :
    exec c (cursor v) s = exec c (nativeCursor m v) s := by
  have hslot : s.heap.slot? .iteration v = some (.native m) := (hv.slot? _).trans hm
  cases v with
  | view id source => exact absurd rfl (hview id source)
  | _ => simp only [cursor, cursorOr, exec_bind, exec_heap, Ending.andThen_ok, hslot]

theorem Value.ref_ne_view (place id : Nat) (source : Value) :
    Value.ref place ≠ .view id source := by
  intro h
  cases h

theorem Value.goesThrough_tuple {cls : Class} {id : Nat} {vs : List Value}
    (hk : k ∈ [.tuple, .derivedTuple]) (hv : ∀ s, I s → s.heap.IsOrdinary k (.tuple cls id vs))
    (hvs : ∀ v ∈ vs, v.isIdentified = true) : (Value.tuple cls id vs).GoesThrough c I vs := by
  have hiteration : Heap.start.classSlot? .iteration (.kind k) = some (.native .tuple) := by
    simp only [List.mem_cons, List.not_mem_nil, or_false] at hk
    rcases hk with rfl | rfl <;> rfl
  exact ⟨.rest vs, fun s hs => exec_cursor_of_native (hv s hs) hiteration nofun,
    iterates_rest hvs, hasRoom_rest vs⟩

theorem Value.goesThrough_list {vs : List Value} (hk : k ∈ [.list, .derivedList])
    (hv : ∀ s, I s → s.heap.IsOrdinary k (.ref place))
    (hcontents : ∀ s, I s → s.heap.contents? (.ref place) = some (.list vs))
    (hvs : ∀ v ∈ vs, v.isIdentified = true) : (Value.ref place).GoesThrough c I vs := by
  have hiteration : Heap.start.classSlot? .iteration (.kind k) = some (.native .list) := by
    simp only [List.mem_cons, List.not_mem_nil, or_false] at hk
    rcases hk with rfl | rfl <;> rfl
  exact ⟨.elements (.ref place) 0,
    fun s hs => exec_cursor_of_native (hv s hs) hiteration (ref_ne_view place),
    iterates_list hcontents hvs⟩

theorem Value.goesThrough_set {ms : List (Key Value)}
    (hv : ∀ s, I s → s.heap.IsOrdinary .set (.ref place))
    (hcontents : ∀ s, I s → s.heap.contents? (.ref place) = some (.set ms))
    (hms : ∀ m ∈ ms, m.value.isIdentified = true) :
    (Value.ref place).GoesThrough c I (ms.map (·.value)) := by
  refine ⟨.members (.ref place) 0 ms.length, fun s hs => ?_, iterates_set hcontents hms⟩
  have hcount : s.heap.count (.ref place) = ms.length := by
    simp only [Heap.count, Heap.contained?, hcontents s hs, Option.getD_some, List.length_map]
  rw [exec_cursor_of_native (hv s hs) rfl (ref_ne_view place), ← hcount]
  rfl

theorem Value.goesThrough_frozenSet {cls : Class} {id : Nat} {ms : List (Key Value)}
    (hv : ∀ s, I s → s.heap.IsOrdinary .frozenSet (.frozenSet cls id ms))
    (hms : ∀ m ∈ ms, m.value.isIdentified = true) :
    (Value.frozenSet cls id ms).GoesThrough c I (ms.map (·.value)) :=
  ⟨.rest (ms.map (·.value)), fun s hs => exec_cursor_of_native (hv s hs) rfl nofun,
    iterates_rest (List.forall_mem_map.mpr hms), hasRoom_rest _⟩

end GoesThrough

/-! ## Collections that show a part of a mapping -/

/-- A collection that shows a part of a mapping, wherever an invariant holds. -/
structure Heap.HoldsListing (h : Heap) (part : Part) (ordered : Bool) (place source : Nat)
    (es : List Entry) : Prop where
  /-- It belongs to its class. -/
  ordinary : h.IsOrdinary (.listing part ordered) (.ref place)
  /-- It shows a part of this mapping. -/
  contents : h.contents? (.ref place) = some (.listing part (.ref source))
  /-- The mapping has these entries. -/
  entries : h.contents? (.ref source) = some (.dict es)

/-! ## Reading entries -/

namespace Run

variable {c : Conduct} {I : Session → Prop} {s : Session} {S : Value → Prop} {v : Value} {k : Kind}
  {place : Nat} {es : List Entry}

theorem exec_cursor_listing {part : Part} {ordered : Bool} {source : Nat}
    (hholds : s.heap.HoldsListing part ordered place source es) :
    exec c (cursor (.ref place)) s =
      .ok (.entries part ordered (.ref source) 0 es.length false) s := by
  have hiteration : Heap.start.classSlot? .iteration (.kind (.listing part ordered)) =
      some (.native (.listing part ordered)) := by
    cases part <;> cases ordered <;> rfl
  rw [exec_cursor_of_native hholds.ordinary hiteration nofun]
  simp only [nativeCursor, exec_bind, exec_heap, Ending.andThen_ok, hholds.contents,
    count_of_entries hholds.entries]
  rfl

theorem exec_listing_entries (hk : k ∈ [.dict, .derivedDict, .orderedDict])
    (hholds : s.heap.HoldsEntries k place es) :
    exec c (listing .items (.ref place)) s =
      .ok (.parts (.entries .items (k == .orderedDict) (.ref place) 0 es.length false) none) s := by
  obtain ⟨hreading, hmissing, owner, hin, hordered⟩ :
      Heap.start.classSlot? .readAttribute (.kind k) = none ∧
      Heap.start.classSlot? .missingAttribute (.kind k) = none ∧
      ∃ owner, Heap.start.inherited? (.kind k) Part.items.method.name = some (.native owner) ∧
        (owner = .dict ∧ (k == .orderedDict) = false ∨
          owner = .orderedDict ∧ (k == .orderedDict) = true) := by
    simp only [List.mem_cons, List.not_mem_nil, or_false] at hk
    rcases hk with rfl | rfl | rfl
    · exact ⟨rfl, rfl, .dict, rfl, .inl ⟨rfl, rfl⟩⟩
    · exact ⟨rfl, rfl, .dict, rfl, .inl ⟨rfl, rfl⟩⟩
    · exact ⟨rfl, rfl, .orderedDict, rfl, .inr ⟨rfl, rfl⟩⟩
  rw [exec_listing_of_inherited c hholds.ordinary hreading hmissing .items hholds.bare hin,
    ← count_of_entries hholds.contents]
  rcases hordered with ⟨rfl, hordered⟩ | ⟨rfl, hordered⟩ <;>
  · rw [hordered]
    rfl

/-- The entries of a mapping are read as pairs. -/
theorem settles_readParts_entries (hI : Session.Steadfast I)
    (hk : k ∈ [.dict, .derivedDict, .orderedDict])
    (hholds : ∀ s, I s → s.heap.HoldsEntries k place es)
    (hv : v = .ref place ∨ ∃ id, v = .view id (.ref place)) (hs : I s) :
    Settles c I s (readParts .items v) fun pairs _ => List.Forall₂ (YieldsEntry .items) es pairs := by
  have hlisting : exec c (listing .items v) s =
      .ok (.parts (.entries .items (k == .orderedDict) (.ref place) 0 es.length false) none) s := by
    rcases hv with rfl | ⟨id, rfl⟩
    · exact exec_listing_entries hk (hholds s hs)
    · rw [listing]
      exact exec_listing_entries hk (hholds s hs)
  have hentries : ∀ s, I s → s.heap.entries? (.ref place) = some es := fun s hs => by
    simp only [Heap.entries?, (hholds s hs).contents]
  have hcur := iterates_parts (c := c) hI .items (k == .orderedDict) hentries fun _ _ => trivial
  have hroom := hasRoom_parts .items (k == .orderedDict) 0 fun s hs => (hholds s hs).contents
  exact settles_readParts hlisting hcur hroom hs

end Run

end ValueShape
