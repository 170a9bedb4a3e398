import ValueShape.Proofs.Outline.Depict
import ValueShape.Proofs.Outline.Display

/-!
# What the built-in classes display

* `Value.Reveals c I v a` says that the value `v` reveals the aspect `a` of itself, wherever the
  invariant `I` holds: a container of a built-in class reveals what it holds, and everything else
  reveals a text.
* `Value.Reveals.displays` reduces this to `Value.Displays`.
* `Scene.staged_of_reveals` says that the values of a heap with such containers are on the stage.
* `Session.Stocked` is the invariant of the sessions that began with given cells.
-/

set_option autoImplicit false

namespace ValueShape

open Run

/-- What a value reveals of itself, wherever an invariant holds. -/
inductive Value.Reveals (c : Conduct) (I : Session → Prop) : Value → Aspect → Prop
  /-- A value without parts reveals a text. -/
  | leaf {v : Value} {a : Appearance} {text : List Char} (ha : a ≠ .container)
      (happearance : ∀ s, I s → exec c (appearance v) s = .ok a s)
      (hleaf : ∀ s, I s → Settles c I s (leafOf v a) fun w _ => w.Reads c I text) :
      Reveals c I v (.leaf text)
  /-- A tuple reveals its items. -/
  | tuple {cls : Class} {id : Nat} {vs : List Value} {k : Kind} (hk : k ∈ [.tuple, .derivedTuple])
      (hv : ∀ s, I s → s.heap.IsOrdinary k (.tuple cls id vs)) :
      Reveals c I (.tuple cls id vs) (.tuple (vs.map .value))
  /-- A list reveals its items. -/
  | list {place : Nat} {vs : List Value} {k : Kind} (hk : k ∈ [.list, .derivedList])
      (hv : ∀ s, I s → s.heap.IsOrdinary k (.ref place))
      (hcontents : ∀ s, I s → s.heap.contents? (.ref place) = some (.list vs)) :
      Reveals c I (.ref place) (.list (vs.map .value))
  /-- A set reveals its members. -/
  | set {place : Nat} {ms : List (Key Value)} (hv : ∀ s, I s → s.heap.IsOrdinary .set (.ref place))
      (hcontents : ∀ s, I s → s.heap.contents? (.ref place) = some (.set ms)) :
      Reveals c I (.ref place) (.set Kind.set.name.toList (ms.map (.value ·.value)))
  /-- An immutable set reveals its members. -/
  | frozenSet {cls : Class} {id : Nat} {ms : List (Key Value)}
      (hv : ∀ s, I s → s.heap.IsOrdinary .frozenSet (.frozenSet cls id ms)) :
      Reveals c I (.frozenSet cls id ms) (.set Kind.frozenSet.name.toList (ms.map (.value ·.value)))
  /-- The collection of the keys of a mapping reveals them. -/
  | keys {place source : Nat} {ordered : Bool} {es : List Entry}
      (hholds : ∀ s, I s → s.heap.HoldsListing .keys ordered place source es) :
      Reveals c I (.ref place)
        (.set (Kind.listing .keys ordered).name.toList (es.map (.value ·.1.value)))
  /-- The collection of the entries of a mapping reveals pairs, which it makes anew. -/
  | items {place source : Nat} {ordered : Bool} {es : List Entry}
      (hholds : ∀ s, I s → s.heap.HoldsListing .items ordered place source es) :
      Reveals c I (.ref place)
        (.set (Kind.listing .items ordered).name.toList (es.map fun e => .pair e.1.value e.2))
  /-- A mapping reveals its entries. -/
  | dict {place : Nat} {es : List Entry} {k : Kind} (hk : k ∈ [.dict, .derivedDict, .orderedDict])
      (hholds : ∀ s, I s → s.heap.HoldsEntries k place es) :
      Reveals c I (.ref place) (.mapping (es.map fun e => (e.1.value, e.2)))
  /-- A read-only mapping reveals the entries of the mapping that it shows. -/
  | view {id place : Nat} {es : List Entry} {k : Kind} (hk : k ∈ [.dict, .derivedDict, .orderedDict])
      (hv : ∀ s, I s → s.heap.IsOrdinary .view (.view id (.ref place)))
      (hholds : ∀ s, I s → s.heap.HoldsEntries k place es) :
      Reveals c I (.view id (.ref place)) (.mapping (es.map fun e => (e.1.value, e.2)))
  /-- A mapping of the caller's own making reveals its entries. -/
  | foreign {place : Nat} {m : Foreign} (hholds : ∀ s, I s → s.heap.HoldsForeign place m)
      (hreadable : Access.items ∉ m.failing) : Reveals c I (.ref place) (.mapping m.entries)
  /-- Such a mapping reveals the name of its class if it fails in an ordinary way. -/
  | sealed {place : Nat} {m : Foreign} (hholds : ∀ s, I s → s.heap.HoldsForeign place m)
      (hfails : Access.items ∈ m.failing) (hfailure : m.failure.isOrdinary = true) :
      Reveals c I (.ref place) (.sealed Kind.foreign.name.toList)

/-! ## Going through containers

An iteration is described by what it yields for each node, so that the values of a scene can be put
in. -/

section Yields

variable {c : Conduct} {I : Session → Prop} {v : Value}

/-- What is there already is yielded as itself. -/
theorem Run.Iterates.supplies {vs : List Value} {cur : Cursor} (h : Iterates c I Eq vs cur) (n : Nat) :
    Supplies c (Session.Since I n) (Node.Stands n) (vs.map .value) cur := by
  induction vs generalizing cur with
  | nil => exact fun s hs => (h s hs.1).since hs.2
  | cons v vs ih =>
    intro s hs
    refine ((h s hs.1).since hs.2).mono fun r s' _ _ hr => ?_
    obtain ⟨w, cur', rfl, hw, hcur'⟩ := hr
    exact ⟨w, cur', rfl, hw.symm, ih hcur'⟩

theorem Value.GoesThrough.yields {vs : List Value} (h : v.GoesThrough c I vs) :
    v.Yields c I (vs.map .value) := by
  obtain ⟨cur, hcur, hiterates, hroom⟩ := h
  refine fun s hs => ⟨cur, hcur s hs, hiterates.supplies _, fun s' hs' => ?_⟩
  rw [List.length_map]
  exact hroom s' hs'.1

theorem Value.GoesThrough.yields_map {β : Type} {f : β → Value} {bs : List β}
    (h : v.GoesThrough c I (bs.map f)) : v.Yields c I (bs.map fun b => .value (f b)) := by
  have hyields := h.yields
  rwa [List.map_map] at hyields

variable {place source : Nat} {ordered : Bool} {es : List Entry}

theorem Value.goesThrough_keys (hI : Session.Steadfast I)
    (hholds : ∀ s, I s → s.heap.HoldsListing .keys ordered place source es)
    (hes : ∀ e ∈ es, e.1.value.isIdentified = true) :
    (Value.ref place).GoesThrough c I (es.map (·.1.value)) := by
  have hentries : ∀ s, I s → s.heap.entries? (.ref source) = some es := fun s hs => by
    rw [Heap.entries?, (hholds s hs).entries]
  have hiterates := iterates_parts (c := c) hI .keys ordered hentries hes
  refine ⟨_, fun s hs => exec_cursor_listing (hholds s hs), ?_, ?_⟩
  · exact iterates_map.mpr (hiterates.mono fun _ _ _ hw => hw.symm)
  · rw [List.length_map]
    exact hasRoom_parts .keys ordered 0 fun s hs => (hholds s hs).entries

/-- The pairs of a collection of entries are made one after the other. -/
theorem Value.yields_items (hI : Session.Steadfast I)
    (hholds : ∀ s, I s → s.heap.HoldsListing .items ordered place source es) :
    (Value.ref place).Yields c I (es.map fun e => .pair e.1.value e.2) := by
  refine fun s hs => ⟨_, exec_cursor_listing (hholds s hs), ?_, fun s' hs' => ?_⟩
  · have hlength : es.length = (es.map fun e => Node.pair e.1.value e.2).length := by
      rw [List.length_map]
    rw [hlength]
    refine supplies_places (fun i => .entries .items ordered (.ref source) i _ false)
      (fun i q hq s' hs' => ?_) fun s' hs' => ?_
    all_goals
      have hentries : s'.heap.entries? (.ref source) = some es := by
        rw [Heap.entries?, (hholds s' hs'.1).entries]
      rw [List.length_map]
    · rw [List.getElem?_map, Option.map_eq_some_iff] at hq
      obtain ⟨e, he, rfl⟩ := hq
      have hpair : exec c (partOf .items e.1.value e.2) s' =
          .ok (.tuple (.kind .tuple) s'.heap.next [e.1.value, e.2])
            (s'.withNext (s'.heap.next + 1)) := rfl
      exact (Settles.of_exec hI hs'.1 (exec_next_of_partOf hentries ordered he hpair rfl)
        (.withNext (Nat.le_succ _))
        ⟨_, rfl, s'.heap.next, hs'.2, Nat.lt_succ_self _, rfl⟩).since hs'.2
    · exact .of_exec_self hs' (exec_next_part_end hentries .items ordered) rfl
  · rw [List.length_map]
    exact hasRoom_parts .items ordered 0 (fun s hs => (hholds s hs).entries) s' hs'.1

end Yields

/-! ## Reduction to what is displayed -/

namespace Value

variable {c : Conduct} {I : Session → Prop} {v : Value} {k : Kind} {shape : Container}

section Displays

/-- A list or a tuple of a built-in class displays its items. -/
theorem displays_sequence (hv : v.IsContainerOf I k shape) (hshape : shape = .list ∨ shape = .tuple)
    {isTuple : Bool} (htuple : Heap.start.hasKind (.kind k) .tuple = isTuple) {vs : List Value}
    (hvs : v.GoesThrough c I vs) :
    v.Displays c I (if isTuple then .tuple (vs.map .value) else .list (vs.map .value)) := by
  refine .sequence hshape (fun s hs => (hv.exec_appearance hs).1)
    (fun s hs => (hv.exec_appearance hs).2) (fun s hs => ?_) hvs.yields
  rw [exec_isOfKind c (hv.readsAttributes hs), (hv.ordinary hs).isOfKind, htuple]

/-- A set of a built-in class displays its members. -/
theorem displays_set (hv : v.IsContainerOf I k .set) {nodes : List Node}
    (hnodes : v.Yields c I nodes) : v.Displays c I (.set k.name.toList nodes) := by
  refine .set (fun s hs => (hv.exec_appearance hs).1) (fun s hs => (hv.exec_appearance hs).2)
    (fun s hs => ?_) (fun s hs => ?_) hnodes
  · rw [hv.kind.typeName (hv.ordinary hs), String.ofList_toList]
  · rw [String.ofList_toList]
    exact hv.settles_shownClass hs

variable (hI : Session.Steadfast I)
include hI

/-- A mapping of a built-in class displays its entries. -/
theorem displays_mapping (hv : v.IsContainerOf I k .mapping) {entries : List (Value × Value)}
    (hread : ∀ s, I s → Settles c I s (readParts .items v) fun pairs _ =>
      List.Forall₂ (fun e pair => ∃ id, pair = Value.tuple (.kind .tuple) id [e.1, e.2]) entries pairs)
    (hentries : ∀ e ∈ entries, e.1.isIdentified = true ∧ e.2.isIdentified = true) :
    v.Displays c I (.mapping entries) := by
  refine .mapping (fun s hs => (hv.exec_appearance hs).1) (fun s hs => (hv.exec_appearance hs).2)
    fun s hs => (settles_recovering (hread s hs) _).mono fun pairs? _ _ _ hpairs => ?_
  obtain ⟨pairs, rfl, hpairs⟩ := hpairs
  refine ⟨pairs, rfl, ?_⟩
  clear hread
  induction hpairs with
  | nil => exact .nil
  | @cons e pair entries pairs hpair _ ih =>
    obtain ⟨⟨hkey, hvalue⟩, hentries⟩ := List.forall_mem_cons.mp hentries
    obtain ⟨id, rfl⟩ := hpair
    refine .cons (fun s' hs' => ?_) (ih hentries)
    exact .of_exec_self hs' (exec_unpackTwo c (hI.sound hs').intact id hkey hvalue) rfl

theorem displays_sealed (hv : v.IsContainerOf I k .mapping)
    (hread : ∀ s, I s → exec c (guarded (readParts .items v)) s = .ok none s) :
    v.Displays c I (.sealed k.name.toList) := by
  refine .sealed (fun s hs => (hv.exec_appearance hs).1) (fun s hs => (hv.exec_appearance hs).2)
    (fun s hs => .of_exec_self hs (hread s hs) rfl) fun s hs => ?_
  refine (hv.settles_typeNameValue hI hs).mono fun w _ _ _ hw => ?_
  obtain ⟨id, rfl⟩ := hw
  exact reads_text c I id _

end Displays

/-- A value of a built-in class without parts reveals its written form. -/
theorem Reveals.plain (host : Host) (n : Nat) (hI : Session.Steadfast I) (hk : k ∈ Kind.plainKinds)
    (hv : ∀ s, I s → s.heap.IsOrdinary k v) (hplain : v.isPlain = true) {text : List Char}
    (hform : v.writePlain = .ok text) : v.Reveals (Ask.conduct host (n + 1)) I (.leaf text) := by
  refine .leaf (a := .primitive) (by decide) (fun s hs => exec_appearance_plain hk (hv s hs) hplain)
    fun s hs => ?_
  refine (settles_write_plain host n hI hs hk (hv s hs) hplain hform).mono fun w _ _ _ hw => ?_
  obtain ⟨id, rfl⟩ := hw
  have hreads := reads_text (Ask.conduct host (n + 1)) I id (String.ofList text)
  rwa [String.toList_ofList] at hreads

/-- **What a value reveals is what it displays.** -/
theorem Reveals.displays (hI : Session.Steadfast I) {a : Aspect} (hv : v.Reveals c I a)
    (hnodes : ∀ q ∈ a.nodes, q.Within (·.isIdentified = true)) : v.Displays c I a := by
  cases hv with
  | leaf ha happearance hleaf => exact .leaf ha happearance hleaf
  | @tuple cls id vs k hk hv =>
    have htuple : Heap.start.hasKind (.kind k) .tuple = true := by
      simp only [List.mem_cons, List.not_mem_nil, or_false] at hk
      rcases hk with rfl | rfl <;> rfl
    exact displays_sequence (.tuple hk hv) (.inr rfl) htuple
      (goesThrough_tuple hk hv (List.forall_mem_map.mp hnodes))
  | @list place vs k hk hv hcontents =>
    have htuple : Heap.start.hasKind (.kind k) .tuple = false := by
      simp only [List.mem_cons, List.not_mem_nil, or_false] at hk
      rcases hk with rfl | rfl <;> rfl
    exact displays_sequence (.list hk hv hcontents) (.inl rfl) htuple
      (goesThrough_list hk hv hcontents (List.forall_mem_map.mp hnodes))
  | set hv hcontents =>
    have hms := goesThrough_set (c := c) hv hcontents (List.forall_mem_map.mp hnodes)
    exact displays_set (.set (by decide) hv rfl rfl) hms.yields_map
  | frozenSet hv =>
    have hms := goesThrough_frozenSet (c := c) hv (List.forall_mem_map.mp hnodes)
    exact displays_set (.set (by decide) hv rfl rfl) hms.yields_map
  | @keys place source ordered es hholds =>
    have hplace : (Value.ref place).IsContainerOf I (.listing .keys ordered) .set :=
      .listing nofun fun s hs => (hholds s hs).ordinary
    have hes := goesThrough_keys (c := c) hI hholds (List.forall_mem_map.mp hnodes)
    exact displays_set hplace hes.yields_map
  | @items place source ordered es hholds =>
    have hplace : (Value.ref place).IsContainerOf I (.listing .items ordered) .set :=
      .listing nofun fun s hs => (hholds s hs).ordinary
    exact displays_set hplace (yields_items hI hholds)
  | dict hk hholds =>
    refine displays_mapping hI (.dict hk hholds) (fun s hs => ?_)
      (Aspect.forall_mem_nodes_mapping.mp hnodes)
    exact (settles_readParts_entries hI hk hholds (.inl rfl) hs).mono
      fun _ _ _ _ h => List.forall₂_map_left_iff.mpr h
  | view hk hv hholds =>
    refine displays_mapping hI (.view hv) (fun s hs => ?_)
      (Aspect.forall_mem_nodes_mapping.mp hnodes)
    exact (settles_readParts_entries hI hk hholds (.inr ⟨_, rfl⟩) hs).mono
      fun _ _ _ _ h => List.forall₂_map_left_iff.mpr h
  | foreign hholds hreadable =>
    exact displays_mapping hI (.foreign hholds)
      (fun s hs => settles_readParts_foreign hI (hholds s hs) hreadable (fun _ _ => trivial) hs)
      (Aspect.forall_mem_nodes_mapping.mp hnodes)
  | sealed hholds hfails hfailure =>
    exact displays_sealed hI (.foreign hholds)
      fun s hs => exec_guarded_refused (hholds s hs) hfails hfailure

end Value

/-- **The values of a heap are on the stage**, if each of them reveals what a scene tells of it. -/
theorem Scene.staged_of_reveals {σ : Scene} {c : Conduct} {I : Session → Prop} {S : Value → Prop}
    {n : Nat} (hI : Session.Steadfast I) (hS : σ.IsClosed S) (hid : ∀ v, S v → v.isIdentified = true)
    (hreveals : ∀ v, S v → v.Reveals c I (σ v)) (holder : ∀ v, S v → v.IsOlder n) :
    σ.Staged c I S n where
  closed := hS
  displays v hv := (hreveals v hv).displays hI fun q hq => (hS v hv q hq).mono hid
  pairs v hv k w hpair id := by
    obtain ⟨hk, hw⟩ := hS v hv _ hpair
    have hreveals : (Value.tuple (.kind .tuple) id [k, w]).Reveals c I
        (.tuple [.value k, .value w]) :=
      .tuple (k := .tuple) (by decide) fun s hs => (hI.sound hs).intact.isOrdinary rfl
    refine hreveals.displays hI (List.forall_mem_cons.mpr ⟨hid k hk, ?_⟩)
    exact List.forall_mem_singleton.mpr (hid w hw)
  older := holder

/-! ## Sessions in which cells stay as they were made -/

namespace Session

/-- Nothing was assigned to anything, and the first cells are the given ones. -/
def Stocked (cells : List Cell) : Session → Prop := Holding Untouched (cells.mapIdx Prod.mk)

theorem lasting_stocked (cells : List Cell) : Lasting (Stocked cells) :=
  enduring_untouched.toLasting.holding _

theorem stocked_ofCells {cells : List Cell} (h : cells ≠ []) : Stocked cells (.ofCells cells) := by
  refine ⟨⟨rfl, rfl, rfl, List.length_pos_iff.mpr h, fun _ hr => absurd hr List.not_mem_nil⟩, ?_⟩
  intro d hd
  obtain ⟨i, hi, rfl⟩ := List.mem_mapIdx.mp hd
  exact (List.getElem?_toArray ..).trans (List.getElem?_eq_getElem hi)

namespace Stocked

variable {cells : List Cell} {s : Session} {place : Nat} {contents : Contents} (hs : Stocked cells s)
include hs

omit hs in
theorem mem_mapIdx {cell : Cell} (h : cells[place]? = some cell) :
    (place, cell) ∈ cells.mapIdx Prod.mk := by
  obtain ⟨hlt, rfl⟩ := List.getElem?_eq_some_iff.mp h
  exact List.mem_mapIdx.mpr ⟨place, hlt, rfl⟩

theorem isOrdinary {k : Kind} (h : cells[place]? = some ⟨.kind k, contents⟩) :
    s.heap.IsOrdinary k (.ref place) := Holding.isOrdinary hs (mem_mapIdx h)

theorem contents? {cls : Class} (h : cells[place]? = some ⟨cls, contents⟩) :
    s.heap.contents? (.ref place) = some contents := Holding.contents? hs (mem_mapIdx h)

theorem holdsEntries {es : List Entry} (h : cells[place]? = some ⟨.kind .dict, .dict es⟩) :
    s.heap.HoldsEntries .dict place es := ⟨hs.contents? h, hs.isOrdinary h, hs.1.bare (fun _ => rfl) _⟩

theorem holdsListing {part : Part} {ordered : Bool} {source : Nat} {k : Kind} {es : List Entry}
    (h : cells[place]? = some ⟨.kind (.listing part ordered), .listing part (.ref source)⟩)
    (hsource : cells[source]? = some ⟨.kind k, .dict es⟩) :
    s.heap.HoldsListing part ordered place source es :=
  ⟨hs.isOrdinary h, hs.contents? h, hs.contents? hsource⟩

omit hs in
/-- A text of the built-in class reveals its written form. -/
theorem reveals_text (cells : List Cell) (host : Host) (n id : Nat) (text : String) :
    (Value.scalar (.kind .text) id (.text text)).Reveals (Ask.conduct host (n + 1)) (Stocked cells)
      (.leaf (quote text.toList)) :=
  .plain (k := .text) host n (lasting_stocked cells) (by decide) (fun _ hs => hs.1.isOrdinary rfl)
    rfl rfl

end Stocked

end Session

end ValueShape
