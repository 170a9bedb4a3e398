import ValueShape.Proofs.Store.Intact

/-!
# Heaps in the course of time

What becomes of a heap while the library works, and while the caller does.

* `Heap.Guarded` says that the classes of the library are intact, and that the mappings which
  attributes are kept in belong to objects, not to classes.
* `Heap.Seals h p es` says that the cell `p` is an ordinary mapping with the entries `es` in which no
  attributes are kept.
* `Heap.Evolves kept h h'` relates a guarded heap to a later one: identities are not handed out
  again, callables stay callable, iterators stay iterators, and the sealed mappings at the places
  `kept` stay as they are.
* All that the library itself does to a heap is of this kind: it hands out identities
  (`Heap.Guarded.evolves_withNext`), makes values (`Heap.Guarded.evolves_alloc`), moves iterators on
  (`Heap.Guarded.evolves_iterator`), assigns attributes (`Heap.Guarded.evolves_assign`) and moves them into
  a mapping (`Heap.Guarded.evolves_namespace`).
-/

set_option autoImplicit false

namespace ValueShape

/-! ## Classes among the values -/

theorem Value.identical_ofClass {v : Value} {c : Class} (h : v.identical (.ofClass c) = true) :
    v = .ofClass c := by
  cases v with
  | ofClass c' =>
    have heq : c' = c := by simpa [identical] using h
    rw [heq]
  | generic id starred origin parameter => cases starred <;> simp [identical] at h
  | _ => simp [identical] at h

theorem Value.ofClass_identical {v : Value} {c : Class} (h : (ofClass c).identical v = true) :
    v = .ofClass c := by
  cases v with
  | ofClass c' =>
    have heq : c = c' := by simpa [identical] using h
    rw [heq]
  | _ => simp [identical] at h

/-- A member of a class matters: values are called by it, or it belongs to a class of the library. -/
def Class.Relies (c : Class) (name : String) : Prop :=
  name = Method.call.name ∨ ∃ k : Kind, c = .kind k ∧ k.isCore = true ∧ name ≠ annotationsAttribute

namespace Heap

/-! ## Guarded heaps

The attributes of an object may be kept in a mapping that can be written to like any other one.  So
these mappings must not belong to classes, and must not be those that the library relies on. -/

/-- The classes of the library are intact, and the mappings that attributes are kept in are mappings
which belong to objects. -/
structure Guarded (h : Heap) : Prop extends h.Intact where
  /-- No class keeps its attributes in a mapping. -/
  owners : ∀ n ∈ h.namespaces, n.1.isClass = false
  /-- What attributes are kept in is a mapping. -/
  mappings : ∀ n ∈ h.namespaces, (h.entries? n.2).isSome = true

theorem start_guarded : start.Guarded where
  toIntact := start_intact
  owners _ hn := absurd hn List.not_mem_nil
  mappings _ hn := absurd hn List.not_mem_nil

/-- A cell is an ordinary mapping in which no attributes are kept. -/
structure Seals (h : Heap) (place : Nat) (es : List Entry) : Prop where
  /-- The cell is an ordinary mapping with these entries. -/
  cell : h.cells[place]? = some ⟨.kind .dict, .dict es⟩
  /-- No attributes are kept in it. -/
  bare : ∀ n ∈ h.namespaces, n.2 ≠ .ref place

theorem Seals.unique {h : Heap} {place : Nat} {es es' : List Entry} (hes : h.Seals place es)
    (hes' : h.Seals place es') : es = es' := by
  have heq := hes.cell.symm.trans hes'.cell
  simpa using heq

/-- A guarded heap may become another one, where nobody writes to the mappings at certain places. -/
structure Evolves (kept : Nat → Prop) (h h' : Heap) : Prop where
  /-- It stays guarded. -/
  guarded : h'.Guarded
  /-- Identities are not handed out again. -/
  next : h.next ≤ h'.next
  /-- What can be called can still be called. -/
  callable (v : Value) (hv : h.isCallable v = true) : h'.isCallable v = true
  /-- An iterator stays one. -/
  iterator (v : Value) (c : Cursor) (hv : h.contents? v = some (.iterator c)) :
    ∃ c', h'.contents? v = some (.iterator c')
  /-- The mappings at the places stay as they are. -/
  seals (place : Nat) (es : List Entry) (hplace : kept place) (hes : h.Seals place es) :
    h'.Seals place es

namespace Evolves

variable {kept : Nat → Prop} {h h' h'' : Heap}

theorem refl (hg : h.Guarded) : Evolves kept h h :=
  ⟨hg, Nat.le_refl _, fun _ hv => hv, fun _ c hv => ⟨c, hv⟩, fun _ _ _ hes => hes⟩

theorem trans (hh : Evolves kept h h') (hh' : Evolves kept h' h'') : Evolves kept h h'' where
  guarded := hh'.guarded
  next := Nat.le_trans hh.next hh'.next
  callable v hv := hh'.callable v (hh.callable v hv)
  iterator v c hv := by
    obtain ⟨c', hv'⟩ := hh.iterator v c hv
    exact hh'.iterator v c' hv'
  seals place es hplace hes := hh'.seals place es hplace (hh.seals place es hplace hes)

end Evolves

/-! ## Classes that stay -/

/-- Values are of the classes that they were of, and the members of classes that matter are the
same. -/
structure SameClasses (h h' : Heap) : Prop where
  /-- The declarations are the same. -/
  declarations : h'.declarations = h.declarations
  /-- No class was assigned to a value. -/
  classes : h'.classes = h.classes
  /-- Cells have kept their classes. -/
  cells (place : Nat) (cell : Cell) (hcell : h.cells[place]? = some cell) :
    (h'.cells[place]?).map (·.cls) = some cell.cls
  /-- The members that matter are the same. -/
  members (c : Class) (name : String) (hname : c.Relies name) :
    h'.assigned? (.ofClass c) name = h.assigned? (.ofClass c) name

namespace SameClasses

variable {h h' : Heap} (hh : SameClasses h h')
include hh

theorem lineage (c : Class) : h'.lineage c = h.lineage c := by
  cases c <;> simp only [Heap.lineage, hh.declarations]

theorem intact (hi : h.Intact) : h'.Intact where
  members k hk name hname :=
    (hh.members _ name (.inr ⟨k, rfl, hk, hname⟩)).trans (hi.members k hk name hname)
  classes e he := hi.classes e (hh.classes ▸ he)

theorem classSlot?_call (c : Class) : h'.classSlot? .call c = h.classSlot? .call c := by
  have hown : h'.ownSlot? .call = h.ownSlot? .call := funext fun c => by
    simp only [ownSlot?, hh.members c _ (.inl rfl)]
  rw [classSlot?, classSlot?, hown, hh.lineage]

theorem classOfClass (c : Class) : h'.classOfClass c = h.classOfClass c := by
  unfold Heap.classOfClass Heap.kinds
  rw [hh.lineage]

/-- A value that is there already is of the class that it was made with. -/
theorem initialClass {v : Value} (hv : ∀ place, v = .ref place → h.cells[place]? ≠ none) :
    h'.initialClass v = h.initialClass v := by
  cases v with
  | ref place =>
    obtain ⟨cell, hcell⟩ := Option.ne_none_iff_exists'.mp (hv place rfl)
    simp only [Heap.initialClass, hh.cells place cell hcell, hcell, Option.map_some]
  | ofClass c => simp only [Heap.initialClass, hh.classOfClass]
  | method id fn self => cases fn <;> rfl
  | generic id starred origin parameter => cases origin with
    | kind k => cases k <;> rfl
    | declared p => rfl
  | _ => rfl

theorem isCallable (hi : h.Intact) {v : Value} (hv : h.isCallable v = true) :
    h'.isCallable v = true := by
  have hslot : h'.slot? .call v = h'.classSlot? .call (h'.classOf v) := rfl
  rw [Heap.isCallable, hslot, classOf, hh.classes, hh.classSlot?_call]
  rw [Heap.isCallable, slot?, classOf] at hv
  by_cases hnew : ∃ place, v = .ref place ∧ h.cells[place]? = none
  · -- What is not there yet can only be called if a class was assigned to it.
    obtain ⟨place, rfl, hnone⟩ := hnew
    have hplain : h.classSlot? .call (.kind .object) = none := by
      rw [hi.classSlot? rfl]
      rfl
    cases hclass : h.classes.find? fun c => c.1.identical (.ref place) with
    | none =>
      simp [hclass, Heap.initialClass, hnone, hplain] at hv
    | some e => simpa [hclass] using hv
  · rwa [hh.initialClass fun place hplace hnone => hnew ⟨place, hplace, hnone⟩]

end SameClasses

/-- The attributes of a class are kept with it. -/
theorem assigned?_ofClass {h : Heap} (howners : ∀ n ∈ h.namespaces, n.1.isClass = false)
    (c : Class) (name : String) :
    h.assigned? (.ofClass c) name =
      (h.attributes.find? fun a => a.name == name && a.owner.identical (.ofClass c)).map
        (·.value) := by
  have hnone : h.namespace? (.ofClass c) = none := by
    rw [namespace?, Option.map_eq_none_iff, List.find?_eq_none]
    intro n hn hidentical
    have howner := howners n hn
    rw [Value.identical_ofClass hidentical] at howner
    cases howner
  rw [assigned?, namespaceEntries, hnone]
  simp

/-! ## Cells -/

section Cells

variable (h : Heap) {v : Value}

theorem getElem?_write (place place' : Nat) (contents : Contents) :
    (h.write (.ref place) contents).cells[place']? =
      if place = place' then (h.cells[place']?).map fun cell => { cell with contents }
      else h.cells[place']? := by
  simp [write, Array.getElem?_modify]

theorem contents?_write_self (place : Nat) (contents : Contents) :
    (h.write (.ref place) contents).contents? (.ref place) =
      (h.contents? (.ref place)).map fun _ => contents := by
  simp only [contents?, cell?, getElem?_write, if_true, Option.map_map]
  rfl

theorem contents?_write_of_ne {place : Nat} (hv : v ≠ .ref place) (contents : Contents) :
    (h.write (.ref place) contents).contents? v = h.contents? v := by
  cases v with
  | ref place' =>
    have hne : place ≠ place' := fun heq => hv (by rw [heq])
    simp only [contents?, cell?, getElem?_write, if_neg hne]
  | _ => rfl

theorem getElem?_alloc {place : Nat} {cell' : Cell} (hcell : h.cells[place]? = some cell')
    (cell : Cell) : (h.alloc cell).2.cells[place]? = some cell' :=
  cell?_alloc_of_some (v := .ref place) hcell cell

theorem contents?_alloc (hv : (h.contents? v).isSome = true) (cell : Cell) :
    (h.alloc cell).2.contents? v = h.contents? v := by
  rw [contents?, Option.isSome_map] at hv
  obtain ⟨d, hd⟩ := Option.isSome_iff_exists.mp hv
  rw [contents?, cell?_alloc_of_some hd, contents?, hd]

theorem contents?_of_entries? {h : Heap} (hv : (h.entries? v).isSome = true) :
    ∃ es, h.contents? v = some (.dict es) := by
  rw [entries?] at hv
  split at hv
  next es hes => exact ⟨es, hes⟩
  · cases hv

end Cells

/-! ## New values -/

section New

variable {kept : Nat → Prop} {h : Heap} (hg : h.Guarded)
include hg

theorem Guarded.evolves_withNext {n : Nat} (hn : h.next ≤ n) :
    Evolves kept h { h with next := n } where
  guarded := ⟨hg.withNext n, hg.owners, hg.mappings⟩
  next := hn
  callable _ hv := hv
  iterator _ c hv := ⟨c, hv⟩
  seals _ _ _ hes := ⟨hes.cell, hes.bare⟩

theorem Guarded.evolves_aliases (aliases : List (Value × Value)) :
    Evolves kept h { h with aliases } where
  guarded := ⟨⟨hg.members, hg.classes⟩, hg.owners, hg.mappings⟩
  next := Nat.le_refl _
  callable _ hv := hv
  iterator _ c hv := ⟨c, hv⟩
  seals _ _ _ hes := ⟨hes.cell, hes.bare⟩

theorem Guarded.evolves_alloc (cell : Cell) : Evolves kept h (h.alloc cell).2 := by
  have hsame : SameClasses h (h.alloc cell).2 := by
    refine ⟨rfl, rfl, fun place cell' hcell => ?_, fun c name _ => ?_⟩
    · rw [getElem?_alloc h hcell]
      rfl
    · rw [assigned?_ofClass (h := (h.alloc cell).2) hg.owners, assigned?_ofClass hg.owners]
      rfl
  refine ⟨⟨hsame.intact hg.toIntact, hg.owners, fun n hn => ?_⟩, Nat.le_refl _,
    fun v hv => hsame.isCallable hg.toIntact hv, fun v c hv => ⟨c, ?_⟩,
    fun place es _ hes => ⟨getElem?_alloc h hes.cell cell, hes.bare⟩⟩
  · obtain ⟨es, hes⟩ := contents?_of_entries? (hg.mappings n hn)
    rw [entries?, contents?_alloc h (by rw [hes]; rfl), hes]
    rfl
  · rwa [contents?_alloc h (by rw [hv]; rfl)]

/-- A new mapping is sealed: no attributes are kept in it so far. -/
theorem Guarded.seals_alloc (es : List Entry) :
    (h.alloc ⟨.kind .dict, .dict es⟩).2.Seals h.cells.size es := by
  refine ⟨by simp [alloc], fun n hn heq => ?_⟩
  obtain ⟨es', hes'⟩ := contents?_of_entries? (hg.mappings n hn)
  rw [heq, contents?, cell?] at hes'
  simp at hes'

end New

/-! ## Writing -/

section Writing

variable {kept : Nat → Prop} {h : Heap} (hg : h.Guarded)
include hg

/-- Writing to a cell is harmless, unless it may be a sealed mapping or turns a mapping or an
iterator into something else. -/
theorem Guarded.evolves_write {place : Nat} {contents : Contents}
    (hsealed : ∀ es, ¬ h.Seals place es)
    (hmapping : ∀ n ∈ h.namespaces, n.2 = .ref place → ∃ es, contents = .dict es)
    (hiterator : ∀ c, h.contents? (.ref place) = some (.iterator c) → ∃ c', contents = .iterator c') :
    Evolves kept h (h.write (.ref place) contents) := by
  have hsame : SameClasses h (h.write (.ref place) contents) := by
    refine ⟨rfl, rfl, fun place' cell hcell => ?_, fun c name _ => ?_⟩
    · rw [getElem?_write, hcell]
      split <;> rfl
    · rw [assigned?_ofClass (h := h.write (.ref place) contents) hg.owners,
        assigned?_ofClass hg.owners]
      rfl
  refine ⟨⟨hsame.intact hg.toIntact, hg.owners, fun n hn => ?_⟩, Nat.le_refl _,
    fun v hv => hsame.isCallable hg.toIntact hv, fun v c hv => ?_, fun place' es _ hes => ?_⟩
  · obtain ⟨es, hes⟩ := contents?_of_entries? (hg.mappings n hn)
    by_cases hn' : n.2 = .ref place
    · obtain ⟨es', rfl⟩ := hmapping n hn hn'
      rw [entries?, hn', contents?_write_self, ← hn', hes]
      rfl
    · rw [entries?, contents?_write_of_ne h hn', hes]
      rfl
  · by_cases hv' : v = .ref place
    · subst hv'
      obtain ⟨c', rfl⟩ := hiterator c hv
      exact ⟨c', by rw [contents?_write_self, hv]; rfl⟩
    · exact ⟨c, by rwa [contents?_write_of_ne h hv']⟩
  · refine ⟨?_, hes.bare⟩
    have hne : place ≠ place' := fun heq => hsealed es (heq ▸ hes)
    rw [getElem?_write, if_neg hne, hes.cell]

/-- An iterator goes on. -/
theorem Guarded.evolves_iterator {v : Value} {c : Cursor} (hv : h.contents? v = some (.iterator c))
    (c' : Cursor) : Evolves kept h (h.write v (.iterator c')) := by
  cases v with
  | ref place =>
    refine hg.evolves_write (fun es hes => ?_) (fun n hn heq => ?_) fun _ _ => ⟨c', rfl⟩
    · rw [contents?, cell?, hes.cell] at hv
      cases hv
    · obtain ⟨es, hes⟩ := contents?_of_entries? (hg.mappings n hn)
      rw [heq, hv] at hes
      cases hes
  | _ => exact .refl hg

/-- An attribute is kept in a mapping. -/
theorem Guarded.evolves_mapping {n : Value × Value} (hn : n ∈ h.namespaces) (es : List Entry) :
    Evolves kept h (h.write n.2 (.dict es)) := by
  obtain ⟨es', hes'⟩ := contents?_of_entries? (hg.mappings n hn)
  cases hplace : n.2 with
  | ref place =>
    refine hg.evolves_write (fun es hes => hes.bare n hn hplace) (fun _ _ _ => ⟨es, rfl⟩)
      fun c hc => ?_
    rw [← hplace, hes'] at hc
    cases hc
  | _ =>
    rw [hplace] at hes'
    cases hes'

end Writing

/-! ## Attributes -/

section Attributes

variable {kept : Nat → Prop} {h : Heap} (hg : h.Guarded)
include hg

theorem Guarded.evolves_attributes {attributes : List Attribute}
    (hsame : ∀ c name, c.Relies name →
      (attributes.find? fun a => a.name == name && a.owner.identical (.ofClass c)).map (·.value) =
        (h.attributes.find? fun a => a.name == name && a.owner.identical (.ofClass c)).map
          (·.value)) :
    Evolves kept h { h with attributes } := by
  have hclasses : SameClasses h { h with attributes } := by
    refine ⟨rfl, rfl, fun place cell hcell => by rw [hcell]; rfl, fun c name hname => ?_⟩
    rw [assigned?_ofClass (h := { h with attributes }) hg.owners, assigned?_ofClass hg.owners]
    exact hsame c name hname
  exact ⟨⟨hclasses.intact hg.toIntact, hg.owners, hg.mappings⟩, Nat.le_refl _,
    fun v hv => hclasses.isCallable hg.toIntact hv, fun v c hv => ⟨c, hv⟩,
    fun place es _ hes => ⟨hes.cell, hes.bare⟩⟩

omit hg in
theorem mem_namespaces {v dict : Value} (hv : h.namespace? v = some dict) :
    ∃ n ∈ h.namespaces, n.2 = dict := by
  obtain ⟨n, hn, rfl⟩ := Option.map_eq_some_iff.mp hv
  exact ⟨n, List.mem_of_find?_eq_some hn, rfl⟩

/-- An attribute is assigned to an object, or to a class where it does not matter. -/
theorem Guarded.evolves_assign {v : Value} {name : String}
    (hv : ∀ c, v = .ofClass c → ¬ c.Relies name) (value : Value) :
    Evolves kept h (h.assign v name value) := by
  let isIt := fun a : Attribute => a.name == name && a.owner.identical v
  let set := fun a : Attribute => if isIt a then { a with value } else a
  -- No attribute that matters is the one that is assigned.
  have hother {c : Class} {name' : String} (hname' : c.Relies name') {a : Attribute}
      (ha : (a.name == name' && a.owner.identical (.ofClass c)) = true) : isIt a = false := by
    refine Bool.eq_false_iff.mpr fun hit => ?_
    simp only [isIt, Bool.and_eq_true, beq_iff_eq] at ha hit
    rw [Value.identical_ofClass ha.2] at hit
    exact hv c (Value.ofClass_identical hit.2) (hit.1 ▸ ha.1 ▸ hname')
  rw [assign]
  split
  · refine hg.evolves_attributes fun c name' hname' => ?_
    change ((h.attributes.map set).find? _).map _ = _
    have hset : (fun a : Attribute => a.name == name' && a.owner.identical (.ofClass c)) ∘ set =
        fun a => a.name == name' && a.owner.identical (.ofClass c) := by
      funext a
      simp only [Function.comp_apply, set]
      split <;> rfl
    rw [List.find?_map, hset, Option.map_map]
    refine Option.map_congr fun a ha => ?_
    have hit : isIt a = false := hother hname' (by simpa using List.find?_some ha)
    simp only [Function.comp_apply, set, hit, Bool.false_eq_true, if_false]
  · cases hnamespace : h.namespace? v with
    | none =>
      refine hg.evolves_attributes fun c name' hname' => ?_
      have hnew : (name == name' && v.identical (.ofClass c)) = false := by
        refine Bool.eq_false_iff.mpr fun hit => ?_
        have hit' := hother (a := ⟨v, name, value⟩) hname' hit
        simp only [Bool.and_eq_true, beq_iff_eq] at hit
        exact hv c (Value.identical_ofClass hit.2) (hit.1 ▸ hname')
      rw [List.find?_append]
      simp [hnew]
    | some dict =>
      obtain ⟨n, hn, rfl⟩ := mem_namespaces hnamespace
      dsimp only
      split <;> exact hg.evolves_mapping hn _

/-- An attribute of an object is taken away. -/
theorem Guarded.evolves_unassign {v : Value} (hv : v.isClass = false) (name : String) :
    Evolves kept h (h.unassign v name) := by
  have hattributes : Evolves kept h { h with
      attributes := h.attributes.filter fun a => !(a.name == name && a.owner.identical v) } := by
    refine hg.evolves_attributes fun c name' _ => ?_
    rw [List.find?_filter]
    congr 2
    funext a
    cases ha : a.owner.identical (.ofClass c) with
    | false => simp
    | true =>
      have hne : (Value.ofClass c).identical v = false := by
        refine Bool.eq_false_iff.mpr fun hit => ?_
        rw [Value.ofClass_identical hit] at hv
        cases hv
      rw [Bool.eq_iff_iff]
      simp [Value.identical_ofClass ha, hne]
  rw [unassign]
  split
  next dict hdict =>
    obtain ⟨n, hn, rfl⟩ := mem_namespaces hdict
    exact hattributes.trans (hattributes.guarded.evolves_mapping hn _)
  · exact hattributes

end Attributes

/-! ## Attributes in a mapping -/

/-- The attributes of an object are moved into a new mapping. -/
theorem Guarded.evolves_namespace {kept : Nat → Prop} {h : Heap} (hg : h.Guarded) {v : Value}
    (hv : v.isClass = false) (es : List Entry) (own : List (String × Value)) :
    let dict := h.alloc ⟨.kind .dict, .dict es⟩
    let moved := own.foldl (fun h a => h.unassign v a.1) dict.2
    Evolves kept h { moved with namespaces := (v, dict.1) :: moved.namespaces } := by
  intro dict moved
  have hunassigned (own : List (String × Value)) {h' : Heap} (hg' : h'.Guarded) :
      Evolves (fun _ => True) h' (own.foldl (fun h a => h.unassign v a.1) h') := by
    induction own generalizing h' with
    | nil => exact .refl hg'
    | cons a own ih =>
      have hfirst : Evolves (fun _ => True) h' (h'.unassign v a.1) := hg'.evolves_unassign hv a.1
      exact hfirst.trans (ih hfirst.guarded)
  have hdict : Evolves (fun _ => True) h dict.2 := hg.evolves_alloc _
  have hmoved := hunassigned own hdict.guarded
  have hnew : dict.2.Seals h.cells.size es := hg.seals_alloc es
  have hkept := hmoved.seals _ _ trivial hnew
  have hall := hdict.trans hmoved
  have howners : ∀ n ∈ (v, dict.1) :: moved.namespaces, n.1.isClass = false :=
    List.forall_mem_cons.mpr ⟨hv, hall.guarded.owners⟩
  have hclasses : SameClasses moved { moved with namespaces := (v, dict.1) :: moved.namespaces } := by
    refine ⟨rfl, rfl, fun place cell hcell => by rw [hcell]; rfl, fun c name _ => ?_⟩
    rw [assigned?_ofClass (h := { moved with namespaces := _ }) howners,
      assigned?_ofClass hall.guarded.owners]
  refine ⟨⟨hclasses.intact hall.guarded.toIntact, howners, List.forall_mem_cons.mpr ⟨?_, ?_⟩⟩,
    hall.next, fun w hw => hclasses.isCallable hall.guarded.toIntact (hall.callable w hw),
    hall.iterator, fun place es' _ hes => ?_⟩
  · have hcell : moved.contents? dict.1 = some (.dict es) := by
      change (moved.cells[h.cells.size]?).map (·.contents) = _
      rw [hkept.cell]
      rfl
    change (moved.entries? dict.1).isSome = true
    rw [entries?, hcell]
    rfl
  · exact hall.guarded.mappings
  · have hes' := hall.seals place es' trivial hes
    refine ⟨hes'.cell, List.forall_mem_cons.mpr ⟨fun heq => ?_, hes'.bare⟩⟩
    have hplace : h.cells.size = place := Value.ref.inj heq
    have hcell := hes.cell
    simp [← hplace] at hcell

end Heap

end ValueShape
