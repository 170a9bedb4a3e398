import ValueShape.Proofs.Conduct.Dict

/-!
# What can be tried with a read-only mapping

A read-only mapping lacks the methods by which mappings are changed.  Whoever tries to change it all the
same gets a failure, and the mapping that it shows stays as it is.

* `Run.Leaves c s m` says that a computation leaves a session as it is, whatever it ends with.
* `Run.leaves_setItem_view` is about putting something under a key, and `Run.leaves_callNamed_changing`
  about calling a method that changes mappings.
* `Run.exec_callNamed_merging` and `Run.exec_callNamed_uniting` are about uniting it with another mapping
  in place, which is refused, and about the union, which is a new mapping.
* `Run.leaves_compare_of_holdsOnly` is about comparing it.
-/

set_option autoImplicit false

namespace ValueShape

namespace Run

variable {α β : Type} {c : Conduct} {s : Session}

/-! ## Sessions that are left as they are

This is stronger than keeping to a course: not even an identity is handed out. -/

/-- A computation leaves a session as it is, whatever it ends with. -/
def Leaves (c : Conduct) (s : Session) (m : Run α) : Prop := (exec c m s).session = s

namespace Leaves

variable {m : Run α}

theorem pure (a : α) : Leaves c s (pure a) := rfl

theorem throw (e : Failure) : Leaves c s (throw e : Run α) := rfl

theorem of_exec_error {e : Failure} (h : exec c m s = .error e s) : Leaves c s m := by
  rw [Leaves, h]
  rfl

/-- A computation that leaves a session as it is ends there. -/
theorem ends (h : Leaves c s m) : (∃ a, exec c m s = .ok a s) ∨ ∃ e, exec c m s = .error e s := by
  rw [Leaves] at h
  cases hm : exec c m s with
  | ok a t =>
    rw [hm] at h
    exact .inl ⟨a, congrArg (EStateM.Result.ok a) h⟩
  | error e t =>
    rw [hm] at h
    exact .inr ⟨e, congrArg (EStateM.Result.error e) h⟩

theorem bind {k : α → Run β} (hm : Leaves c s m) (hk : ∀ a, Leaves c s (k a)) :
    Leaves c s (m >>= k) := by
  rw [Leaves, exec_bind]
  obtain ⟨a, ha⟩ | ⟨e, he⟩ := hm.ends
  · rw [ha]
    exact hk a
  · rw [he]
    rfl

/-- What goes on with a result may leave the session as it is. -/
theorem session_bind {k : α → Run β} (hk : ∀ a t, Leaves c t (k a)) :
    (exec c (m >>= k) s).session = (exec c m s).session := by
  rw [exec_bind]
  cases exec c m s with
  | ok a t => exact hk a t
  | error e t => rfl

theorem heap_bind {k : Heap → Run β} (hk : Leaves c s (k s.heap)) : Leaves c s (heap >>= k) := hk

theorem map (hm : Leaves c s m) (f : α → β) : Leaves c s (f <$> m) := by
  rw [← bind_pure_comp]
  exact hm.bind fun a => .pure (f a)

end Leaves

/-! ## Keys -/

theorem leaves_fitting (unfit : String → Failure) (key : Value) (i : Int) :
    Leaves c s (fitting unfit key i) := by
  rw [fitting]
  split
  · exact .pure i
  · exact .heap_bind (.throw _)

/-- Reading a value as an index does nothing, unless it has a method of its own for that. -/
theorem leaves_asIndex? {key : Value}
    (hkey : ∀ method, s.heap.slot? .index key ≠ some (.assigned method)) :
    Leaves c s (asIndex? key) := by
  rw [asIndex?]
  cases key.index? with
  | some n => exact .pure _
  | none =>
    refine .heap_bind ?_
    split
    · rename_i method hslot
      exact absurd hslot (hkey method)
    · exact .pure _

/-- **Nothing can be put into a read-only mapping**, and to try does not change anything. -/
theorem leaves_setItem_view (hs : s.heap.Regular) (id place : Nat) {key : Value}
    (hkey : ∀ method, s.heap.slot? .index key ≠ some (.assigned method)) (v : Value) :
    Leaves c s (setItem (.view id (.ref place)) key v) := by
  have hslot : s.heap.slot? .setItem (.view id (.ref place)) = none :=
    (hs.slot? (k := .view) rfl rfl .setItem).trans rfl
  have hclass : s.heap.classOf (.view id (.ref place)) = .kind .view := hs.classOf rfl rfl
  rw [setItem]
  refine .heap_bind ?_
  rw [hslot, hclass]
  change Leaves c s (asIndex? key >>= fun i? =>
    (i?.forM fun i => discard (fitting .indexOutOfRange key i)) >>= fun _ =>
      throw (.itemsFixed (s.heap.qualifiedTypeName (.view id (.ref place)))))
  refine .bind (leaves_asIndex? hkey) fun i? => .bind ?_ fun _ => .throw _
  cases i? with
  | none => exact .pure _
  | some i => exact (leaves_fitting _ key i).map _

/-! ## Methods

Methods are called by their names, as a script does it.  The attribute is read first, and then
called. -/

/-- Calls the method of a value that goes by a name. -/
def callNamed (v : Value) (name : String) (args : List Value) : Run Value := do
  call (← readAttribute v name) args

/-- The names of the methods by which mappings are changed, but for the union in place. -/
def changingNames : List String :=
  ["__setitem__", "__delitem__", "update", "setdefault", "pop", "popitem", "clear"]

/-- The names of the methods by which unions are made, on either side. -/
def unionNames : List String := ["__or__", "__ror__"]

/-- The names that are read in a way of their own. -/
def specialNames : List String :=
  [Heap.classAttribute, Heap.nameField, Heap.nestedNameAttribute, Heap.moduleAttribute,
    annotationsAttribute, entriesAttribute, Heap.namespaceAttribute, weakReference]

section

variable (hs : s.heap.Regular) (id place : Nat) {name : String} (hname : name ∉ specialNames)
include hs hname

/-- A read-only mapping has what its class has under a name. -/
theorem find?_view : s.heap.find? (.view id (.ref place)) name =
    (Heap.start.inherited? (.kind .view) name).map (s.heap.foundInClass (.view id (.ref place)) none) := by
  simp only [specialNames, List.mem_cons, List.not_mem_nil, or_false, not_or] at hname
  obtain ⟨hclass, hnaming, hnested, hmodule, hannotations, -, -, -⟩ := hname
  have hfound : s.heap.findInObject? (.view id (.ref place)) name =
      (Heap.start.inherited? (.kind .view) name).map
        (s.heap.foundInClass (.view id (.ref place)) none) := by
    rw [Heap.findInObject?, hs.classOf (k := .view) rfl rfl,
      hs.inherited? (k := .view) rfl hannotations, hs.views]
    cases Heap.start.inherited? (.kind .view) name with
    | none => simp [Heap.sharedDefault?, hmodule]
    | some slot => simp
  simp only [Heap.find?, beq_eq_false_iff_ne.mpr hclass, beq_eq_false_iff_ne.mpr hnaming, hfound,
    Bool.false_eq_true, if_false]
  cases Heap.start.inherited? (.kind .view) name with
  | none => simp [Heap.findOfMember?, hnested, hmodule, Heap.placeAttribute?, Heap.functionPlace?]
  | some slot => rfl

theorem exec_readAttribute_view (c : Conduct) : exec c (readAttribute (.view id (.ref place)) name) s =
    exec c (readFound (readAttributeUpTo 999) (.view id (.ref place)) name
      ((Heap.start.inherited? (.kind .view) name).map
        (s.heap.foundInClass (.view id (.ref place)) none))) s := by
  have hread : s.heap.slot? .readAttribute (.view id (.ref place)) = none :=
    hs.slot? (k := .view) rfl rfl .readAttribute
  have hmissing : s.heap.slot? .missingAttribute (.view id (.ref place)) = none :=
    hs.slot? (k := .view) rfl rfl .missingAttribute
  rw [readAttribute, exec_readAttributeUpTo c hread hmissing, find?_view hs id place hname]

/-- Where the class has nothing under a name, reading it fails. -/
theorem exec_readAttribute_view_none (c : Conduct) (hin : Heap.start.inherited? (.kind .view) name = none) :
    ∃ e, exec c (readAttribute (.view id (.ref place)) name) s = .error e s := by
  rw [exec_readAttribute_view hs id place hname, hin]
  simp only [specialNames, List.mem_cons, List.not_mem_nil, or_false, not_or] at hname
  obtain ⟨-, -, -, -, -, hentries, hnamespace, hweak⟩ := hname
  simp [readFound, hentries, hnamespace, hweak]

end

/-- **A read-only mapping lacks the methods by which mappings are changed.** -/
theorem leaves_callNamed_changing (hs : s.heap.Regular) (id place : Nat) {name : String}
    (hname : name ∈ changingNames) (args : List Value) :
    Leaves c s (callNamed (.view id (.ref place)) name args) := by
  have hlacks : ∀ name ∈ changingNames,
      name ∉ specialNames ∧ Heap.start.inherited? (.kind .view) name = none := by decide +kernel
  obtain ⟨hspecial, hin⟩ := hlacks name hname
  obtain ⟨e, he⟩ := exec_readAttribute_view_none hs id place hspecial c hin
  exact .of_exec_error (by rw [callNamed, exec_bind, he]; rfl)

/-! ## Unions

Of all that can be tried with a read-only mapping, this alone does something: a new mapping is made.
Its keys are compared with each other, so nothing else happens only if their comparison does
nothing. -/

/-- The class has these methods by itself, and none of their names is read in a way of its own or means
something to the language. -/
theorem memberSort?_union : ∀ name ∈ "__ior__" :: unionNames, Kind.view.memberSort? name = some .wrapper ∧
    Heap.start.assigned? (.ofClass (.kind .view)) name = none ∧ Method.ofName? name = none ∧
      name ∉ specialNames ∧ name ≠ Heap.basesAttribute := by
  decide +kernel

/-- What a class has by itself comes before what stands above it. -/
theorem inherited?_union {name : String} (hname : name ∈ "__ior__" :: unionNames) :
    Heap.start.inherited? (.kind .view) name = some (.assigned (.field .view name)) := by
  obtain ⟨hmember, hassigned, hmethod, hspecial, hbases⟩ := memberSort?_union name hname
  simp only [specialNames, List.mem_cons, List.not_mem_nil, or_false, not_or] at hspecial
  obtain ⟨-, hnaming, hnested, -⟩ := hspecial
  have hlineage : Heap.start.lineage (.kind .view) =
      .kind .view :: (Heap.start.lineage (.kind .view)).tail := rfl
  have hown : Heap.start.ownMember? name none (.kind .view) = some (.assigned (.field .view name)) := by
    simp only [Heap.ownMember?, hassigned, hmember, Option.any_none, Bool.false_eq_true, if_false,
      Option.map_some]
  simp only [Heap.inherited?, Heap.isNaming, beq_eq_false_iff_ne.mpr hnaming,
    beq_eq_false_iff_ne.mpr hnested, beq_eq_false_iff_ne.mpr hbases, Bool.or_self, Bool.false_and,
    Bool.false_eq_true, if_false, hmethod]
  rw [hlineage, List.findSome?_cons, hown]

/-- The methods for unions are read as methods of the mapping. -/
theorem exec_readAttribute_union (hs : s.heap.Regular) (id place : Nat) {name : String}
    (hname : name ∈ "__ior__" :: unionNames) (c : Conduct) :
    exec c (readAttribute (.view id (.ref place)) name) s =
      .ok (.method s.heap.next (.field .view name) (.view id (.ref place)))
        (s.withNext (s.heap.next + 1)) := by
  obtain ⟨hmember, -, -, hspecial, -⟩ := memberSort?_union name hname
  have hpart : s.heap.isPart (.assigned (.field .view name)) = false := by
    rw [Heap.isPart, Kind.fieldKind, hmember]
    rfl
  have hkind : s.heap.isOfKind (.view id (.ref place)) .view = true :=
    hs.isOfKind (k := .view) rfl rfl .view
  rw [exec_readAttribute_view hs id place hspecial, inherited?_union hname, Option.map_some,
    Heap.foundInClass, hmember, hpart]
  simp [readFound, bindMethod, hkind, Ending.map]

/-- Calling such a method carries it out, if it takes one argument. -/
theorem exec_call_union (host : Host) (n : Nat) (hs : s.heap.Regular) (i id place : Nat) {name : String}
    (hname : name ∈ "__ior__" :: unionNames) (w : Value) :
    let ending := exec (Ask.conduct host (n + 1))
      (call (.method i (.field .view name) (.view id (.ref place))) [w]) s
    (∃ e, ending = .error e s) ∨ ending = exec (Ask.conduct host n) (callOfView
      ⟨.view, name, nameThrough s.heap (.view id (.ref place)), .view id (.ref place), [w]⟩) s := by
  intro ending
  have hkind : s.heap.isOfKind (.view id (.ref place)) .view = true :=
    hs.isOfKind (k := .view) rfl rfl .view
  obtain ⟨hmember, -, hmethod, -⟩ := memberSort?_union name hname
  have hother : ∀ name ∈ "__ior__" :: unionNames, (name == "__reversed__") = false := by decide
  have hreversed : (name == "__reversed__") = false := hother name hname
  have hact (through : String) :
      carryOut Ask.callSelf ⟨.view, name, through, .view id (.ref place), [w]⟩ =
        callOfView ⟨.view, name, through, .view id (.ref place), [w]⟩ := by
    simp only [carryOut, hmethod, hreversed, Option.bind_none, Bool.false_eq_true, if_false]
    rfl
  have hcall : ending = exec (Ask.conduct host n)
    (callMember Ask.callSelf true .view name [.view id (.ref place), w]) s := rfl
  rw [callMember, exec_bind, exec_heap, Ending.andThen_ok, hmember] at hcall
  simp only [hkind, hact] at hcall
  -- The number of arguments is checked before.
  cases harity : Kind.view.arity? name with
  | none =>
    rw [harity] at hcall
    exact .inr hcall
  | some a =>
    rw [harity] at hcall
    cases hmisfit : MemberCall.misfit?
        ⟨.view, name, nameThrough s.heap (.view id (.ref place)), .view id (.ref place), [w]⟩ a with
    | none => exact .inr (hcall.trans (by simp [hmisfit]))
    | some e => exact .inl ⟨e, hcall.trans (by simp [hmisfit])⟩

/-- A union in place is refused. -/
theorem exec_callNamed_merging (host : Host) (n : Nat) (hs : s.heap.Regular) (id place : Nat) (w : Value) :
    (exec (Ask.conduct host (n + 1)) (callNamed (.view id (.ref place)) "__ior__" [w]) s).session =
      s.withNext (s.heap.next + 1) := by
  have hnext : (s.withNext (s.heap.next + 1)).heap.Regular := hs.withNext _
  rw [callNamed, exec_bind, exec_readAttribute_union hs id place List.mem_cons_self, Ending.andThen_ok]
  obtain ⟨e, he⟩ | hcall := exec_call_union host n hnext s.heap.next id place List.mem_cons_self w
  · rw [he]
    rfl
  · rw [hcall]
    rfl

/-- The mappings of the built-in class in which all keys and values have a property, and the read-only
mappings that show such mappings. -/
inductive HoldsOnly (h : Heap) (P : Value → Prop) : Value → Prop
  | dict {place : Nat} {es : List Entry} (hcell : h.cells[place]? = some ⟨.kind .dict, .dict es⟩)
      (hes : ∀ e ∈ es, P e.1.value ∧ P e.2) : HoldsOnly h P (.ref place)
  | view {id place : Nat} (hplace : HoldsOnly h P (.ref place)) : HoldsOnly h P (.view id (.ref place))

/-- Wherever an invariant holds, comparing any two of the values does nothing, however deep it goes. -/
def CompareQuietly (host : Host) (I : Session → Prop) (P : Value → Prop) : Prop :=
  ∀ n v w, P v → P w → ∀ s, I s → Leaves (Ask.conduct host n) s (equivalent v w)

theorem leaves_isKey {key stored : Key Value} (h : Leaves c s (equivalent stored.value key.value)) :
    Leaves c s (isKey key stored) := by
  rw [isKey]
  split
  · exact h
  · exact .pure false

/-- Storing a value under a key compares the key with other keys, and adds none but this one. -/
theorem ends_insertEntry {P : Value → Prop} (hP : ∀ v w, P v → P w → Leaves c s (equivalent v w))
    {key : Key Value} (hkey : P key.value) (value : Value) {es : List Entry}
    (hes : ∀ e ∈ es, P e.1.value) :
    (∃ es', exec c (insertEntry key value es) s = .ok es' s ∧ ∀ e ∈ es', P e.1.value) ∨
      ∃ e, exec c (insertEntry key value es) s = .error e s := by
  induction es with
  | nil => exact .inl ⟨_, rfl, List.forall_mem_singleton.mpr hkey⟩
  | cons e es ih =>
    obtain ⟨he, hes⟩ := List.forall_mem_cons.mp hes
    rw [insertEntry, exec_bind]
    obtain ⟨b, hb⟩ | ⟨e, he⟩ := (leaves_isKey (hP _ _ he hkey)).ends
    · rw [hb, Ending.andThen_ok]
      cases b with
      | true => exact .inl ⟨_, rfl, List.forall_mem_cons.mpr ⟨he, hes⟩⟩
      | false =>
        obtain ⟨es', hes', hall⟩ | ⟨e, he⟩ := ih hes
        · refine .inl ⟨_, ?_, List.forall_mem_cons.mpr ⟨he, hall⟩⟩
          simp [hes', Ending.map]
        · exact .inr ⟨e, by simp [he, Ending.map]⟩
    · exact .inr ⟨e, by rw [he]; rfl⟩

theorem leaves_insertEntries {P : Value → Prop} (hP : ∀ v w, P v → P w → Leaves c s (equivalent v w))
    {fs : List Entry} (hfs : ∀ e ∈ fs, P e.1.value) {es : List Entry} (hes : ∀ e ∈ es, P e.1.value) :
    Leaves c s (fs.foldlM (fun es e => insertEntry e.1 e.2 es) es) := by
  induction fs generalizing es with
  | nil => exact .pure es
  | cons f fs ih =>
    obtain ⟨hf, hfs⟩ := List.forall_mem_cons.mp hfs
    rw [List.foldlM_cons, Leaves, exec_bind]
    obtain ⟨es', hes', hall⟩ | ⟨e, he⟩ := ends_insertEntry hP hf f.2 hes
    · rw [hes']
      exact ih hfs hall
    · rw [he]
      rfl

/-- A mapping or read-only mapping with such entries stands for a mapping with these entries. -/
theorem HoldsOnly.exists_cell {h : Heap} {P : Value → Prop} {v : Value} (hv : HoldsOnly h P v) :
    ∃ place es, shownBy v = .ref place ∧ h.cells[place]? = some ⟨.kind .dict, .dict es⟩ ∧
      ∀ e ∈ es, P e.1.value ∧ P e.2 := by
  cases hv with
  | dict hcell hes => exact ⟨_, _, rfl, hcell, hes⟩
  | view hplace =>
    cases hplace with
    | dict hcell hes => exact ⟨_, _, rfl, hcell, hes⟩

theorem modify_push_size (cells : Array Cell) (cell : Cell) (f : Cell → Cell) :
    (cells.push cell).modify cells.size f = cells.push (f cell) := by
  refine Array.ext_getElem? fun i => ?_
  rw [Array.getElem?_modify, Array.getElem?_push, Array.getElem?_push]
  by_cases h : cells.size = i
  · simp [h]
  · simp [h, Ne.symm h]

/-- A new mapping takes up the entries of another one. -/
theorem exec_updateEntries_new (host : Host) (n : Nat) {I : Session → Prop} {P : Value → Prop}
    (hquiet : CompareQuietly host I P) (hI : Session.Enduring I) (hs : I s) {place : Nat}
    {es fs : List Entry} (hcell : s.heap.cells[place]? = some ⟨.kind .dict, .dict fs⟩)
    (hes : ∀ e ∈ es, P e.1.value) (hfs : ∀ e ∈ fs, P e.1.value) :
    ∃ es', (exec (Ask.conduct host n) (updateEntries (.ref s.heap.cells.size) (.ref place))
      (s.withDict es)).session = s.withDict es' := by
  have hs' := hI.withDict hs es
  have hcell' : (s.withDict es).heap.cells[place]? = some ⟨.kind .dict, .dict fs⟩ :=
    Session.getElem?_withDict hcell es
  have hnew : (s.withDict es).heap.cells[s.heap.cells.size]? = some ⟨.kind .dict, .dict es⟩ :=
    Array.getElem?_push_size
  have hslot : (s.withDict es).heap.slot? .iteration (.ref place) = some (.native .dict) :=
    (hI.regular hs').slot? (k := .dict) rfl (Heap.initialClass_of_cell hcell') .iteration
  rw [updateEntries, exec_bind, exec_heap, Ending.andThen_ok, Heap.entries?_of_cell hcell', hslot]
  simp only [exec_bind, exec_heap, Ending.andThen_ok, Heap.entries?_of_cell hnew, Option.getD_some]
  have hfold := leaves_insertEntries (c := Ask.conduct host n) (s := s.withDict es)
    (fun v w hv hw => hquiet n v w hv hw _ hs') hfs hes
  obtain ⟨es', hes'⟩ | ⟨e, he⟩ := hfold.ends
  · refine ⟨es', ?_⟩
    rw [hes', Ending.andThen_ok]
    change ({ s with heap := { s.heap with cells := (s.heap.cells.push _).modify s.heap.cells.size _ } } :
      Session) = { s with heap := { s.heap with cells := s.heap.cells.push _ } }
    rw [modify_push_size]
  · exact ⟨es, by rw [he]; rfl⟩

/-- **The union of two mappings is a new mapping**, and if comparing their keys does nothing, nothing else
happens. -/
theorem exec_unitedViews (host : Host) (n : Nat) {I : Session → Prop} {P : Value → Prop}
    (hquiet : CompareQuietly host I P) (hI : Session.Enduring I) (hs : I s) {v w : Value}
    (hv : HoldsOnly s.heap P v) (hw : HoldsOnly s.heap P w) :
    ∃ es, (exec (Ask.conduct host n) (unitedViews v w) s).session = s.withDict es := by
  obtain ⟨place, es, hplace, hcell, hes⟩ := hv.exists_cell
  obtain ⟨place', fs, hplace', hcell', hfs⟩ := hw.exists_cell
  have hregular := hI.regular hs
  have hordered {place : Nat} {es : List Entry}
      (hcell : s.heap.cells[place]? = some ⟨.kind .dict, .dict es⟩) :
      s.heap.isOfKind (.ref place) .orderedDict = false :=
    hregular.isOfKind (k := .dict) rfl (Heap.initialClass_of_cell hcell) .orderedDict
  have hdict : s.heap.isOfKind (.ref place) .dict = true :=
    hregular.isOfKind (k := .dict) rfl (Heap.initialClass_of_cell hcell) .dict
  have hkeys : ∀ e ∈ es, P e.1.value := fun e he => (hes e he).1
  obtain ⟨es', hupdate⟩ := exec_updateEntries_new host n hquiet hI hs hcell' hkeys
    fun e he => (hfs e he).1
  have hunited : (exec (Ask.conduct host n) (unitedMappings .dict (.ref place) (.ref place')) s).session =
      s.withDict es' := by
    rw [unitedMappings, exec_bind, exec_heap, Ending.andThen_ok, Heap.entries?_of_cell hcell,
      Heap.entries?_of_cell hcell']
    change (exec (Ask.conduct host n) (alloc (.kind .dict) (.dict es) >>= fun made =>
      updateMapping .dict made (.ref place') >>= fun _ => pure made) s).session = _
    rw [exec_bind]
    change (exec (Ask.conduct host n) (updateMapping .dict (.ref s.heap.cells.size) (.ref place') >>=
      fun _ => pure (Value.ref s.heap.cells.size)) (s.withDict es)).session = _
    rw [Leaves.session_bind fun _ _ => .pure _]
    exact hupdate
  rw [unitedViews, exec_bind, exec_heap, Ending.andThen_ok, hplace, hplace']
  simp only [hordered hcell, hordered hcell', hdict, Bool.or_self, Bool.false_eq_true, if_false, if_true]
  refine ⟨es', (Leaves.session_bind fun made t => ?_).trans hunited⟩
  split
  · exact .throw _
  · exact .pure _

/-- **The union with a read-only mapping is a new mapping**, if it is one. -/
theorem exec_callNamed_uniting (host : Host) (n : Nat) {I : Session → Prop} {P : Value → Prop}
    (hquiet : CompareQuietly host I P) (hI : Session.Enduring I) (hs : I s) {name : String}
    (hname : name ∈ unionNames) (id : Nat) {place : Nat} {w : Value}
    (hplace : HoldsOnly s.heap P (.ref place)) (hw : HoldsOnly s.heap P w) :
    let s' := (exec (Ask.conduct host (n + 1)) (callNamed (.view id (.ref place)) name [w]) s).session
    let s₁ := s.withNext (s.heap.next + 1)
    s' = s₁ ∨ ∃ es, s' = s₁.withDict es := by
  intro s' s₁
  have hregular := hI.regular hs
  have hnext : s₁.heap.Regular := hregular.withNext _
  have hs₁ : I s₁ := hI.notes hs (.withNext (Nat.le_succ _))
  have hunion : name ∈ "__ior__" :: unionNames := List.mem_cons_of_mem _ hname
  have hcells {v : Value} (hv : HoldsOnly s.heap P v) : HoldsOnly s₁.heap P v := by
    induction hv with
    | dict hcell hes => exact .dict hcell hes
    | view _ ih => exact .view ih
  have hview : HoldsOnly s₁.heap P (.view id (.ref place)) := hcells (.view hplace)
  have hread : s' = (exec (Ask.conduct host (n + 1))
      (call (.method s.heap.next (.field .view name) (.view id (.ref place))) [w]) s₁).session := by
    change (exec _ (readAttribute (.view id (.ref place)) name >>= fun f => call f [w]) s).session = _
    rw [exec_bind, exec_readAttribute_union hregular id place hunion]
    rfl
  rw [hread]
  obtain ⟨e, he⟩ | hcall := exec_call_union host n hnext s.heap.next id place hunion w
  · rw [he]
    exact .inl rfl
  · rw [hcall]
    simp only [unionNames, List.mem_cons, List.not_mem_nil, or_false] at hname
    -- The mapping stands on the left or on the right.
    rcases hname with rfl | rfl
    · exact .inr (exec_unitedViews host n hquiet hI hs₁ hview (hcells hw))
    · exact .inr (exec_unitedViews host n hquiet hI hs₁ (hcells hw) hview)

/-! ## Comparisons

Comparing a read-only mapping hands the mapping that it shows to the other value, which might change
it.  Mappings of the built-in classes do not, as long as what is in them does nothing either. -/

section Comparisons

variable {P : Value → Prop} (hP : ∀ v w, P v → P w → Leaves c s (equivalent v w))
include hP

/-- What is found under a key is one of the values. -/
theorem ends_entryUnder? {key : Key Value} (hkey : P key.value) {es : List Entry}
    (hes : ∀ e ∈ es, P e.1.value ∧ P e.2) :
    (∃ v?, exec c (entryUnder? key es) s = .ok v? s ∧ ∀ v ∈ v?, P v) ∨
      ∃ e, exec c (entryUnder? key es) s = .error e s := by
  induction es with
  | nil => exact .inl ⟨none, rfl, nofun⟩
  | cons e es ih =>
    obtain ⟨⟨hstored, hvalue⟩, hes⟩ := List.forall_mem_cons.mp hes
    rw [entryUnder?, exec_bind]
    obtain ⟨b, hb⟩ | ⟨e, he⟩ := (leaves_isKey (hP _ _ hstored hkey)).ends
    · rw [hb, Ending.andThen_ok]
      cases b with
      | true => exact .inl ⟨some e.2, rfl, by rintro _ ⟨⟩; exact hvalue⟩
      | false => exact ih hes
    · exact .inr ⟨e, by rw [he]; rfl⟩

theorem leaves_entriesWithin {es fs : List Entry} (hes : ∀ e ∈ es, P e.1.value ∧ P e.2)
    (hfs : ∀ e ∈ fs, P e.1.value ∧ P e.2) : Leaves c s (entriesWithin fs es) := by
  induction es with
  | nil => exact .pure true
  | cons e es ih =>
    obtain ⟨⟨hkey, hvalue⟩, hes⟩ := List.forall_mem_cons.mp hes
    rw [entriesWithin, Leaves, exec_bind]
    obtain ⟨v?, hv?, hfound⟩ | ⟨e, he⟩ := ends_entryUnder? hP hkey hfs
    · rw [hv?, Ending.andThen_ok]
      cases v? with
      | none => rfl
      | some v =>
        refine (hP v e.2 (hfound v rfl) hvalue).bind fun b => ?_
        cases b with
        | true => exact ih hes
        | false => exact .pure false
    · rw [he]
      rfl

theorem leaves_equalEntries {es fs : List Entry} (hes : ∀ e ∈ es, P e.1.value ∧ P e.2)
    (hfs : ∀ e ∈ fs, P e.1.value ∧ P e.2) : Leaves c s (equalEntries es fs) := by
  rw [equalEntries]
  split
  · exact .pure false
  · exact leaves_entriesWithin hP hes hfs

end Comparisons

/-- **Comparing two mappings leaves them as they are**, if comparing what is in them does nothing. -/
theorem leaves_compare_of_holdsOnly (host : Host) {I : Session → Prop} {P : Value → Prop}
    (hquiet : CompareQuietly host I P) (hs : s.heap.Regular) (hI : I s) (n : Nat) {v w : Value}
    (hv : HoldsOnly s.heap P v) (hw : HoldsOnly s.heap P w) :
    Leaves (Ask.conduct host n) s (compare v w) := by
  induction n generalizing v w with
  | zero => rfl
  | succ n ih =>
    have hanswer {v w : Value} (hv : HoldsOnly s.heap P v) (hw : HoldsOnly s.heap P w) :
        Leaves (Ask.conduct host n) s (answer v w) := by
      rw [answer]
      refine .heap_bind ?_
      cases hv with
      | view hplace =>
        rw [hs.slot? (k := .view) rfl rfl]
        exact (ih hplace hw).map some
      | @dict place es hcell hes =>
        rw [hs.slot? (k := .dict) rfl (Heap.initialClass_of_cell hcell)]
        change Leaves _ s (nativeAnswer .dict (.ref place) w)
        change Leaves _ s (bothKnow (s.heap.entries? (.ref place)) (s.heap.entries? w) equalEntries)
        rw [Heap.entries?_of_cell hcell]
        cases hw with
        | view => exact .pure none
        | @dict place' fs hcell' hfs =>
          rw [Heap.entries?_of_cell hcell']
          exact (leaves_equalEntries (fun v w hv hw => hquiet n v w hv hw s hI) hes hfs).bind
            fun _ => .pure _
    have hboth {v w : Value} (hv : HoldsOnly s.heap P v) (hw : HoldsOnly s.heap P w)
        {k : Option Value → Run Value} (hsome : ∀ a, Leaves (Ask.conduct host n) s (k (some a)))
        (hnone : Leaves (Ask.conduct host n) s (k none)) :
        Leaves (Ask.conduct host n) s (answer v w >>= k) :=
      (hanswer hv hw).bind fun a? => by
        cases a? with
        | some a => exact hsome a
        | none => exact hnone
    change Leaves (Ask.conduct host n) s (compareOnce v w)
    rw [compareOnce]
    refine .heap_bind ?_
    -- If neither of the two knows, sameness decides.
    cases s.heap.asksSecondFirst v w with
    | true => exact hboth hw hv .pure (hboth hv hw .pure (.pure _))
    | false => exact hboth hv hw .pure (hboth hw hv .pure (.pure _))

/-! ## Predicates and texts

What the library puts into the mappings of its own: they are compared without asking anybody. -/

/-- The predicates, the functions, and the texts of the built-in class. -/
def IsAtomic (v : Value) : Prop := ∃ k ∈ [Kind.predicate, .function, .text], v.coreKind? = some k

instance (v : Value) : Decidable (IsAtomic v) :=
  inferInstanceAs (Decidable (∃ k ∈ [Kind.predicate, .function, .text], v.coreKind? = some k))

/-- They know at once whether they are equal to something, or that they do not know. -/
theorem exec_answer_atomic (c : Conduct) (hs : s.heap.Intact) {v : Value} (hv : IsAtomic v) (w : Value) :
    ∃ b? : Option Bool, exec c (answer v w) s = .ok (b?.map .bool) s := by
  obtain ⟨k, hk, hcore⟩ := hv
  rw [answer, exec_bind, exec_heap, Ending.andThen_ok, hs.slot? hcore]
  simp only [List.mem_cons, List.not_mem_nil, or_false] at hk
  rcases hk with rfl | rfl | rfl
  · refine ⟨if v.identical w then some true else none, ?_⟩
    change exec c (pure (if v.identical w then some (Value.bool true) else none)) s = _
    cases v.identical w <;> rfl
  · refine ⟨if v.identical w then some true else none, ?_⟩
    change exec c (pure (if v.identical w then some (Value.bool true) else none)) s = _
    cases v.identical w <;> rfl
  · exact ⟨s.heap.plainAnswer? .text v w, rfl⟩

theorem compareQuietly_atomic (host : Host) {I : Session → Prop} (hI : ∀ s, I s → s.heap.Intact) :
    CompareQuietly host I IsAtomic := by
  intro n v w hv hw s hs
  rw [equivalent]
  split
  · exact .pure true
  · cases n with
    | zero => rfl
    | succ n =>
      have hcompare : ∃ b, exec (Ask.conduct host (n + 1)) (compare v w) s = .ok (.bool b) s := by
        change ∃ b, exec (Ask.conduct host n) (compareOnce v w) s = _
        obtain ⟨b?, hb⟩ := exec_answer_atomic (Ask.conduct host n) (hI s hs) hv w
        obtain ⟨c?, hc⟩ := exec_answer_atomic (Ask.conduct host n) (hI s hs) hw v
        rw [compareOnce, exec_bind, exec_heap, Ending.andThen_ok]
        cases s.heap.asksSecondFirst v w <;> cases b? <;> cases c? <;> exact ⟨_, by simp [hb, hc]; rfl⟩
      obtain ⟨b, hb⟩ := hcompare
      rw [Leaves, exec_equal_of_compare hb]
      rfl

end Run

end ValueShape
