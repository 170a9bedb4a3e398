import ValueShape.Proofs.Conduct.Key
import ValueShape.Proofs.Facet.Presents

/-!
# Mappings in the course of time

The mappings that the library makes for its records, and what keeps them as they are.

* `Heap.Regular` says that the built-in classes are as they were in the beginning, which nothing can
  change in them, and that mappings of these classes have no attributes.
* `Heap.HoldsFields h place fields` says that a mapping has the given fields as its entries.
* An invariant of sessions is `Enduring` if the built-in classes are regular where it holds, and if
  neither the notes of the library nor new mappings end it.
  Sessions in which nothing was assigned are an example (`Session.enduring_untouched`).  It is `Abiding`
  if that goes for notes of new predicates, as where a predicate is known not to be registered
  (`Session.Abiding.unregistered`).
* `Session.Keeping I ds` is the invariant `I` where all mappings of the list `ds` have their fields
  as well.  `Run.Steadily c I m P` says that the computation `m` settles wherever one of these holds.
-/

set_option autoImplicit false

namespace ValueShape

open Run

/-! ## Built-in classes -/

/-- Whether a method is one of those that checks call on a mapping. -/
def Method.isOfMappings : Method → Bool
  | get | keys | values | items => true
  | _ => false

theorem Part.isOfMappings_method (part : Part) : part.method.isOfMappings = true := by
  cases part <;> rfl

namespace Heap

/-- The classes that take no attributes have the members that they began with, their objects stay
with them, and mappings of the built-in class and read-only mappings have no attributes. -/
structure Regular (h : Heap) : Prop where
  /-- The members are those from the beginning. -/
  members (k : Kind) (hk : k.isOpenClass = false) (name : String)
    (hname : name ≠ annotationsAttribute) :
    h.assigned? (.ofClass (.kind k)) name = start.assigned? (.ofClass (.kind k)) name
  /-- No other class was assigned to their objects. -/
  classes (e : Value × Class) (he : e ∈ h.classes) (v : Value) (k : Kind)
    (hv : h.initialClass v = .kind k) (hk : k.isOpenClass = false) : e.1.identical v = false
  /-- Mappings of the built-in class have no attributes. -/
  attributes (place : Nat) (hv : h.initialClass (.ref place) = .kind .dict) (name : String) :
    h.assigned? (.ref place) name = none
  /-- Neither have read-only mappings. -/
  views (id : Nat) (source : Value) (name : String) : h.assigned? (.view id source) name = none

/-- In the beginning only classes have attributes. -/
theorem start_assigned?_of_not_class {v : Value} (hv : ∀ c, (Value.ofClass c).identical v = false)
    (name : String) : start.assigned? v name = none := by
  have howner : ∀ a ∈ start.attributes, a.owner.identical v = false := by
    intro a ha
    rcases List.mem_cons.mp ha with rfl | ha
    · exact hv _
    · obtain ⟨k, -, ha⟩ := List.mem_flatMap.mp ha
      obtain ⟨field, -, rfl⟩ := List.mem_map.mp ha
      exact hv _
  rw [assigned?, List.find?_eq_none.mpr fun a ha => by simp [howner a ha]]
  rfl

theorem start_regular : start.Regular where
  members _ _ _ _ := rfl
  classes _ he := absurd he List.not_mem_nil
  attributes _ _ := start_assigned?_of_not_class fun _ => rfl
  views _ _ := start_assigned?_of_not_class fun _ => rfl

/-- An object without an attribute of that name has the method of a kind, if its class has. -/
theorem IsOrdinary.find?_method {h : Heap} {k owner : Kind} {place : Nat}
    (hv : h.IsOrdinary k (.ref place)) {m : Method} (hm : m.isOfMappings = true)
    (hbare : h.assigned? (.ref place) m.name = none)
    (hin : start.inherited? (.kind k) m.name = some (.native owner)) :
    h.find? (.ref place) m.name = some (.native owner) := by
  have hfound : h.findInObject? (.ref place) m.name = some (.native owner) := by
    rw [findInObject?, hv.classOf, hv.members.inherited? m.name_ne_annotations, hin, hbare]
    rfl
  cases m with
  | get | keys | values | items => simp only [Heap.find?]; rw [hfound]; rfl
  | _ => cases hm

namespace Regular

variable {h : Heap} {v : Value} {k : Kind}

theorem withNext (hh : h.Regular) (n : Nat) : { h with next := n }.Regular :=
  ⟨hh.members, hh.classes, hh.attributes, hh.views⟩

theorem classOf (hh : h.Regular) (hv : h.initialClass v = .kind k) (hk : k.isOpenClass = false) :
    h.classOf v = .kind k := by
  have hnone : h.classes.find? (fun c => c.1.identical v) = none :=
    List.find?_eq_none.mpr fun e he => by
      rw [hh.classes e he v k hv hk]
      exact Bool.false_ne_true
  rw [Heap.classOf, hnone, Option.map_none, Option.getD_none, hv]

section Lineage

variable (hh : h.Regular) (hk : k.lineage.all (!·.isOpenClass) = true)
include hh hk

theorem keepsMembers : h.KeepsMembers k := fun above habove _ hname =>
  hh.members above (by simpa using List.all_eq_true.mp hk above habove) _ hname

theorem classSlot? (m : Method) : h.classSlot? m (.kind k) = start.classSlot? m (.kind k) :=
  (hh.keepsMembers hk).classSlot? m

theorem inherited? {name : String} (hname : name ≠ annotationsAttribute) :
    h.inherited? (.kind k) name = start.inherited? (.kind k) name :=
  (hh.keepsMembers hk).inherited? hname

theorem isOrdinary (hv : h.initialClass v = .kind k) : h.IsOrdinary k v where
  classOf := hh.classOf hv (by simpa using List.all_eq_true.mp hk k (Kind.mem_lineage k))
  members := hh.keepsMembers hk

theorem slot? (hv : h.initialClass v = .kind k) (m : Method) :
    h.slot? m v = start.classSlot? m (.kind k) := (hh.isOrdinary hk hv).slot? m

theorem isOfKind (hv : h.initialClass v = .kind k) (above : Kind) :
    h.isOfKind v above = start.hasKind (.kind k) above := (hh.isOrdinary hk hv).isOfKind above

theorem readsAttributes (hv : h.initialClass v = .kind k)
    (hread : start.classSlot? .readAttribute (.kind k) = none) : h.readsAttributes v = false :=
  (hh.isOrdinary hk hv).readsAttributes hread

end Lineage

end Regular

/-! ## Mappings -/

section Cells

variable {h : Heap} {place : Nat} {es : List Entry}
  (hcell : h.cells[place]? = some ⟨.kind .dict, .dict es⟩)
include hcell

theorem initialClass_of_cell : h.initialClass (.ref place) = .kind .dict := by
  rw [Heap.initialClass, hcell]
  rfl

theorem entries?_of_cell : h.entries? (.ref place) = some es := by
  rw [Heap.entries?, contents?, cell?, hcell]
  rfl

end Cells

/-- A mapping of the built-in class has the given fields as its entries. -/
def HoldsFields (h : Heap) (place : Nat) (fields : List (Name × Value)) : Prop :=
  h.cells[place]? = some ⟨.kind .dict, .dict (keyedFields fields)⟩

namespace HoldsFields

variable {h : Heap} {place : Nat} {fields : List (Name × Value)}

theorem initialClass (hd : h.HoldsFields place fields) :
    h.initialClass (.ref place) = .kind .dict := initialClass_of_cell hd

theorem entries? (hd : h.HoldsFields place fields) :
    h.entries? (.ref place) = some (keyedFields fields) := entries?_of_cell hd

theorem count (hd : h.HoldsFields place fields) : h.count (.ref place) = fields.length := by
  simp only [Heap.count, contained?, contents?, cell?]
  rw [hd]
  simp [keyedFields]

end HoldsFields

end Heap

/-! ## Invariants

What is known of a session has to survive all that the library does next.  An enduring invariant
does so, and `Session.Keeping` adds to it the mappings whose fields are known. -/

namespace Session

/-- A session with a new mapping of the built-in class. -/
def withDict (s : Session) (es : List Entry) : Session :=
  { s with heap := (s.heap.alloc ⟨.kind .dict, .dict es⟩).2 }

/-- An invariant of sessions in which the library can work with mappings. -/
structure Enduring (I : Session → Prop) : Prop extends Lasting I where
  /-- The built-in classes are as they were in the beginning. -/
  regular {s : Session} (hs : I s) : s.heap.Regular
  /-- New mappings do not end it. -/
  withDict {s : Session} (hs : I s) (es : List Entry) : I (s.withDict es)

/-- An invariant of sessions in which the library can work with mappings, as long as nobody else
registers anything. -/
structure Abiding (I : Session → Prop) : Prop extends Steadfast I where
  /-- The built-in classes are as they were in the beginning. -/
  regular {s : Session} (hs : I s) : s.heap.Regular
  /-- New mappings do not end it. -/
  withDict {s : Session} (hs : I s) (es : List Entry) : I (s.withDict es)

theorem Enduring.abiding {I : Session → Prop} (hI : Enduring I) : Abiding I where
  toSteadfast := hI.toLasting.steadfast
  regular hs := hI.regular hs
  withDict hs es := hI.withDict hs es

instance {I : Session → Prop} : Coe (Enduring I) (Abiding I) := ⟨Enduring.abiding⟩

/-- No attribute and no class was assigned to anything, and what is registered by its identity was made
before. -/
structure Untouched (s : Session) : Prop where
  /-- There are no attributes but those from the beginning. -/
  attributes : s.heap.attributes = Heap.start.attributes
  /-- No mapping stands for attributes. -/
  namespaces : s.heap.namespaces = []
  /-- No class was assigned. -/
  classes : s.heap.classes = []
  /-- The identity zero is never handed out. -/
  positive : 0 < s.heap.next
  /-- What is registered was made before. -/
  before : ∀ r ∈ s.register, r.key.hash.IsBefore s.heap.next

namespace Untouched

variable {s : Session}

theorem start : Untouched start where
  attributes := rfl
  namespaces := rfl
  classes := rfl
  positive := by decide
  before _ hr := absurd hr List.not_mem_nil

theorem assigned? (hs : s.Untouched) (v : Value) (name : String) :
    s.heap.assigned? v name = Heap.start.assigned? v name := by
  have hnamespace : s.heap.namespaceEntries v = Heap.start.namespaceEntries v := by
    simp only [Heap.namespaceEntries, Heap.namespace?, hs.namespaces]
    rfl
  rw [Heap.assigned?, hs.attributes, hnamespace, Heap.assigned?]

theorem intact (hs : s.Untouched) : s.heap.Intact where
  members _ _ _ _ := hs.assigned? _ _
  classes e he := by
    rw [hs.classes] at he
    exact absurd he List.not_mem_nil

/-- Values that are no classes have no attributes. -/
theorem bare (hs : s.Untouched) {v : Value} (hv : ∀ c, (Value.ofClass c).identical v = false)
    (name : String) : s.heap.assigned? v name = none := by
  rw [hs.assigned?]
  exact Heap.start_assigned?_of_not_class hv name

theorem regular (hs : s.Untouched) : s.heap.Regular where
  members _ _ _ _ := hs.assigned? _ _
  classes e he := by
    rw [hs.classes] at he
    exact absurd he List.not_mem_nil
  attributes _ _ := hs.bare fun _ => rfl
  views _ _ := hs.bare fun _ => rfl

theorem isOrdinary (hs : s.Untouched) {v : Value} {k : Kind}
    (hv : s.heap.initialClass v = .kind k) : s.heap.IsOrdinary k v where
  classOf := by
    rw [Heap.classOf, hs.classes]
    exact hv
  members _ _ _ _ := hs.assigned? _ _

end Untouched

/-- The library can work for good where nothing was assigned. -/
theorem enduring_untouched : Enduring Untouched where
  sound hs := ⟨hs.intact, hs.positive, hs.before⟩
  notes {s s'} hs hnotes := by
    obtain ⟨-, hpositive, hbefore⟩ := hnotes.sound ⟨hs.intact, hs.positive, hs.before⟩
    refine ⟨?_, ?_, ?_, hpositive, hbefore⟩
    · rw [hnotes.heap]
      exact hs.attributes
    · rw [hnotes.heap]
      exact hs.namespaces
    · rw [hnotes.heap]
      exact hs.classes
  regular hs := hs.regular
  withDict hs _ := ⟨hs.attributes, hs.namespaces, hs.classes, hs.positive, hs.before⟩

/-- An invariant, where certain cells are in their places as well. -/
def Holding (I : Session → Prop) (cells : List (Nat × Cell)) (s : Session) : Prop :=
  I s ∧ ∀ d ∈ cells, s.heap.cells[d.1]? = some d.2

theorem Lasting.holding {I : Session → Prop} (hI : Lasting I) (cells : List (Nat × Cell)) :
    Lasting (Holding I cells) where
  sound hs := hI.sound hs.1
  notes {s s'} hs hnotes := by
    refine ⟨hI.notes hs.1 hnotes, fun d hd => ?_⟩
    rw [hnotes.heap]
    exact hs.2 d hd

namespace Holding

variable {cells : List (Nat × Cell)} {s : Session} (hs : Holding Untouched cells s) {place : Nat}
include hs

theorem isOrdinary {k : Kind} {contents : Contents}
    (hmem : (place, ⟨.kind k, contents⟩) ∈ cells) : s.heap.IsOrdinary k (.ref place) :=
  hs.1.isOrdinary (by rw [Heap.initialClass, hs.2 _ hmem]; rfl)

theorem contents? {cls : Class} {contents : Contents} (hmem : (place, ⟨cls, contents⟩) ∈ cells) :
    s.heap.contents? (.ref place) = some contents := by
  rw [Heap.contents?, Heap.cell?, hs.2 _ hmem]
  rfl

end Holding

/-- An invariant, where mappings have certain fields as well. -/
def Keeping (I : Session → Prop) (ds : List (Nat × List (Name × Value))) (s : Session) : Prop :=
  I s ∧ ∀ d ∈ ds, s.heap.HoldsFields d.1 d.2

/-- Making a new mapping leaves the others as they are. -/
theorem getElem?_withDict {s : Session} {place : Nat} {cell : Cell}
    (hcell : s.heap.cells[place]? = some cell) (es : List Entry) :
    (s.withDict es).heap.cells[place]? = some cell := by
  have hlt : place < s.heap.cells.size := (Array.getElem?_eq_some_iff.mp hcell).1
  change (s.heap.cells.push _)[place]? = _
  rw [Array.getElem?_push_lt hlt, ← Array.getElem?_eq_getElem hlt]
  exact hcell

theorem holdsFields_kept {s : Session} {place : Nat} {fields : List (Name × Value)}
    (hd : s.heap.HoldsFields place fields) (es : List Entry) :
    (s.withDict es).heap.HoldsFields place fields := getElem?_withDict hd es

theorem Enduring.keeping {I : Session → Prop} (hI : Enduring I)
    (ds : List (Nat × List (Name × Value))) : Enduring (Keeping I ds) where
  sound hs := hI.sound hs.1
  notes {s s'} hs hnotes := by
    refine ⟨hI.notes hs.1 hnotes, fun d hd => ?_⟩
    rw [hnotes.heap]
    exact hs.2 d hd
  regular hs := hI.regular hs.1
  withDict hs es := ⟨hI.withDict hs.1 es, fun d hd => holdsFields_kept (hs.2 d hd) es⟩

theorem Abiding.keeping {I : Session → Prop} (hI : Abiding I)
    (ds : List (Nat × List (Name × Value))) : Abiding (Keeping I ds) where
  sound hs := hI.sound hs.1
  adds {s s'} hs hadds := by
    refine ⟨hI.adds hs.1 hadds, fun d hd => ?_⟩
    rw [hadds.heap]
    exact hs.2 d hd
  regular hs := hI.regular hs.1
  withDict hs es := ⟨hI.withDict hs.1 es, fun d hd => holdsFields_kept (hs.2 d hd) es⟩

/-- A predicate that was made before stays unregistered as long as nobody else registers it. -/
theorem Abiding.unregistered {I : Session → Prop} (hI : Abiding I) (id : Nat) :
    Abiding fun s => I s ∧ id < s.heap.next ∧
      ∀ r ∈ s.register, r.key.hash.same (.token (.id id)) = false where
  sound hs := hI.sound hs.1
  adds hs hadds := ⟨hI.adds hs.1 hadds, Nat.lt_of_lt_of_le hs.2.1 hadds.next,
    hadds.unregistered hs.2.1 hs.2.2⟩
  regular hs := hI.regular hs.1
  withDict hs es := ⟨hI.withDict hs.1 es, hs.2⟩

theorem keeping_keeping (I : Session → Prop) (ds ds' : List (Nat × List (Name × Value))) :
    Keeping (Keeping I ds) ds' = Keeping I (ds ++ ds') := by
  funext s
  simp only [Keeping, List.forall_mem_append, and_assoc]

theorem keeping_nil (I : Session → Prop) : Keeping I [] = I := by
  funext s
  simp [Keeping]

theorem leadsTo_withDict (s : Session) (es : List Entry) : s.LeadsTo (s.withDict es) :=
  ⟨Nat.le_refl _, fun _ r hr => ⟨r, hr, rfl, fun _ => rfl⟩⟩

theorem holdsFields_withDict (s : Session) (fields : List (Name × Value)) :
    (s.withDict (keyedFields fields)).heap.HoldsFields s.heap.cells.size fields := by
  change (s.heap.cells.push _)[s.heap.cells.size]? = _
  exact Array.getElem?_push_size

end Session

namespace Run

/-- A computation settles on a result with a property wherever an invariant holds, whatever mappings
are kept. -/
def Steadily {α : Type} (c : Conduct) (I : Session → Prop) (m : Run α) (P : α → Prop) : Prop :=
  ∀ ds s, Session.Keeping I ds s → Settles c (Session.Keeping I ds) s m fun a _ => P a

namespace Steadily

variable {α : Type} {c : Conduct} {I : Session → Prop} {m : Run α} {P Q : α → Prop}

theorem settles (h : Steadily c I m P) {s : Session} (hs : I s) :
    Settles c I s m fun a _ => P a := by
  have h := h []
  rw [Session.keeping_nil] at h
  exact h s hs

theorem keeping (h : Steadily c I m P) (ds : List (Nat × List (Name × Value))) :
    Steadily c (Session.Keeping I ds) m P := by
  intro ds'
  rw [Session.keeping_keeping]
  exact h (ds ++ ds')

theorem mono (h : Steadily c I m P) (hPQ : ∀ a, P a → Q a) : Steadily c I m Q :=
  fun ds s hs => (h ds s hs).mono fun a _ _ _ => hPQ a

end Steadily

/-- A computation settles on a result with a property from a session on, whatever mappings are kept.
The property lasts. -/
structure SettlesFrom {α : Type} (c : Conduct) (I : Session → Prop) (s : Session) (m : Run α)
    (P : α → Session → Prop) : Prop where
  /-- It settles at any later time. -/
  settles (ds : List (Nat × List (Name × Value))) {s' : Session} (hle : s.LeadsTo s')
    (hs' : Session.Keeping I ds s') : Settles c (Session.Keeping I ds) s' m P
  /-- The property lasts. -/
  lasts {a : α} {s' s'' : Session} (ha : P a s') (hle : s'.LeadsTo s'') : P a s''

/-- A result has all properties together that a computation settles on one by one. -/
theorem SettlesFrom.forall {α : Type} {ι : Sort _} [Nonempty ι] {c : Conduct} {I : Session → Prop}
    {s : Session} {m : Run α} {P : ι → α → Session → Prop}
    (h : ∀ i, SettlesFrom c I s m (P i)) : SettlesFrom c I s m fun a s' => ∀ i, P i a s' where
  settles ds s' hle hs' := by
    obtain ⟨i⟩ := ‹Nonempty ι›
    obtain ⟨a, s'', ha, hle', hs'', -⟩ := (h i).settles ds hle hs'
    refine ⟨a, s'', ha, hle', hs'', fun j => ?_⟩
    -- The computation is the same one for all properties, and ends in one way only.
    obtain ⟨a', t, ha', -, -, hP⟩ := (h j).settles ds hle hs'
    cases ha.symm.trans ha'
    exact hP
  lasts ha hle i := (h i).lasts (ha i) hle

theorem Steadily.from {α : Type} {c : Conduct} {I : Session → Prop} {m : Run α} {P : α → Prop}
    (h : Steadily c I m P) (s : Session) : SettlesFrom c I s m fun a _ => P a where
  settles ds _ _ hs' := h ds _ hs'
  lasts ha _ := ha

end Run

namespace Run.Settles

variable {α : Type} {c : Conduct} {I : Session → Prop} {s : Session} {m : Run α}
  {P : α → Session → Prop}

/-- What settles while mappings are kept settles all the more, and keeps them. -/
theorem of_keeping (ds : List (Nat × List (Name × Value)))
    (hm : Settles c (Session.Keeping I ds) s m P) :
    Settles c I s m fun a s' => P a s' ∧ ∀ d ∈ ds, s'.heap.HoldsFields d.1 d.2 := by
  obtain ⟨a, s', ha, hle, hs', hP⟩ := hm
  exact ⟨a, s', ha, hle, hs'.1, hP, hs'.2⟩

end Run.Settles

end ValueShape
