import ValueShape.Conduct.Attribute
import ValueShape.Proofs.Exec

/-!
# The classes of the library

The classes that the library itself works with, as long as nobody has changed them.

* `Value.coreKind?` is the kind of the values that the library makes itself: predicates, records,
  functions, and the texts and tuples inside records.
* `Heap.Intact` says that these kinds and those above them still have the members that they began
  with, and that none of these values was moved to another class.
* In such a heap the class and the methods of these values are known, and each field of a predicate
  or a record is found as what it is: `Heap.Intact.classOf`, `Heap.Intact.slot?` and
  `Heap.Intact.find?_field`.
-/

set_option autoImplicit false

namespace ValueShape

/-! ## Core kinds

The library makes values of a few kinds itself.  As long as their classes are as they were in the
beginning, it knows what these values do. -/

/-- The kinds that the library itself works with, and the one above them. -/
def Kind.isCore : Kind → Bool
  | object | function | predicate | metadata | text | tuple => true
  | _ => false

/-- The kind of a value that the library makes itself. -/
def Value.coreKind? : Value → Option Kind
  | .predicate .. => some .predicate
  | .metadata (.kind .metadata) .. => some .metadata
  | .tuple (.kind .tuple) .. => some .tuple
  | .scalar (.kind .text) _ _ => some .text
  | .rule .. | .leaf _ | .operation _ | .function .. => some .function
  | _ => none

/-- The name of the attribute that holds what a class says about its fields.  It is made when it is
first read. -/
def annotationsAttribute : String := "__annotations__"

namespace Heap

/-- The core kinds have the members that they began with, and the values of the library are of the
classes that they were made with. -/
structure Intact (h : Heap) : Prop where
  /-- The members are those from the beginning. -/
  members (k : Kind) (hk : k.isCore = true) (name : String) (hname : name ≠ annotationsAttribute) :
    h.assigned? (.ofClass (.kind k)) name = start.assigned? (.ofClass (.kind k)) name
  /-- No class was assigned to a value of the library. -/
  classes (e : Value × Class) (he : e ∈ h.classes) (v : Value) (hv : v.coreKind?.isSome = true) :
    e.1.identical v = false

theorem start_intact : start.Intact where
  members _ _ _ _ := rfl
  classes _ he := absurd he List.not_mem_nil

end Heap

theorem Value.isCore_of_coreKind? {v : Value} {k : Kind} (hv : v.coreKind? = some k) :
    k.isCore = true := by
  unfold coreKind? at hv
  split at hv <;> cases hv <;> rfl

theorem Value.initialClass_of_coreKind? {v : Value} {k : Kind} (hv : v.coreKind? = some k)
    (h : Heap) : h.initialClass v = .kind k := by
  unfold coreKind? at hv
  split at hv <;> cases hv <;> rfl

/-- What stands above a core kind is a core kind. -/
theorem Kind.isCore_of_mem_lineage {k above : Kind} (hk : k.isCore = true)
    (habove : above ∈ k.lineage) : above.isCore = true := by
  have hall : k.lineage.all isCore = true := by
    unfold isCore at hk
    split at hk <;> first | rfl | exact absurd hk Bool.false_ne_true
  exact List.all_eq_true.mp hall above habove

theorem Method.name_ne_annotations (m : Method) : m.name ≠ annotationsAttribute := by
  cases m <;> decide

/-- No field has the name of something else that is looked for in a value. -/
theorem Kind.name_ne_of_mem_fields {k sort : Kind} {name : String}
    (hfield : (name, sort) ∈ k.fields) :
    name ≠ annotationsAttribute ∧ name ≠ Heap.classAttribute ∧ name ≠ Heap.nameField := by
  unfold fields at hfield
  split at hfield
  all_goals
    simp only [List.mem_cons, Prod.mk.injEq, List.not_mem_nil, or_false] at hfield
  · rcases hfield with ⟨rfl, -⟩ | ⟨rfl, -⟩ <;> decide
  · rcases hfield with ⟨rfl, -⟩ | ⟨rfl, -⟩ <;> decide
  · rcases hfield with ⟨rfl, -⟩ | ⟨rfl, -⟩ | ⟨rfl, -⟩ | ⟨rfl, -⟩ | ⟨rfl, -⟩ | ⟨rfl, -⟩ | ⟨rfl, -⟩ <;>
      decide

theorem Kind.fieldKind_of_mem_fields {k sort : Kind} {name : String}
    (hfield : (name, sort) ∈ k.fields) : k.fieldKind name = sort := by
  unfold fields at hfield
  split at hfield
  all_goals
    simp only [List.mem_cons, Prod.mk.injEq, List.not_mem_nil, or_false] at hfield
  · rcases hfield with ⟨rfl, rfl⟩ | ⟨rfl, rfl⟩ <;> rfl
  · rcases hfield with ⟨rfl, rfl⟩ | ⟨rfl, rfl⟩ <;> rfl
  · rcases hfield with ⟨rfl, rfl⟩ | ⟨rfl, rfl⟩ | ⟨rfl, rfl⟩ | ⟨rfl, rfl⟩ | ⟨rfl, rfl⟩ | ⟨rfl, rfl⟩ |
      ⟨rfl, rfl⟩ <;> rfl

/-- The name of a function is the one that it was made with, unless it was given another one. -/
theorem Heap.find?_name (h : Heap) {v : Value} (hv : v.coreKind? = some .function) :
    h.find? v nameField = (h.nameAttribute v).map .value := by
  unfold Value.coreKind? at hv
  split at hv <;> cases hv <;> rfl

/-! ## Members that stay -/

/-- The class of a kind and those above it have the members that they began with. -/
def Heap.KeepsMembers (h : Heap) (k : Kind) : Prop :=
  ∀ above ∈ k.lineage, ∀ name, name ≠ annotationsAttribute →
    h.assigned? (.ofClass (.kind above)) name = start.assigned? (.ofClass (.kind above)) name

namespace Heap.KeepsMembers

variable {h : Heap} {k : Kind}

theorem findSome?_lineage (h : Heap) {α : Type} {f g : Class → Option α}
    (hfg : ∀ above ∈ k.lineage, f (.kind above) = g (.kind above)) :
    (h.lineage (.kind k)).findSome? f = (start.lineage (.kind k)).findSome? g := by
  simp only [Heap.lineage, List.findSome?_map]
  generalize k.lineage = ks at hfg ⊢
  induction ks with
  | nil => rfl
  | cons above ks ih =>
    have hks := ih fun b hb => hfg b (List.mem_cons_of_mem _ hb)
    simp only [List.findSome?_cons, Function.comp_apply, hfg above List.mem_cons_self, hks]

theorem classSlot? (hk : h.KeepsMembers k) (m : Method) :
    h.classSlot? m (.kind k) = start.classSlot? m (.kind k) := by
  refine findSome?_lineage h fun above habove => ?_
  simp only [ownSlot?, hk above habove m.name m.name_ne_annotations]

theorem inherited? (hk : h.KeepsMembers k) {name : String} (hname : name ≠ annotationsAttribute) :
    h.inherited? (.kind k) name = start.inherited? (.kind k) name := by
  simp only [Heap.inherited?]
  split
  · rfl
  · refine findSome?_lineage h fun above habove => ?_
    simp only [ownMember?, hk above habove name hname]

end Heap.KeepsMembers

/-- A value belongs to the class of a kind, which has kept its members. -/
structure Heap.IsOrdinary (h : Heap) (k : Kind) (v : Value) : Prop where
  /-- It belongs to the class. -/
  classOf : h.classOf v = .kind k
  /-- The members are those from the beginning. -/
  members : h.KeepsMembers k

namespace Heap.IsOrdinary

variable {h : Heap} {v : Value} {k : Kind}

theorem slot? (hv : h.IsOrdinary k v) (m : Method) : h.slot? m v = start.classSlot? m (.kind k) := by
  rw [Heap.slot?, hv.classOf, hv.members.classSlot?]

theorem isOfKind (hv : h.IsOrdinary k v) (above : Kind) :
    h.isOfKind v above = start.hasKind (.kind k) above := by
  rw [Heap.isOfKind, isInstance, hv.classOf]
  rfl

end Heap.IsOrdinary

/-! ## Intact heaps -/

namespace Heap.Intact

variable {h : Heap} {v : Value} {k : Kind}

theorem withNext (hh : h.Intact) (n : Nat) : { h with next := n }.Intact :=
  ⟨hh.members, hh.classes⟩

theorem classOf (hh : h.Intact) (hv : v.coreKind? = some k) : h.classOf v = .kind k := by
  have hnone : h.classes.find? (fun c => c.1.identical v) = none :=
    List.find?_eq_none.mpr fun e he => by
      rw [hh.classes e he v (by rw [hv]; rfl)]
      exact Bool.false_ne_true
  rw [Heap.classOf, hnone, Option.map_none, Option.getD_none, Value.initialClass_of_coreKind? hv]

/-- Going up from a core kind, the same members are met as in the beginning. -/
theorem keepsMembers (hh : h.Intact) (hk : k.isCore = true) : h.KeepsMembers k :=
  fun _ habove _ hname => hh.members _ (Kind.isCore_of_mem_lineage hk habove) _ hname

theorem classSlot? (hh : h.Intact) (hk : k.isCore = true) (m : Method) :
    h.classSlot? m (.kind k) = start.classSlot? m (.kind k) :=
  (hh.keepsMembers hk).classSlot? m

theorem inherited? (hh : h.Intact) (hk : k.isCore = true) {name : String}
    (hname : name ≠ annotationsAttribute) :
    h.inherited? (.kind k) name = start.inherited? (.kind k) name :=
  (hh.keepsMembers hk).inherited? hname

theorem isOrdinary (hh : h.Intact) (hv : v.coreKind? = some k) : h.IsOrdinary k v :=
  ⟨hh.classOf hv, hh.keepsMembers (Value.isCore_of_coreKind? hv)⟩

theorem slot? (hh : h.Intact) (hv : v.coreKind? = some k) (m : Method) :
    h.slot? m v = start.classSlot? m (.kind k) := (hh.isOrdinary hv).slot? m

theorem isOfKind (hh : h.Intact) (hv : v.coreKind? = some k) (above : Kind) :
    h.isOfKind v above = start.hasKind (.kind k) above := (hh.isOrdinary hv).isOfKind above

/-- No core kind answers in its own way when attributes are read. -/
theorem slot?_reading (hh : h.Intact) (hv : v.coreKind? = some k) :
    h.slot? .readAttribute v = none ∧ h.slot? .missingAttribute v = none := by
  have hk := Value.isCore_of_coreKind? hv
  rw [hh.slot? hv, hh.slot? hv]
  unfold Kind.isCore at hk
  split at hk <;> first | exact ⟨rfl, rfl⟩ | exact absurd hk Bool.false_ne_true

/-- Each field of a core kind stands in its class as a part of the objects. -/
theorem inherited?_field (hh : h.Intact) (hk : k.isCore = true) {name : String} {sort : Kind}
    (hfield : (name, sort) ∈ k.fields) :
    h.inherited? (.kind k) name = some (.assigned (.field k name)) ∧
      k.memberSort? name = none ∧ h.isPart (.assigned (.field k name)) = true := by
  have hstart : start.inherited? (.kind k) name = some (.assigned (.field k name)) ∧
      k.memberSort? name = none ∧ h.isPart (.assigned (.field k name)) = true := by
    unfold Kind.fields at hfield
    split at hfield
    all_goals
      simp only [List.mem_cons, Prod.mk.injEq, List.not_mem_nil, or_false] at hfield
    · cases hk
    · rcases hfield with ⟨rfl, -⟩ | ⟨rfl, -⟩ <;> exact ⟨rfl, rfl, rfl⟩
    · rcases hfield with ⟨rfl, -⟩ | ⟨rfl, -⟩ | ⟨rfl, -⟩ | ⟨rfl, -⟩ | ⟨rfl, -⟩ | ⟨rfl, -⟩ | ⟨rfl, -⟩ <;>
        exact ⟨rfl, rfl, rfl⟩
  exact ⟨(hh.inherited? hk (Kind.name_ne_of_mem_fields hfield).1).trans hstart.1, hstart.2⟩

/-- A field of a predicate or a record is found as a part of it. -/
theorem find?_field (hh : h.Intact) (hv : v.coreKind? = some k) {name : String} {sort : Kind}
    (hfield : (name, sort) ∈ k.fields) : h.find? v name = some (.part k name) := by
  have hk := Value.isCore_of_coreKind? hv
  obtain ⟨-, hclass, hname⟩ := Kind.name_ne_of_mem_fields hfield
  obtain ⟨hin, hsort, hpart⟩ := hh.inherited?_field hk hfield
  have hfound : h.findInObject? v name = some (.part k name) := by
    rw [findInObject?, hh.classOf hv, hin]
    simp only [hpart, if_true, foundInClass, hsort]
  have hfind : ∀ o : Option Found, o = some (.part k name) →
      (o.or (h.findOfMember? v name)).or ((h.placeAttribute? v name).map .value) =
        some (.part k name) := by
    rintro _ rfl
    rfl
  -- None of these values is a class, a class with a parameter or a method.
  unfold Value.coreKind? at hv
  split at hv
  all_goals
    cases hv
  all_goals
    simp only [find?, beq_eq_false_iff_ne.mpr hclass, beq_eq_false_iff_ne.mpr hname,
      Bool.false_eq_true, if_false]
    exact hfind _ hfound

end Heap.Intact

end ValueShape
