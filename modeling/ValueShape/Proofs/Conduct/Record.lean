import ValueShape.Ask.Call
import ValueShape.Proofs.Conduct.Array
import ValueShape.Proofs.Store.Intact
import ValueShape.Provenance

/-!
# Reading predicates and records

What the readings of predicates and of metadata give, as long as their classes are intact: the
fields that they were made with.  A name that has just been computed gets an identity, and nothing
else happens.
-/

set_option autoImplicit false

namespace ValueShape

/-- A number, a text or bytes that have an identity, or any other value.  So is every value that a
caller can hold. -/
def Value.isIdentified : Value → Bool
  | .scalar c id s => id != unidentified || isUnique c s
  | _ => true

/-- Objects whose class leaves the reading of attributes alone do not answer for it. -/
theorem Heap.IsOrdinary.readsAttributes {h : Heap} {v : Value} {k : Kind} (hv : h.IsOrdinary k v)
    (hread : start.classSlot? .readAttribute (.kind k) = none) : h.readsAttributes v = false := by
  rw [Heap.readsAttributes, hv.slot?, hread]

namespace Heap.Intact

variable {h : Heap} {v : Value} {k : Kind}

theorem readsAttributes (hh : h.Intact) (hv : v.coreKind? = some k) :
    h.readsAttributes v = false := by
  rw [Heap.readsAttributes, (hh.slot?_reading hv).1]

end Heap.Intact

namespace Run

variable (c : Conduct) {s : Session} {v : Value} {k : Kind}

theorem exec_identified_of_isIdentified (hv : v.isIdentified = true) :
    exec c (identified v) s = .ok v s := by
  cases v with
  | scalar cls id scalar =>
    rw [Value.isIdentified] at hv
    rw [identified, if_pos hv, exec_pure]
  | _ => rfl

/-! ## Fields

The fields of a predicate are attributes like others.  They are found in its class, which says where
the value itself keeps them. -/

/-- A value whose class leaves the reading of attributes alone gives what is found. -/
theorem exec_readAttributeUpTo (hread : s.heap.slot? .readAttribute v = none)
    (hmissing : s.heap.slot? .missingAttribute v = none) (fuel : Nat) (name : String) :
    exec c (readAttributeUpTo (fuel + 1) v name) s =
      exec c (readFound (readAttributeUpTo fuel) v name (s.heap.find? v name)) s := by
  simp only [readAttributeUpTo, exec_bind, exec_heap, Ending.andThen_ok, hread, hmissing, exec_map]
  rcases exec c (readFound (readAttributeUpTo fuel) v name (s.heap.find? v name)) s with
    ⟨a, s'⟩ | ⟨e, s'⟩ <;> rfl

theorem exec_readField (hs : s.heap.Intact) (hv : v.coreKind? = some k) {name : String}
    {sort : Kind} (hfield : (name, sort) ∈ k.fields) (fuel : Nat) :
    exec c (readAttributeUpTo (fuel + 1) v name) s =
      exec c (readPart (readAttributeUpTo fuel) v k name) s := by
  obtain ⟨hread, hmissing⟩ := hs.slot?_reading hv
  rw [exec_readAttributeUpTo c hread hmissing, hs.find?_field hv hfield]
  rfl

/-- A field that is computed tells the one that is stored. -/
theorem exec_readComputed (hs : s.heap.Intact) (hv : v.coreKind? = some k) {name : String}
    (hfield : (name, .computedField) ∈ k.fields) (fuel : Nat) :
    exec c (readAttributeUpTo (fuel + 1) v name) s =
      exec c (readAttributeUpTo fuel v (Heap.storedField name)) s := by
  rw [exec_readField c hs hv hfield, readPart, exec_bind, exec_heap, Ending.andThen_ok,
    Kind.fieldKind_of_mem_fields hfield]
  rfl

/-- A field that is stored has the value that the object was made with. -/
theorem exec_readStored (hs : s.heap.Intact) (hv : v.coreKind? = some k) {name : String}
    (hfield : (name, .memberField) ∈ k.fields) {part : Value}
    (hpart : s.heap.part? v name = some part) (fuel : Nat) :
    exec c (readAttributeUpTo (fuel + 1) v name) s = exec c (identified part) s := by
  have hkind : s.heap.isOfKind v k = true := by
    rw [hs.isOfKind hv]
    exact List.any_eq_true.mpr ⟨k, by simp [Heap.kinds, Heap.lineage, Kind.mem_lineage],
      Kind.isA_refl k⟩
  rw [exec_readField c hs hv hfield, readPart, exec_bind, exec_heap, Ending.andThen_ok,
    Kind.fieldKind_of_mem_fields hfield, hkind, hpart]
  rfl

section Predicate

variable (hs : s.heap.Intact) (id : Nat) (name : Name) (facets : Facets) (decider : Value)
include hs

theorem exec_readOptional :
    exec c (readAttribute (.predicate id name facets decider) Modifier.optional.name) s =
      .ok (.bool facets.optional) s := by
  rw [readAttribute, exec_readComputed c hs rfl (by decide) 999]
  have hpart : s.heap.part? (.predicate id name facets decider) "_optional" = some (.bool facets.optional) := rfl
  exact exec_readStored c hs rfl (by decide) hpart 998

theorem exec_readReadonly :
    exec c (readAttribute (.predicate id name facets decider) Modifier.readonly.name) s =
      .ok (.bool facets.readonly) s := by
  rw [readAttribute, exec_readComputed c hs rfl (by decide) 999]
  have hpart : s.heap.part? (.predicate id name facets decider) "_readonly" = some (.bool facets.readonly) := rfl
  exact exec_readStored c hs rfl (by decide) hpart 998

theorem exec_readName :
    exec c (readAttribute (.predicate id name facets decider) nameAttribute) s =
      exec c (identified (.ofName name)) s := by
  rw [readAttribute, exec_readComputed c hs rfl (by decide) 999]
  have hpart : s.heap.part? (.predicate id name facets decider) "_name" = some (.ofName name) := rfl
  exact exec_readStored c hs rfl (by decide) hpart 998

theorem exec_isPredicate :
    exec c (isOfKind (.predicate id name facets decider) .predicate) s = .ok true s := by
  rw [exec_isOfKind c (hs.readsAttributes rfl), hs.isOfKind rfl]
  rfl

theorem exec_displayName :
    exec c (displayName (.predicate id name facets decider)) s =
      exec c (identified (.ofName name)) s := by
  rw [displayName, exec_bind, exec_isPredicate c hs, Ending.andThen_ok, if_pos rfl,
    exec_readName c hs]

end Predicate

section Metadata

variable (hs : s.heap.Intact) (id : Nat) (factory : Name) (args : Value)
include hs

theorem exec_readFactory :
    exec c (readAttribute (.metadata (.kind .metadata) id factory args) nameAttribute) s =
      exec c (identified (.ofName factory)) s := by
  have hpart : s.heap.part? (.metadata (.kind .metadata) id factory args) nameAttribute =
      some (.ofName factory) := rfl
  exact exec_readStored c hs rfl (by decide) hpart 999

theorem exec_readArguments :
    exec c (readAttribute (.metadata (.kind .metadata) id factory args) argumentsAttribute) s =
      exec c (identified args) s := by
  have hpart : s.heap.part? (.metadata (.kind .metadata) id factory args) argumentsAttribute =
      some args := rfl
  exact exec_readStored c hs rfl (by decide) hpart 999

end Metadata

/-! ## Texts and tuples -/

section Text

variable (hs : s.heap.Intact) (id : Nat) {text : String} (hlt : text.length < maxIndex)
include hs

theorem exec_isText (text : String) :
    exec c (isOfKind (.scalar (.kind .text) id (.text text)) .text) s = .ok true s := by
  rw [exec_isOfKind c (hs.readsAttributes rfl), hs.isOfKind rfl]
  rfl

include hlt

theorem exec_truth_text :
    exec c (truth (.scalar (.kind .text) id (.text text))) s = .ok (text.length != 0) s := by
  have hslot (m : Method) : s.heap.slot? m (.scalar (.kind .text) id (.text text)) =
      Heap.start.classSlot? m (.kind .text) := hs.slot? rfl m
  have hcount : s.heap.count (.scalar (.kind .text) id (.text text)) = text.length := by
    simp [Heap.count, Heap.contents?, Heap.cell?, Heap.contained?, Heap.textItems,
      String.length_toList]
  have hsize : exec c (size (.scalar (.kind .text) id (.text text))) s = .ok text.length s := by
    simp only [size, exec_bind, exec_heap, Ending.andThen_ok, hslot]
    exact exec_nativeSize c rfl (by decide) hcount hlt
  simp only [truth, exec_bind, exec_heap, Ending.andThen_ok, hslot]
  change exec c (do return (← size _) != 0) s = _
  rw [exec_bind, hsize, Ending.andThen_ok, exec_pure]

theorem exec_isName (hne : text ≠ "") :
    exec c (isName (.scalar (.kind .text) id (.text text))) s = .ok true s := by
  have htruth : (text.length != 0) = true := by simpa using hne
  rw [isName, exec_bind, exec_isText c hs, Ending.andThen_ok, if_pos rfl,
    exec_truth_text c hs id hlt, htruth]

end Text

theorem exec_isTuple (hs : s.heap.Intact) (id : Nat) (items : List Value) :
    exec c (isOfKind (.tuple (.kind .tuple) id items) .tuple) s = .ok true s := by
  rw [exec_isOfKind c (hs.readsAttributes rfl), hs.isOfKind rfl]
  rfl

theorem readsPlainly_tuple (hs : s.heap.Intact) {m : Method}
    (hm : Heap.start.classSlot? m (.kind .tuple) = some (.native .tuple)) (id : Nat)
    (items : List Value) : s.heap.ReadsPlainly m items (.tuple (.kind .tuple) id items) :=
  .tuple ((hs.slot? rfl m).trans hm)

/-! ## Making records -/

/-- What is stored in a field of a predicate or a record is a part of the value anyway. -/
theorem exec_storeField (hs : s.heap.Intact) (hv : v.coreKind? = some k) {name : String}
    {sort : Kind} (hfield : (name, sort) ∈ k.fields) (value : Value) :
    exec c (storeField v name value) s = .ok () s := by
  obtain ⟨hin, -, -⟩ := hs.inherited?_field (Value.isCore_of_coreKind? hv) hfield
  rw [storeField, exec_bind, exec_heap, Ending.andThen_ok, hs.classOf hv, hin]
  rfl

/-- A new record of a factory that is named by a text of the built-in class. -/
theorem exec_newMetadata (hs : s.heap.Intact) {factory : Name} (hcls : factory.cls = .kind .text)
    (hfactory : (Value.ofName factory).isIdentified = true) (hne : factory.text ≠ "")
    (hlt : factory.text.length < maxIndex) (id : Nat) (items : List Value) :
    exec c (newMetadata (.kind .metadata) (.ofName factory) (.tuple (.kind .tuple) id items)) s =
      .ok (.metadata (.kind .metadata) s.heap.next factory (.tuple (.kind .tuple) id items))
        (s.withNext (s.heap.next + 1)) := by
  obtain ⟨text, cls, idName⟩ := factory
  subst hcls
  have hs' : (s.withNext (s.heap.next + 1)).heap.Intact := hs.withNext _
  have hname : (nameAttribute, Kind.memberField) ∈ Kind.metadata.fields := by decide
  have hargs : (argumentsAttribute, Kind.memberField) ∈ Kind.metadata.fields := by decide
  rw [newMetadata]
  simp only [Value.ofName, Value.name?, exec_bind, exec_fresh, Ending.andThen_ok]
  rw [exec_storeField c hs' rfl hname, Ending.andThen_ok,
    exec_storeField c hs' rfl hargs, Ending.andThen_ok, exec_readFactory c hs',
    exec_identified_of_isIdentified c hfactory, Ending.andThen_ok, Value.ofName,
    exec_isName c hs' _ hlt hne, Ending.andThen_ok, if_neg (by decide), exec_bind,
    exec_readArguments c hs', exec_identified_of_isIdentified c rfl, Ending.andThen_ok, exec_bind,
    exec_isTuple c hs', Ending.andThen_ok, if_pos rfl, exec_pure]

/-! ## Comparing -/

/-- Comparing two values gives what the first one answers. -/
theorem exec_compare_of_answer (host : Host) (n : Nat) {v w result : Value}
    (hclass : s.heap.asksSecondFirst v w = false)
    (hanswer : exec (Ask.conduct host n) (answer v w) s = .ok (some result) s) :
    exec (Ask.conduct host (n + 1)) (compare v w) s = .ok result s := by
  change exec (Ask.conduct host n) (compareOnce v w) s = _
  rw [compareOnce, exec_bind, exec_heap, Ending.andThen_ok, hclass]
  simp only [Bool.false_eq_true, if_false, exec_bind, hanswer, Ending.andThen_ok, exec_pure]

theorem exec_equal_of_compare {c : Conduct} {v w : Value} {b : Bool}
    (hcompare : exec c (compare v w) s = .ok (.bool b) s) : exec c (equal v w) s = .ok b s := by
  rw [equal, exec_bind, hcompare, Ending.andThen_ok, truth_bool, exec_pure]

theorem asksSecondFirst_of_classOf {h : Heap} {v w : Value} (hclass : h.classOf v = h.classOf w) :
    h.asksSecondFirst v w = false := by
  rw [Heap.asksSecondFirst, hclass, bne_self_eq_false, Bool.false_and]

theorem exec_compare_predicate (host : Host) (n : Nat) (hs : s.heap.Intact) {id : Nat}
    (hid : id ≠ 0) (name : Name) (facets : Facets) (decider : Value) :
    let q := Value.predicate id name facets decider
    exec (Ask.conduct host (n + 1)) (equal q q) s = .ok true s := by
  intro q
  have hsame : q.identical q = true := by simp [q, Value.identical, hid]
  have hanswer : exec (Ask.conduct host n) (answer q q) s = .ok (some (.bool true)) s := by
    rw [answer, exec_bind, exec_heap, Ending.andThen_ok, hs.slot? rfl]
    change exec _ (pure (if q.identical q then some (Value.bool true) else none)) s = _
    rw [hsame, exec_pure]
    rfl
  exact exec_equal_of_compare
    (exec_compare_of_answer host n (asksSecondFirst_of_classOf rfl) hanswer)

theorem exec_equal_text (host : Host) (n : Nat) (hs : s.heap.Intact) (id id' : Nat)
    (text text' : String) :
    let v := Value.scalar (.kind .text) id (.text text)
    let w := Value.scalar (.kind .text) id' (.text text')
    exec (Ask.conduct host (n + 1)) (equal v w) s = .ok (text == text') s := by
  intro v w
  have hanswer : exec (Ask.conduct host n) (answer v w) s =
      .ok (some (.bool (text == text'))) s := by
    rw [answer, exec_bind, exec_heap, Ending.andThen_ok, hs.slot? rfl]
    rfl
  have hclass : s.heap.classOf v = s.heap.classOf w := by
    rw [hs.classOf (v := v) rfl, hs.classOf (v := w) rfl]
  exact exec_equal_of_compare
    (exec_compare_of_answer host n (asksSecondFirst_of_classOf hclass) hanswer)

theorem exec_differ_text (c : Conduct) (hs : s.heap.Intact) (id id' : Nat) (text text' : String) :
    let v := Value.scalar (.kind .text) id (.text text)
    let w := Value.scalar (.kind .text) id' (.text text')
    exec c (differ v w) s = .ok (!(text == text')) s := by
  intro v w
  have hclass : s.heap.asksSecondFirst v w = false :=
    asksSecondFirst_of_classOf (by rw [hs.classOf (v := v) rfl, hs.classOf (v := w) rfl])
  have hanswer : exec c (contraryAnswer v w) s = .ok (some (.bool (!(text == text')))) s := by
    rw [contraryAnswer, exec_bind, exec_heap, Ending.andThen_ok, hs.slot? (v := v) rfl]
    rfl
  rw [differ, exec_bind, exec_heap, Ending.andThen_ok, hclass]
  simp only [Bool.false_eq_true, if_false, exec_bind, hanswer, Ending.andThen_ok, truth_bool,
    exec_pure]

/-! ## Hashing -/

/-- A predicate is found by its identity. -/
theorem exec_keyed_predicate (host : Host) (n : Nat) (hs : s.heap.Intact) (id : Nat) (name : Name)
    (facets : Facets) (decider : Value) :
    let q := Value.predicate id name facets decider
    exec (Ask.conduct host (n + 1)) (keyed q) s = .ok ⟨q, .token (.id id)⟩ s := by
  intro q
  have hhash : exec (Ask.conduct host (n + 1)) (hash q) s = .ok (.token (.id id)) s := by
    change exec (Ask.conduct host n) (hashOnce q) s = _
    rw [hashOnce, exec_bind, exec_heap, Ending.andThen_ok, hs.slot? rfl]
    rfl
  rw [keyed, exec_bind, hhash, Ending.andThen_ok, exec_pure]

end Run

end ValueShape
