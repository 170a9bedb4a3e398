import ValueShape.Ask.Call
import ValueShape.Proofs.Exec
import ValueShape.Proofs.Store.Evolve

/-!
# Computations that keep to a course

What becomes of a session in the course of a computation, whatever its result.

* A `Session.Course` is a relation between sessions that allows for all that the library does by the way:
  it takes notes of decisions and of calls, lets the heap evolve, and moves iterators on.  It need not
  allow for anything being registered, nor for the log telling of that.
* `Run.Keeps R c m` says that the computation `m` under the conduct `c` takes each session to one that is
  related to it.  `Conduct.Keeps R c` says so of the computations that are left to the conduct.
* If the conduct keeps to a course, so does what the library does.  There is one lemma for each function;
  `grind` puts them together along the definition of the next one.  Here are the ways of building
  computations, and reading attributes.
-/

set_option autoImplicit false

namespace ValueShape

/-- A relation between sessions that allows for what the library does by the way. -/
structure Session.Course (R : Session → Session → Prop) : Prop where
  /-- Nothing needs to happen. -/
  refl (s : Session) : R s s
  /-- One thing may happen after another. -/
  trans {s s' s'' : Session} (h : R s s') (h' : R s' s'') : R s s''
  /-- The journal and what is being written may change. -/
  aside (s : Session) (calls : List Call) (writing : List Value) : R s { s with calls, writing }
  /-- The log may tell what a modifier has decided. -/
  decision (s : Session) (m : Modifier) (o : Outcome) (predicate : Value) :
    R s { s with events := s.events ++ [.modified m o predicate] }
  /-- The heap may evolve.  No mapping is written to in which there are no attributes. -/
  heap (s : Session) (h : Heap) (hh : s.heap.Guarded → Heap.Evolves (fun _ => True) s.heap h) :
    R s { s with heap := h }
  /-- What was an iterator in the beginning may be moved on in the end. -/
  iterator {s s' : Session} (h : R s s') {v : Value} {c : Cursor}
    (hv : s.heap.contents? v = some (.iterator c)) (c' : Cursor) :
    R s { s' with heap := s'.heap.write v (.iterator c') }

namespace Run

variable {R : Session → Session → Prop} {c : Conduct} {α β : Type}

/-- A computation takes each session to one that is related to it. -/
def Keeps (R : Session → Session → Prop) (c : Conduct) (m : Run α) : Prop :=
  ∀ s, R s (exec c m s).session

end Run

/-- What is left to a conduct keeps to a course. -/
structure Conduct.Keeps (R : Session → Session → Prop) (c : Conduct) : Prop where
  /-- The relation is a course. -/
  course : Session.Course R
  /-- Values are called. -/
  call (f : Value) (args : List Value) : Run.Keeps R c (Run.call f args)
  /-- Two values are compared. -/
  compare (v w : Value) : Run.Keeps R c (Run.compare v w)
  /-- Two values are asked for their order. -/
  order (m : Method) (v w : Value) : Run.Keeps R c (Run.order m v w)
  /-- A value is hashed. -/
  hash (v : Value) : Run.Keeps R c (Run.hash v)
  /-- A value is written. -/
  write (v : Value) : Run.Keeps R c (Run.write v)

namespace Run

variable {R : Session → Session → Prop} {c : Conduct} {α β : Type}

section

variable (hc : c.Keeps R)
include hc

namespace Keeps

/-! ## Building computations

Everything else that keeps to a course is put together from these lemmas, in this module and in all
that are about single computations. -/

@[grind .] theorem pure (a : α) : Keeps R c (Pure.pure a : Run α) := fun s => hc.course.refl s

@[grind .] theorem throw (e : Failure) : Keeps R c (MonadExcept.throw e : Run α) :=
  fun s => hc.course.refl s

@[grind .] theorem get : Keeps R c (MonadState.get : Run Session) := fun s => hc.course.refl s

@[grind .] theorem heap : Keeps R c heap := fun s => hc.course.refl s

@[grind ←] theorem bind {m : Run α} {k : α → Run β} (hm : Keeps R c m)
    (hk : ∀ a, Keeps R c (k a)) : Keeps R c (m >>= k) := by
  intro s
  have h := hm s
  rw [exec_bind]
  cases hms : exec c m s with
  | ok a s' => rw [hms] at h; exact hc.course.trans h (hk a s')
  | error e s' => rw [hms] at h; exact h

@[grind ←] theorem map {m : Run α} (f : α → β) (hm : Keeps R c m) : Keeps R c (f <$> m) := by
  rw [← bind_pure_comp]
  exact bind hc hm fun a => pure hc (f a)

@[grind ←] theorem discard {m : Run α} (hm : Keeps R c m) : Keeps R c (Functor.discard m) :=
  map hc _ hm

@[grind ←] theorem tryCatch {m : Run α} {k : Failure → Run α} (hm : Keeps R c m)
    (hk : ∀ e, Keeps R c (k e)) : Keeps R c (MonadExcept.tryCatch m k) := by
  intro s
  have h := hm s
  rw [exec_tryCatch]
  cases hms : exec c m s with
  | ok a s' => rw [hms] at h; exact h
  | error e s' => rw [hms] at h; exact hc.course.trans h (hk e s')

@[grind ←] theorem recovering (fails : Failure → Bool) {m : Run α} (hm : Keeps R c m) :
    Keeps R c (recovering fails m) := by
  unfold Run.recovering
  grind

@[grind ←] theorem guarded {m : Run α} (hm : Keeps R c m) : Keeps R c (guarded m) :=
  recovering hc _ hm

@[grind ←] theorem yielded {m : Run α} (hm : Keeps R c m) : Keeps R c (yielded m) :=
  tryCatch hc hm fun e => throw hc e.yielded

@[grind ←] theorem mapM {f : α → Run β} (hf : ∀ a, Keeps R c (f a)) (as : List α) :
    Keeps R c (as.mapM f) := by
  induction as with
  | nil => exact pure hc _
  | cons a as ih => rw [List.mapM_cons]; grind

@[grind ←] theorem foldlM {f : β → α → Run β} (hf : ∀ b a, Keeps R c (f b a)) (b : β) (as : List α) :
    Keeps R c (as.foldlM f b) := by
  induction as generalizing b with
  | nil => exact pure hc _
  | cons a as ih => rw [List.foldlM_cons]; grind

@[grind ←] theorem forM {f : α → Run PUnit} (hf : ∀ a, Keeps R c (f a)) (a : Option α) :
    Keeps R c (a.forM f) := by
  cases a <;> grind [Option.forM]

@[grind ←] theorem findM? {f : α → Run Bool} (hf : ∀ a, Keeps R c (f a)) (as : List α) :
    Keeps R c (as.findM? f) := by
  induction as with
  | nil => exact pure hc _
  | cons a as ih => unfold List.findM?; grind

@[grind ←] theorem findSomeM? {f : α → Run (Option β)} (as : List α) (hf : ∀ a ∈ as, Keeps R c (f a)) :
    Keeps R c (as.findSomeM? f) := by
  induction as with
  | nil => exact pure hc _
  | cons a as ih => unfold List.findSomeM?; grind

/-! ## Conduct and state -/

@[grind .] theorem call (f : Value) (args : List Value) : Keeps R c (call f args) := hc.call f args

@[grind .] theorem compare (v w : Value) : Keeps R c (compare v w) := hc.compare v w

@[grind .] theorem order (m : Method) (v w : Value) : Keeps R c (order m v w) := hc.order m v w

@[grind .] theorem hash (v : Value) : Keeps R c (hash v) := hc.hash v

@[grind .] theorem write (v : Value) : Keeps R c (write v) := hc.write v

theorem modifyHeap {f : Heap → Heap}
    (hf : ∀ h : Heap, h.Guarded → Heap.Evolves (fun _ => True) h (f h)) :
    Keeps R c (modifyHeap f) := fun s => hc.course.heap s _ (hf s.heap)

@[grind .] theorem fresh : Keeps R c fresh := fun s =>
  hc.course.heap s _ fun hg => hg.evolves_withNext (Nat.le_succ _)

@[grind .] theorem alloc (cls : Class) (contents : Contents) : Keeps R c (alloc cls contents) := fun s =>
  hc.course.heap s _ fun hg => hg.evolves_alloc _

@[grind .] theorem logModified (m : Modifier) (o : Outcome) (predicate : Value) :
    Keeps R c (log (.modified m o predicate)) := fun s => hc.course.decision s m o predicate

@[grind .] theorem ofExcept (e : Except Failure α) : Keeps R c (ofExcept e) := by
  cases e <;> unfold Run.ofExcept <;> grind

@[grind .] theorem identified (v : Value) : Keeps R c (identified v) := by
  unfold Run.identified
  grind

@[grind .] theorem ownText (s : String) : Keeps R c (ownText s) := by
  unfold Run.ownText
  grind

@[grind .] theorem list (items : List Value) : Keeps R c (list items) := alloc hc _ _

@[grind .] theorem tuple (items : List Value) : Keeps R c (tuple items) := by
  unfold Run.tuple
  grind

@[grind .] theorem view (source : Value) : Keeps R c (view source) := by
  unfold Run.view
  grind

/-! ## Attributes

Reading an attribute may call a method of the class, which can do anything that a call can do.
Apart from that, a part of the value may be made when it is first read. -/

@[grind .] theorem callBound (method self : Value) (args : List Value) :
    Keeps R c (callBound method self args) := by
  unfold Run.callBound
  grind

@[grind .] theorem callHook (method self : Value) (args : List Value) :
    Keeps R c (callHook method self args) := by
  unfold Run.callHook
  grind

/-- An attribute may be assigned, unless it is one of a class that matters. -/
theorem assign {v : Value} {name : String} (hv : ∀ c, v = .ofClass c → ¬ c.Relies name)
    (value : Value) : Keeps R c (Run.modifyHeap fun h => h.assign v name value) :=
  modifyHeap hc fun _ hg => hg.evolves_assign hv value

@[grind .] theorem ownMapping {v : Value} {name : String}
    (hv : v.isClass = false ∨ name = annotationsAttribute) : Keeps R c (ownMapping v name) := by
  have hassign (dict : Value) : Keeps R c (Run.modifyHeap fun h => h.assign v name dict) := by
    refine assign hc (fun cls hcls hrelies => ?_) dict
    subst hcls
    rcases hv with hv | rfl
    · cases hv
    · rcases hrelies with hname | ⟨k, -, -, hname⟩
      · exact absurd hname (by decide)
      · exact hname rfl
  exact bind hc (alloc hc _ _) fun dict => bind hc (hassign dict) fun _ => pure hc dict

@[grind .] theorem abstractNames? (cls : Class) : Keeps R c (abstractNames? cls) := by
  have hassign (k : Kind) (hk : k.hasAbstractClass = true) (set : Value) :
      Keeps R c (Run.modifyHeap fun h => h.assign (.ofClass (.kind k)) abstractAttribute set) := by
    refine assign hc (fun cls hcls hrelies => ?_) set
    cases hcls
    rcases hrelies with hname | ⟨k', hk', hcore, -⟩
    · exact absurd hname (by decide)
    · cases hk'
      unfold Kind.isCore at hcore
      split at hcore <;> first | exact absurd hk (by decide) | cases hcore
  unfold Run.abstractNames?
  refine bind hc (heap hc) fun h => ?_
  split
  · exact pure hc _
  · split
    · exact pure hc _
    · refine bind hc (fresh hc) fun id => bind hc (hassign _ ?_ _) fun _ => pure hc _
      simp_all
  · exact pure hc _

@[grind .] theorem classPart (cls : Class) (name : String) : Keeps R c (classPart cls name) := by
  unfold Run.classPart
  grind [annotationsAttribute]

@[grind .] theorem madePart? (v : Value) (name : String) : Keeps R c (madePart? v name) := by
  unfold Run.madePart?
  grind

@[grind ←] theorem readPart {read : Value → String → Run Value}
    (hread : ∀ v name, Keeps R c (read v name)) (v : Value) (owner : Kind) (name : String) :
    Keeps R c (readPart read v owner name) := by
  unfold Run.readPart
  refine bind hc (heap hc) fun h => ?_
  split
  · exact hread _ _
  · split
    · exact throw hc _
    · split
      · exact identified hc _
      · refine bind hc (classPart hc _ _) fun part => ?_
        cases part <;> grind
      next v _ _ hv _ _ =>
        refine bind hc (madePart? hc _ _) fun part => ?_
        have hclass : v.isClass = false := by
          cases v with
          | ofClass cls => exact absurd rfl (hv cls)
          | _ => rfl
        cases part <;> grind

/-- The attributes of an object are moved into a mapping when that is first asked for. -/
theorem namespaceOf {v : Value} (hv : v.isClass = false) : Keeps R c (namespaceOf v) := by
  intro s
  rw [Run.namespaceOf, exec_bind, exec_heap, Ending.andThen_ok]
  cases s.heap.namespace? v with
  | some dict => exact hc.course.refl s
  | none =>
    refine hc.course.heap s _ fun hg => ?_
    exact hg.evolves_namespace hv _ _

omit hc in
theorem isClass_of_hasNamespace {h : Heap} {v : Value} (hv : h.hasNamespace v = true) :
    v.isClass = false := by
  cases v with
  | ofClass cls => cases hv
  | _ => rfl

@[grind .] theorem bindMethod (fn v : Value) : Keeps R c (bindMethod fn v) := by
  unfold Run.bindMethod
  grind

@[grind .] theorem nativeMethod (k : Kind) (v : Value) (name : String) :
    Keeps R c (nativeMethod k v name) := by
  unfold Run.nativeMethod
  grind

theorem ownPairs {v : Value} (hv : v.isClass = false) (entries : List (Value × Value)) :
    Keeps R c (ownPairs v entries) := by
  have hassign (pairs : Value) :
      Keeps R c (Run.modifyHeap fun h => h.assign v entriesAttribute pairs) :=
    assign hc (fun cls hcls _ => by subst hcls; cases hv) pairs
  exact bind hc (mapM hc (fun e => tuple hc _) entries) fun items => bind hc (list hc items)
    fun pairs => bind hc (hassign pairs) fun _ => pure hc pairs

@[grind ←] theorem readFound {read : Value → String → Run Value}
    (hread : ∀ v name, Keeps R c (read v name)) (v : Value) (name : String) (found : Option Found) :
    Keeps R c (readFound read v name found) := by
  unfold Run.readFound
  grind [ownPairs, namespaceOf, isClass_of_hasNamespace]

@[grind .] theorem readAttributeUpTo (fuel : Nat) (v : Value) (name : String) :
    Keeps R c (readAttributeUpTo fuel v name) := by
  induction fuel generalizing v name with
  | zero => exact throw hc _
  | succ fuel ih =>
    unfold Run.readAttributeUpTo
    refine bind hc (heap hc) fun h => ?_
    have hplainly := readFound hc ih v name (h.find? v name)
    dsimp only
    split
    · refine bind hc (recovering hc _ (callBound hc _ _ _)) fun found => ?_
      split <;> grind
    · split
      · refine bind hc (recovering hc _ hplainly) fun found => ?_
        split <;> grind
      · refine bind hc (map hc _ hplainly) fun found => ?_
        split <;> grind

@[grind .] theorem readAttribute (v : Value) (name : String) : Keeps R c (readAttribute v name) :=
  readAttributeUpTo hc _ v name

@[grind .] theorem attribute? (v : Value) (name : String) : Keeps R c (attribute? v name) := by
  unfold Run.attribute?
  grind

@[grind .] theorem findMethod (v : Value) (m : Method) : Keeps R c (findMethod v m) := by
  unfold Run.findMethod
  grind

@[grind .] theorem claimedClass? (v : Value) : Keeps R c (claimedClass? v) := by
  unfold Run.claimedClass?
  grind

@[grind .] theorem isInstanceOfAbstract (v : Value) (cls : Class) :
    Keeps R c (isInstanceOfAbstract v cls) := by
  unfold Run.isInstanceOfAbstract
  grind

@[grind .] theorem isInstance (v : Value) (cls : Class) : Keeps R c (isInstance v cls) := by
  unfold Run.isInstance
  grind

@[grind .] theorem isOfKind (v : Value) (k : Kind) : Keeps R c (isOfKind v k) := isInstance hc v _

@[grind .] theorem isOfAnyKind (v : Value) (ks : List Kind) : Keeps R c (isOfAnyKind v ks) := by
  induction ks with
  | nil => exact pure hc _
  | cons k ks ih =>
    unfold Run.isOfAnyKind
    grind

@[grind .] theorem asksForClass (v : Value) : Keeps R c (asksForClass v) := by
  unfold Run.asksForClass
  grind

@[grind .] theorem isPrimitive (v : Value) : Keeps R c (isPrimitive v) := by
  unfold Run.isPrimitive
  grind

@[grind .] theorem isTextual (v : Value) : Keeps R c (isTextual v) := by
  unfold Run.isTextual
  grind

end Keeps

end

end Run

end ValueShape
