import ValueShape.Proofs.Conduct.Record
import ValueShape.Proofs.Store.Attach

/-!
# Keys of values

Which lookups are concerned when metadata is attached to a value, where the comparison of values is an
equivalence.

* `Session.metadataOf_attached` says what one attachment does to the lookups of all values: those that
  are taken for this one find its metadata, and no others are concerned.
* Predicates and functions are an example: they are compared by identity (`comparedBy_identical`), which
  is an equivalence (`keyEquivalence_identical`).
* A value that has no hash or cannot be referred to has no metadata, and attaching any changes nothing.

The log is written last.  Metadata that cannot tell its size has been attached by then:
`attach_uncounted`.
-/

set_option autoImplicit false

namespace ValueShape

open Run

/-! ## Keys of the same value

If being taken for another key is an equivalence, then the values fall into classes that share their
metadata, and an attachment concerns one class. -/

/-- Being taken for another key is an equivalence between keys. -/
structure KeyEquivalence (K : Key Value → Prop) (taken : Key Value → Key Value → Bool) : Prop where
  /-- Each key is taken for itself. -/
  refl {key : Key Value} (hkey : K key) : taken key key = true
  /-- Two keys are taken for each other. -/
  symm {key key' : Key Value} (hkey : K key) (hkey' : K key') :
    taken key key' = true → taken key' key = true
  /-- What is taken for a key is taken for all that this one is taken for. -/
  trans {key key' key'' : Key Value} (hkey : K key) (hkey' : K key') (hkey'' : K key'') :
    taken key key' = true → taken key' key'' = true → taken key key'' = true

section Lookup

variable {K : Key Value → Prop} {taken : Key Value → Key Value → Bool} {s : Session}

/-- Keys that are taken for each other are met by the same registrations. -/
theorem KeyEquivalence.congr (h : KeyEquivalence K taken) {key key' key'' : Key Value}
    (hkey : K key) (hkey' : K key') (hkey'' : K key'') (htaken : taken key key' = true) :
    taken key'' key = taken key'' key' := by
  rw [Bool.eq_iff_iff]
  exact ⟨fun hk => h.trans hkey'' hkey hkey' hk htaken,
    fun hk => h.trans hkey'' hkey' hkey hk (h.symm hkey hkey' htaken)⟩

theorem KeyEquivalence.place?_congr (h : KeyEquivalence K taken) {key key' : Key Value}
    (hkey : K key) (hkey' : K key') (hregister : ∀ r ∈ s.register, K r.key)
    (htaken : taken key key' = true) : s.place? taken key = s.place? taken key' := by
  rw [Session.place?, Session.place?]
  generalize s.register = rs at hregister ⊢
  induction rs with
  | nil => rfl
  | cons r rs ih =>
    obtain ⟨hr, hrs⟩ := List.forall_mem_cons.mp hregister
    rw [List.findIdx?_cons, List.findIdx?_cons, h.congr hkey hkey' hr htaken, ih hrs]

theorem List.findIdx?_modify {α : Type} {p : α → Bool} {f : α → α} (hf : ∀ a, p (f a) = p a) :
    ∀ {as : List α} {place : Nat}, (as.modify place f).findIdx? p = as.findIdx? p
  | [], _ => by rw [List.modify_nil]
  | a :: as, 0 => by rw [List.modify_zero_cons, List.findIdx?_cons, List.findIdx?_cons, hf]
  | a :: as, place + 1 => by
    rw [List.modify_succ_cons, List.findIdx?_cons, List.findIdx?_cons, findIdx?_modify hf]

theorem metadataOf_eq_bind (key : Key Value) :
    s.metadataOf taken key = (((s.place? taken key).bind (s.register[·]?)).map (·.metadata)).filter
      fun m => !m.identical .null := by
  rw [Session.metadataOf, List.find?_eq_bind_findIdx?_getElem?]
  rfl

/-- **What one attachment does to the lookups of all values.**  The values that are taken for the
one that it was made to have its metadata from now on, and all others have what they had. -/
theorem Session.metadataOf_attached (h : KeyEquivalence K taken) {a : Attachment} (ha : K a.key)
    (hnull : a.metadata.identical .null = false) (hregister : ∀ r ∈ s.register, K r.key)
    {key : Key Value} (hkey : K key) :
    (s.attached taken a).metadataOf taken key =
      if taken a.key key then some a.metadata else s.metadataOf taken key := by
  cases htaken : taken a.key key with
  | false =>
    -- A registration that is met by both keys would make them one.
    have hapart : s.Apart taken a.key key := ⟨htaken, fun r hr hra => by
      refine Bool.eq_false_iff.mpr fun hrk => ?_
      have hak := h.trans ha (hregister r hr) hkey (h.symm (hregister r hr) ha hra) hrk
      rw [htaken] at hak
      cases hak⟩
    rw [if_neg Bool.false_ne_true, Session.metadataOf, Session.attached, hapart.find?_written]
    rfl
  | true =>
    rw [if_pos rfl]
    have hplace : s.place? taken key = s.place? taken a.key :=
      (h.place?_congr ha hkey hregister htaken).symm
    cases hfound : s.place? taken a.key with
    | none =>
      rw [hfound] at hplace
      rw [Session.metadataOf, Session.attached,
        Attachment.find?_written_of_taken hfound hplace htaken, Option.map_some, Option.filter_some,
        hnull]
      rfl
    | some place =>
      rw [hfound] at hplace
      -- The registration that is used again is the first one that is met by either key.
      have hlt : place < s.register.length := (List.findIdx?_eq_some_iff_getElem.mp hfound).1
      have hwritten : (s.attached taken a).register =
          s.register.modify place fun r => { r with metadata := a.metadata } := by
        rw [Session.attached, Session.written, hfound]
      have hplace' : (s.attached taken a).place? taken key = some place := by
        rw [← hplace, Session.place?, Session.place?, hwritten]
        exact List.findIdx?_modify (f := fun r : Registration => { r with metadata := a.metadata })
          fun _ => rfl
      rw [metadataOf_eq_bind, hplace', Option.bind_some, hwritten, List.getElem?_modify_eq,
        List.getElem?_eq_getElem hlt, Option.map_eq_map, Option.map_some, Option.map_some,
        Option.filter_some, hnull]
      rfl

end Lookup

/-! ## Keys that are found by what they are -/

/-- A predicate or a function, which is found and compared by what it is. -/
inductive Value.IsOwn : Value → Prop
  | predicate (id : Nat) (name : Name) (f : Facets) (decider : Value) (hid : id ≠ 0) :
      IsOwn (.predicate id name f decider)
  | function (id : Nat) (name : Name) (isAsync : Bool) (body : Body Value) (hid : id ≠ 0) :
      IsOwn (.function id name isAsync body)
  | rule (id : Nat) (check : Rule) : IsOwn (.rule id check)
  | leaf (l : Leaf) : IsOwn (.leaf l)
  | operation (o : Operation) : IsOwn (.operation o)

namespace Value.IsOwn

variable {s : Session} {u v w : Value}

theorem exists_coreKind? (hv : v.IsOwn) : ∃ k, v.coreKind? = some k ∧
    Heap.start.classSlot? .equality (.kind k) = none ∧
    Heap.start.classSlot? .hash (.kind k) = none := by
  cases hv <;> exact ⟨_, rfl, rfl, rfl⟩

theorem identical_self (hv : v.IsOwn) : v.identical v = true := by
  cases hv <;> simp [identical, *]

theorem identical_symm (hv : v.IsOwn) (hw : w.IsOwn) (h : v.identical w = true) :
    w.identical v = true := by
  cases hv <;> cases hw <;> simp_all [identical]

theorem identical_trans (hu : u.IsOwn) (hv : v.IsOwn) (hw : w.IsOwn) (h : u.identical v = true)
    (h' : v.identical w = true) : u.identical w = true := by
  cases hu <;> cases hv <;> cases hw <;> simp_all [identical]

theorem same_of_identical (hv : v.IsOwn) (hw : w.IsOwn) (h : v.identical w = true) :
    v.identityHash.same w.identityHash = true := by
  cases hv <;> cases hw <;> simp_all [identical, identityHash, token, id?, Hash.same]

theorem exec_hash (host : Host) (n : Nat) (hs : s.heap.Intact) (hv : v.IsOwn) :
    exec (Ask.conduct host (n + 1)) (hash v) s = .ok v.identityHash s := by
  obtain ⟨k, hk, -, hslot⟩ := hv.exists_coreKind?
  change exec (Ask.conduct host n) (hashOnce v) s = _
  rw [hashOnce, exec_bind, exec_heap, Ending.andThen_ok]
  simp only [hs.slot? hk, hslot, exec_pure]

theorem exec_answer (c : Conduct) (hs : s.heap.Intact) (hv : v.IsOwn) (w : Value) :
    exec c (answer v w) s = .ok (if v.identical w then some (.bool true) else none) s := by
  obtain ⟨k, hk, hslot, -⟩ := hv.exists_coreKind?
  rw [answer, exec_bind, exec_heap, Ending.andThen_ok]
  simp only [hs.slot? hk, hslot, exec_pure]

/-- Whichever of the two is asked first, they are equal if they are one and the same. -/
theorem exec_equal (host : Host) (n : Nat) (hs : s.heap.Intact) (hv : v.IsOwn) (hw : w.IsOwn) :
    exec (Ask.conduct host (n + 1)) (equal v w) s = .ok (v.identical w) s := by
  have hsymm : w.identical v = v.identical w :=
    Bool.eq_iff_iff.mpr ⟨hw.identical_symm hv, hv.identical_symm hw⟩
  refine exec_equal_of_compare ?_
  change exec (Ask.conduct host n) (compareOnce v w) s = _
  rw [compareOnce, exec_bind, exec_heap, Ending.andThen_ok]
  cases s.heap.asksSecondFirst v w <;> cases h : v.identical w <;>
    simp [exec_answer, hs, hv, hw, h, hsymm, exec_bind]

end Value.IsOwn

/-- The key of a predicate or a function. -/
def Key.IsOwn (key : Key Value) : Prop := key.value.IsOwn ∧ key.hash = key.value.identityHash

/-- Predicates and functions are compared by identity, as long as the classes of the library are as they
were in the beginning. -/
theorem comparedBy_identical (host : Host) (n : Nat) : ComparedBy (Ask.conduct host (n + 1))
    (fun s => s.heap.Intact) Key.IsOwn fun key key' => key.value.identical key'.value := by
  intro key key' ⟨hv, hhash⟩ ⟨hw, hhash'⟩ s hs
  rw [meets, hhash, hhash']
  split
  next => exact hv.exec_equal host n hs hw
  next hsame =>
    have hne : key.value.identical key'.value = false :=
      Bool.eq_false_iff.mpr fun h => hsame (hv.same_of_identical hw h)
    exact hne ▸ rfl

theorem keyEquivalence_identical :
    KeyEquivalence Key.IsOwn fun key key' => key.value.identical key'.value where
  refl hkey := hkey.1.identical_self
  symm hkey hkey' := hkey.1.identical_symm hkey'.1
  trans hkey hkey' hkey'' := hkey.1.identical_trans hkey'.1 hkey''.1

/-! ## Values that carry no metadata -/

/-- A value that has no hash has no metadata, and the failure of the hash is that of attaching any. -/
theorem exec_attach_unhashable {c : Conduct} {s : Session} {v : Value} {e : Failure}
    (hreferable : s.heap.isReferable v = true) (hhash : exec c (hash v) s = .error e s)
    (he : e.isOfType = true) (metadata : Value) :
    exec c (metadata? v) s = .ok none s ∧ exec c (attach v metadata) s = .error e s := by
  have hkeyed : exec c (keyed v) s = .error e s := by
    rw [keyed, exec_bind, hhash]
    rfl
  have hmetadata : exec c (metadata? v) s = .ok none s := by
    rw [metadata?, registration?]
    simp only [exec_bind, exec_heap, Ending.andThen_ok, hreferable, Bool.not_true,
      Bool.false_eq_true, if_false, exec_recovering, hkeyed, Ending.andThen_error, he, if_true]
    rfl
  refine ⟨hmetadata, ?_⟩
  rw [attach]
  simp only [exec_bind, exec_heap, Ending.andThen_ok, hreferable, Bool.not_true,
    Bool.false_eq_true, if_false, hmetadata, Option.isSome_none, hkeyed, Ending.andThen_error]

/-- A value that cannot be referred to has no metadata, and attaching any is refused. -/
theorem exec_attach_unreferable {c : Conduct} {s : Session} {v metadata factory : Value}
    {factoryText className : String} (hreferable : s.heap.isReferable v = false)
    (hfactory : exec c (factoryOf metadata) s = .ok factory s)
    (hformatted : exec c (formatted factory) s = .ok factoryText s)
    (hclass : exec c (shownClass v) s = .ok className s) :
    exec c (metadata? v) s = .ok none s ∧ exec c (attach v metadata) s =
      .error (.construction factory factoryText
        ("predicate of type " ++ className ++ " cannot carry metadata")) s := by
  refine ⟨?_, ?_⟩
  · rw [metadata?, registration?]
    simp only [exec_bind, exec_heap, Ending.andThen_ok, hreferable, Bool.not_false, if_true]
    rfl
  · rw [attach]
    simp only [exec_bind, exec_heap, Ending.andThen_ok, hreferable, Bool.not_false, if_true,
      hfactory, hclass, refuse, hformatted, exec_throw, Ending.andThen_error]

/-! ## Metadata that cannot be counted

The log tells the number of the arguments, which are counted after they were registered.  If that
fails, the metadata is there and the log does not tell. -/

/-- A session with a class of tuples whose method for the length fails. -/
def uncountedSession : Session :=
  { Session.start with heap := { Heap.start with
      declarations := #[⟨.kept "T", [.kind .tuple, .kind .object], .kind .tuple, [.kind .tuple]⟩]
      attributes := Heap.start.attributes ++ [⟨.ofClass (.declared 0), Method.length.name,
        .function 3 (.kept "fail") false (.raises ⟨.runtime, "uncountable"⟩)⟩]
      next := 6 } }

/-- Metadata whose arguments cannot be counted is attached all the same, by an attempt that fails and
that the log does not tell of. -/
theorem attach_uncounted :
    let metadata := Value.metadata (.kind .metadata) 4 (.kept "mine") (.tuple (.declared 0) 5 [])
    let attachAndFind : Run (Bool × Bool × Nat) := do
      let result ← recovering (fun _ => true) (attach (.leaf .string) metadata)
      return (result.isSome, (← metadata? (.leaf .string)).isSome, (← get).events.length)
    (exec (Ask.conduct .none 3) attachAndFind uncountedSession).result? =
      some (false, true, 0) := by
  decide +kernel

end ValueShape
