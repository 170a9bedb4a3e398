import ValueShape.Ask.Call
import ValueShape.Proofs.Conduct.Record

/-!
# Attaching metadata

What attaching metadata to one value means for the lookups of all values.

Values are looked up by their own hashes and comparisons, which may be anything.  The statements are
about those that come out the same way each time:

* `ComparedBy c I K taken` says that keys are compared as `taken` tells, wherever `I` holds.
* `Attachment.Tells c I a` says that a value has a hash and that the metadata which is attached to it
  tells its name and its size, wherever `I` holds.

A lookup is then one in a list (`Value.HasHash.exec_metadata`), and attaching metadata writes to that list
(`Attachment.Tells.exec_attach`).  `Attachment.attach_apart` says which values are not concerned:
those whose keys are told apart.  Equal values are not told apart: `metadata_of_equal`.
-/

set_option autoImplicit false

namespace ValueShape

open Run

/-! ## Comparing keys

A lookup compares hashes, and then asks the keys themselves.  Where these compare in a fixed way,
all of it is one relation between keys. -/

/-- Whether a registered key is taken for one that is looked up. -/
def Run.meets (registered key : Key Value) : Run Bool := do
  if registered.hash.same key.hash then equal registered.value key.value else return false

/-- Keys are compared in a fixed way, wherever an invariant holds. -/
def ComparedBy (c : Conduct) (I : Session → Prop) (K : Key Value → Prop)
    (taken : Key Value → Key Value → Bool) : Prop :=
  ∀ registered key, K registered → K key → ∀ s, I s →
    exec c (meets registered key) s = .ok (taken registered key) s

/-- An invariant that is about the heap only. -/
def Session.AboutHeap (I : Session → Prop) : Prop :=
  ∀ ⦃s s' : Session⦄, s'.heap = s.heap → I s → I s'

/-! ## The register as a list

Looking up and attaching are functions of the list of registrations, with that relation as a
parameter.  What one attachment does to all lookups is shown of these functions. -/

namespace Session

variable (taken : Key Value → Key Value → Bool) (s : Session) (key key' : Key Value)

/-- The place of the registration that is found for a key. -/
def place? : Option Nat := s.register.findIdx? fun r => taken r.key key

/-- The metadata that is found for a key.  Null is none. -/
def metadataOf : Option Value :=
  ((s.register.find? fun r => taken r.key key).map (·.metadata)).filter fun m => !m.identical .null

/-- Registrations with metadata written to the place of a key, or added at the end. -/
def written (metadata : Value) : List Registration :=
  match s.place? taken key with
  | some place => s.register.modify place fun r => { r with metadata }
  | none => s.register ++ [⟨key, metadata⟩]

variable {taken s key} in
theorem forall_mem_written {K : Key Value → Prop} (hs : ∀ r ∈ s.register, K r.key) (hkey : K key)
    {metadata : Value} : ∀ r ∈ s.written taken key metadata, K r.key := by
  unfold written
  split
  · intro r hr
    obtain ⟨i, hi⟩ := List.getElem?_of_mem hr
    rw [List.getElem?_modify] at hi
    obtain ⟨r', hr', heq⟩ := Option.map_eq_some_iff.mp hi
    have := hs r' (List.mem_of_getElem? hr')
    split at heq <;> exact heq ▸ this
  · exact List.forall_mem_append.mpr ⟨hs, List.forall_mem_singleton.mpr hkey⟩

/-- Two keys are told apart: the first is not taken for the second, and no registered key is taken
for both. -/
structure Apart : Prop where
  /-- The first key is not taken for the second. -/
  untaken : taken key key' = false
  /-- No registered key is taken for both. -/
  registered : ∀ r ∈ s.register, taken r.key key = true → taken r.key key' = false

end Session

/-- An entry that is overwritten without being looked for is not found afterwards either. -/
theorem List.find?_modify {α : Type} {p : α → Bool} {f : α → α} (hf : ∀ a, p (f a) = p a) :
    ∀ {as : List α} {place : Nat}, (∀ a, as[place]? = some a → p a = false) →
      (as.modify place f).find? p = as.find? p
  | [], _, _ => by rw [List.modify_nil]
  | a :: as, 0, h => by
    have ha : p a = false := h a rfl
    rw [List.modify_zero_cons, List.find?_cons, List.find?_cons, hf, ha]
  | a :: as, place + 1, h => by
    have ih : (as.modify place f).find? p = as.find? p := find?_modify hf h
    rw [List.modify_succ_cons, List.find?_cons, List.find?_cons, ih]

/-- What is written for one key is not found for another one that is told apart from it. -/
theorem Session.Apart.find?_written {taken : Key Value → Key Value → Bool} {s : Session}
    {key key' : Key Value} (h : s.Apart taken key key') (metadata : Value) :
    (s.written taken key metadata).find? (fun r => taken r.key key') =
      s.register.find? fun r => taken r.key key' := by
  unfold written
  cases hplace : s.place? taken key with
  | none =>
    have hlast : [Registration.mk key metadata].find? (fun r => taken r.key key') = none := by
      simp [h.untaken]
    rw [List.find?_append, hlast, Option.or_none]
  | some place =>
    obtain ⟨hlt, htaken, -⟩ := List.findIdx?_eq_some_iff_getElem.mp hplace
    refine List.find?_modify (f := fun r : Registration => { r with metadata }) (fun _ => rfl)
      fun r hr => ?_
    rw [List.getElem?_eq_getElem hlt, Option.some.injEq] at hr
    subst hr
    exact h.registered _ (List.getElem_mem hlt) htaken

/-! ## Looking up -/

section Lookup

variable {c : Conduct} {I : Session → Prop} {K : Key Value → Prop}
  {taken : Key Value → Key Value → Bool} {s : Session}

theorem findRegistration?_cons (key : Key Value) (r : Registration) (rs : List Registration) :
    findRegistration? key (r :: rs) = do
      if ← meets r.key key then return some 0
      else return (← findRegistration? key rs).map (· + 1) := by
  rw [findRegistration?, meets]
  split <;> rfl

theorem ComparedBy.exec_findRegistration (h : ComparedBy c I K taken) (hs : I s) {key : Key Value}
    (hkey : K key) {rs : List Registration} (hrs : ∀ r ∈ rs, K r.key) :
    exec c (findRegistration? key rs) s = .ok (rs.findIdx? fun r => taken r.key key) s := by
  induction rs with
  | nil => rfl
  | cons r rs ih =>
    obtain ⟨hr, hrs⟩ := List.forall_mem_cons.mp hrs
    rw [findRegistration?_cons, List.findIdx?_cons, exec_bind, h r.key key hr hkey s hs,
      Ending.andThen_ok]
    cases taken r.key key with
    | true => rfl
    | false =>
      simp only [Bool.false_eq_true, if_false, exec_bind, ih hrs]
      rfl

/-- A value that can be referred to has always the same hash. -/
structure Value.HasHash (c : Conduct) (I : Session → Prop) (v : Value) (h : Hash) : Prop where
  /-- It can be referred to without being kept alive. -/
  referable {s : Session} (hs : I s) : s.heap.isReferable v = true
  /-- It has this hash. -/
  hash {s : Session} (hs : I s) : exec c (hash v) s = .ok h s

theorem Value.HasHash.exec_keyed {v : Value} {h : Hash} (hv : v.HasHash c I h) (hs : I s) :
    exec c (keyed v) s = .ok ⟨v, h⟩ s := by
  rw [keyed, exec_bind, hv.hash hs]
  rfl

variable (hcompared : ComparedBy c I K taken)
include hcompared

/-- A lookup is one in the list of registrations. -/
theorem Value.HasHash.exec_metadata {v : Value} {h : Hash} (hv : v.HasHash c I h) (hK : K ⟨v, h⟩)
    (hs : I s) (hregister : ∀ r ∈ s.register, K r.key) :
    exec c (metadata? v) s = .ok (s.metadataOf taken ⟨v, h⟩) s := by
  have hfind := hcompared.exec_findRegistration hs hK hregister
  rw [metadata?, registration?]
  simp only [exec_bind, exec_heap, Ending.andThen_ok, hv.referable hs, Bool.not_true,
    Bool.false_eq_true, if_false, exec_recovering, hv.exec_keyed hs, exec_get, hfind, exec_pure,
    ← List.find?_eq_bind_findIdx?_getElem?]
  rfl

end Lookup

/-! ## Attaching -/

/-- Metadata that is to be attached to a value, with the hash of the value and with what the metadata
tells to the log. -/
structure Attachment where
  /-- The value. -/
  value : Value
  /-- The hash of the value. -/
  hash : Hash
  /-- The metadata. -/
  metadata : Value
  /-- The name of the factory in the metadata. -/
  factory : Value
  /-- The name of the factory, as it stands in a message. -/
  factoryText : String
  /-- The number of arguments in the metadata. -/
  count : Nat

namespace Attachment

/-- The value as a key. -/
def key (a : Attachment) : Key Value := ⟨a.value, a.hash⟩

/-- What the log tells of the attachment. -/
def event (a : Attachment) : Event := .attached a.factory a.count

/-- The refusal of metadata for a value that has metadata already. -/
def refusal (a : Attachment) : Failure :=
  .construction a.factory a.factoryText "predicate already carries factory metadata"

/-- The value has a hash, and the metadata tells its name and its size, wherever an invariant
holds. -/
structure Tells (c : Conduct) (I : Session → Prop) (a : Attachment) : Prop where
  /-- The value has a hash. -/
  hasHash : a.value.HasHash c I a.hash
  /-- The metadata has a name. -/
  factory {s : Session} (hs : I s) : exec c (factoryOf a.metadata) s = .ok a.factory s
  /-- The name can stand in a message. -/
  formatted {s : Session} (hs : I s) : exec c (formatted a.factory) s = .ok a.factoryText s
  /-- The metadata has arguments, which can be counted. -/
  count {s : Session} (hs : I s) :
    exec c (readAttribute a.metadata argumentsAttribute >>= size) s = .ok a.count s

end Attachment

/-- A session in which metadata is attached. -/
def Session.attached (taken : Key Value → Key Value → Bool) (s : Session) (a : Attachment) :
    Session :=
  { s with register := s.written taken a.key a.metadata, events := s.events ++ [a.event] }

namespace Attachment

variable {c : Conduct} {I : Session → Prop} {K : Key Value → Prop}
  {taken : Key Value → Key Value → Bool} {s : Session} {a : Attachment}

/-- A record tells its name and its size, as long as the classes of the library are intact. -/
theorem Tells.of_record (hI : ∀ s, I s → s.heap.Intact) (hhash : a.value.HasHash c I a.hash)
    {id id' : Nat} {factory : Name} {args : List Value}
    (hmetadata : a.metadata = .metadata (.kind .metadata) id factory (.tuple (.kind .tuple) id' args))
    (hname : (Value.ofName factory).isIdentified = true) (hfactory : a.factory = .ofName factory)
    (hformatted : ∀ s, I s → exec c (Run.formatted a.factory) s = .ok a.factoryText s)
    (hlt : args.length < maxIndex) (hcount : a.count = args.length) : a.Tells c I where
  hasHash := hhash
  factory {s} hs := by
    rw [hmetadata, hfactory]
    exact (exec_readFactory c (hI s hs) id factory _).trans (exec_identified_of_isIdentified c hname)
  formatted {s} hs := hformatted s hs
  count {s} hs := by
    have hargs := (exec_readArguments c (hI s hs) id factory (.tuple (.kind .tuple) id' args)).trans
      (exec_identified_of_isIdentified c rfl)
    have hsize := exec_size c (readsPlainly_tuple (hI s hs) (m := .length) rfl id' args) hlt
    rw [hmetadata, hcount, exec_bind, hargs, Ending.andThen_ok, hsize]

/-- **What attaching does.**  Metadata is registered and the log tells so, unless the value has
metadata already; then nothing happens. -/
theorem Tells.exec_attach (ha : a.Tells c I) (hI : Session.AboutHeap I)
    (hcompared : ComparedBy c I K taken) (hK : K a.key) (hs : I s)
    (hregister : ∀ r ∈ s.register, K r.key) :
    exec c (attach a.value a.metadata) s =
      match s.metadataOf taken a.key with
      | none => .ok () (s.attached taken a)
      | some _ => .error a.refusal s := by
  have hmetadata := ha.hasHash.exec_metadata hcompared hK hs hregister
  have hfind := hcompared.exec_findRegistration hs hK hregister
  have hwritten : exec c (register ⟨a.value, a.hash⟩ a.metadata) s =
      .ok () { s with register := s.written taken a.key a.metadata } := by
    rw [register, exec_bind, exec_get, Ending.andThen_ok, exec_bind]
    change (exec c (findRegistration? a.key s.register) s).andThen _ = _
    rw [hfind, Ending.andThen_ok, Session.written, Session.place?]
    cases s.register.findIdx? fun r => taken r.key a.key <;> rfl
  have hs' : I { s with register := s.written taken a.key a.metadata } :=
    hI (show _ = s.heap from rfl) hs
  have hsize := ha.count hs'
  rw [exec_bind] at hsize
  rw [attach]
  simp only [exec_bind, exec_heap, Ending.andThen_ok, ha.hasHash.referable hs, Bool.not_true,
    Bool.false_eq_true, if_false, hmetadata]
  change exec c (if (s.metadataOf taken a.key).isSome = true then _ else _) s = _
  cases s.metadataOf taken a.key with
  | some m =>
    simp only [Option.isSome_some, if_true, exec_bind, ha.factory hs, Ending.andThen_ok, refuse,
      ha.formatted hs, exec_throw, Ending.andThen_error, refusal]
  | none =>
    simp only [Option.isSome_none, Bool.false_eq_true, if_false, exec_bind,
      ha.hasHash.exec_keyed hs, Ending.andThen_ok, hwritten, ha.factory hs']
    rw [← Ending.andThen_assoc, hsize]
    rfl

/-- What is found for a new value that is taken for the one before it. -/
theorem find?_written_of_taken {key key' : Key Value} (hplace : s.place? taken key = none)
    (hnone : s.place? taken key' = none) (htaken : taken key key' = true) (metadata : Value) :
    (s.written taken key metadata).find? (fun r => taken r.key key') = some ⟨key, metadata⟩ := by
  have hfind : s.register.find? (fun r => taken r.key key') = none := by
    rw [List.find?_eq_bind_findIdx?_getElem?]
    change (s.place? taken key').bind _ = none
    rw [hnone, Option.bind_none]
  rw [Session.written, hplace, List.find?_append, hfind, Option.none_or]
  simp [htaken]

theorem exec_isProductOf_of_none {v factory : Value} (h : exec c (metadata? v) s = .ok none s) :
    exec c (isProductOf v factory) s = .ok (.bool false) s := by
  rw [isProductOf, exec_bind, h]
  rfl

theorem exec_isProductOf_of_some {v m factory : Value}
    (h : exec c (metadata? v) s = .ok (some m) s) :
    exec c (isProductOf v factory) s = exec c (factoryOf m >>= (compare · factory)) s := by
  rw [isProductOf, exec_bind, h]
  rfl

/-- **Attaching metadata to one value is nothing to the values that are told apart from it.**  They
have the metadata that they had, they are products of the same factories, and metadata can be
attached to them if it could before.  A new value that is not told apart from it has the metadata,
too. -/
theorem attach_apart {b : Attachment} (hI : Session.AboutHeap I)
    (hcompared : ComparedBy c I K taken) (ha : a.Tells c I) (hb : b.Tells c I) (hKa : K a.key)
    (hKb : K b.key) (hs : I s) (hregister : ∀ r ∈ s.register, K r.key)
    (hnone : s.metadataOf taken a.key = none) :
    ∃ s', exec c (attach a.value a.metadata) s = .ok () s' ∧
      (s.Apart taken a.key b.key →
        (∃ m?, exec c (metadata? b.value) s = .ok m? s ∧ exec c (metadata? b.value) s' = .ok m? s') ∧
        (∀ factory, (∀ m, s.metadataOf taken b.key = some m → ∃ v, ∀ t, I t →
            exec c (factoryOf m >>= (compare · factory)) t = .ok v t) →
          ∃ v, exec c (isProductOf b.value factory) s = .ok v s ∧
            exec c (isProductOf b.value factory) s' = .ok v s') ∧
        ((∃ t, exec c (attach b.value b.metadata) s' = .ok () t) ↔
          ∃ t, exec c (attach b.value b.metadata) s = .ok () t)) ∧
      (s.place? taken a.key = none → s.place? taken b.key = none → taken a.key b.key = true →
        a.metadata.identical .null = false →
        exec c (metadata? b.value) s' = .ok (some a.metadata) s') := by
  have hattach := ha.exec_attach hI hcompared hKa hs hregister
  rw [hnone] at hattach
  have hs' : I (s.attached taken a) := hI (show _ = s.heap from rfl) hs
  have hregister' : ∀ r ∈ (s.attached taken a).register, K r.key :=
    Session.forall_mem_written hregister hKa
  have hbefore : exec c (metadata? b.value) s = .ok (s.metadataOf taken b.key) s :=
    hb.hasHash.exec_metadata hcompared hKb hs hregister
  have hafter : exec c (metadata? b.value) (s.attached taken a) =
      .ok ((s.attached taken a).metadataOf taken b.key) (s.attached taken a) :=
    hb.hasHash.exec_metadata hcompared hKb hs' hregister'
  refine ⟨_, hattach, fun hapart => ?_, fun hplace hplace' htaken hnull => ?_⟩
  · -- The lookup finds what it found before, and all else depends on that.
    have hsame : (s.attached taken a).metadataOf taken b.key = s.metadataOf taken b.key := by
      rw [Session.metadataOf, Session.attached, hapart.find?_written]
      rfl
    rw [hsame] at hafter
    refine ⟨⟨_, hbefore, hafter⟩, fun factory hfactory => ?_, ?_⟩
    · cases hm : s.metadataOf taken b.key with
      | none =>
        rw [hm] at hbefore hafter
        exact ⟨.bool false, exec_isProductOf_of_none hbefore, exec_isProductOf_of_none hafter⟩
      | some m =>
        obtain ⟨v, hv⟩ := hfactory m hm
        rw [hm] at hbefore hafter
        exact ⟨v, (exec_isProductOf_of_some hbefore).trans (hv s hs),
          (exec_isProductOf_of_some hafter).trans (hv _ hs')⟩
    · rw [hb.exec_attach hI hcompared hKb hs hregister,
        hb.exec_attach hI hcompared hKb hs' hregister', hsame]
      cases s.metadataOf taken b.key with
      | none => exact ⟨fun _ => ⟨_, rfl⟩, fun _ => ⟨_, rfl⟩⟩
      | some m => exact ⟨nofun, nofun⟩
  · have hfound := find?_written_of_taken hplace hplace' htaken a.metadata
    rw [hafter, Session.metadataOf, Session.attached, hfound, Option.map_some, Option.filter_some,
      hnull]
    rfl

end Attachment

/-! ## Values that compare by their keys -/

/-- A session with three objects that are found by their keys: the first two have the same key. -/
def keyedSession : Session :=
  { Session.start with heap := { Heap.start with
      attributes := Heap.start.attributes ++ [
        ⟨.object 2 (.kind .keyed), keyAttribute, .keptText "a"⟩,
        ⟨.object 3 (.kind .keyed), keyAttribute, .keptText "a"⟩,
        ⟨.object 4 (.kind .keyed), keyAttribute, .keptText "b"⟩]
      next := 6 } }

/-- Metadata for an object of that session. -/
def keyedAttachment (id : Nat) (key : String) : Attachment where
  value := .object id (.kind .keyed)
  hash := hashText key
  metadata := .metadata (.kind .metadata) 5 (.kept "mine") (.tuple (.kind .tuple) 0 [])
  factory := .keptText "mine"
  factoryText := "mine"
  count := 0

theorem keyedSession_intact : keyedSession.heap.Intact where
  members k _ name _ := by
    have hother (id : Nat) : (Value.object id (.kind .keyed)).identical (.ofClass (.kind k)) = false := rfl
    have hfind : (keyedSession.heap.attributes.find? fun a =>
        a.name == name && a.owner.identical (.ofClass (.kind k))) =
          Heap.start.attributes.find? fun a => a.name == name && a.owner.identical (.ofClass (.kind k)) := by
      simp [keyedSession, hother]
    rw [Heap.assigned?, hfind]
    rfl
  classes _ he := absurd he List.not_mem_nil

/-! ### Reading a key

The key of such an object is looked for in all that its class has, so this is done once and for all.  The
hash and the comparison of the objects come down to it. -/

section Keyed

variable {s : Session} (hs : s.heap = keyedSession.heap) {id id' : Nat} {key key' : String}
  (hkey : keyedSession.heap.assigned? (.object id (.kind .keyed)) keyAttribute = some (.keptText key))
include hs hkey

/-- No class has an attribute of this name, so the one of the object is read. -/
theorem exec_readKey (c : Conduct) :
    exec c (readAttribute (.object id (.kind .keyed)) keyAttribute) s = .ok (.keptText key) s := by
  have hread : s.heap.slot? .readAttribute (.object id (.kind .keyed)) = none := by rw [hs]; rfl
  have hmissing : s.heap.slot? .missingAttribute (.object id (.kind .keyed)) = none := by rw [hs]; rfl
  have hinherited : keyedSession.heap.inherited? (.kind .keyed) keyAttribute = none := by decide +kernel
  have hfound : s.heap.findInObject? (.object id (.kind .keyed)) keyAttribute =
      some (.value (.keptText key)) := by
    have hobject : keyedSession.heap.classOf (.object id (.kind .keyed)) = .kind .keyed := rfl
    rw [hs, Heap.findInObject?, hobject, hinherited, hkey]
  have hclass : (keyAttribute == Heap.classAttribute) = false := by decide
  have hname : (keyAttribute == Heap.nameField) = false := by decide
  have hfind : s.heap.find? (.object id (.kind .keyed)) keyAttribute = some (.value (.keptText key)) := by
    simp only [Heap.find?, hclass, hname, hfound, Bool.false_eq_true, if_false, Option.some_or]
  rw [readAttribute, exec_readAttributeUpTo c hread hmissing, hfind]
  exact exec_identified_of_isIdentified c (v := .keptText key) rfl

/-- Such an object has the hash of its key. -/
theorem exec_hash_keyed :
    exec (Ask.conduct .none 2) (hash (.object id (.kind .keyed))) s = .ok (hashText key) s := by
  have hslot : s.heap.slot? .hash (.object id (.kind .keyed)) = some (.native .keyed) := by rw [hs]; rfl
  have hslot' : s.heap.slot? .hash (.keptText key) = some (.native .text) := by rw [hs]; rfl
  change exec (Ask.conduct .none 1) (hashOnce _) s = _
  rw [hashOnce, exec_bind, exec_heap, Ending.andThen_ok, hslot]
  change exec (Ask.conduct .none 1) (readAttribute _ keyAttribute >>= hash) s = _
  rw [exec_bind, exec_readKey hs hkey, Ending.andThen_ok]
  change exec (Ask.conduct .none 0) (hashOnce _) s = _
  rw [hashOnce, exec_bind, exec_heap, Ending.andThen_ok, hslot']
  rfl

/-- Two such objects are equal if their keys are. -/
theorem exec_equal_keyed
    (hkey' : keyedSession.heap.assigned? (.object id' (.kind .keyed)) keyAttribute =
      some (.keptText key')) :
    exec (Ask.conduct .none 2) (equal (.object id (.kind .keyed)) (.object id' (.kind .keyed))) s =
      .ok (key == key') s := by
  have hslot : s.heap.slot? .equality (.object id (.kind .keyed)) = some (.native .keyed) := by rw [hs]; rfl
  have hslot' : s.heap.slot? .equality (.keptText key) = some (.native .text) := by rw [hs]; rfl
  have horder : s.heap.asksSecondFirst (.object id (.kind .keyed)) (.object id' (.kind .keyed)) = false := by
    rw [hs]; rfl
  have horder' : s.heap.asksSecondFirst (.keptText key) (.keptText key') = false := by
    rw [hs]; rfl
  have hkind : s.heap.isOfKind (.object id' (.kind .keyed)) .keyed = true := by rw [hs]; rfl
  have hreads : s.heap.readsAttributes (.object id' (.kind .keyed)) = false := by rw [hs]; rfl
  have hcompare : exec (Ask.conduct .none 1) (compare (.keptText key) (.keptText key')) s =
      .ok (.bool (key == key')) s := by
    change exec (Ask.conduct .none 0) (compareOnce _ _) s = _
    have hplain : exec (Ask.conduct .none 0) (nativeAnswer .text (.keptText key) (.keptText key')) s =
        .ok (some (.bool (key == key'))) s := rfl
    simp only [compareOnce, answer, exec_bind, exec_heap, Ending.andThen_ok, horder', hslot',
      Bool.false_eq_true, if_false, hplain, exec_pure]
  have hanswer : exec (Ask.conduct .none 1)
      (answer (.object id (.kind .keyed)) (.object id' (.kind .keyed))) s =
        .ok (some (.bool (key == key'))) s := by
    rw [answer, exec_bind, exec_heap, Ending.andThen_ok, hslot]
    change exec _ (isOfKind _ .keyed >>= _) s = _
    rw [exec_bind, exec_isOfKind _ hreads, hkind, Ending.andThen_ok]
    simp only [Bool.not_true, Bool.false_eq_true, if_false, exec_bind, exec_readKey hs hkey,
      exec_readKey hs hkey', Ending.andThen_ok, exec_map, hcompare]
    rfl
  rw [equal, exec_bind]
  change (exec (Ask.conduct .none 1) (compareOnce _ _) s).andThen _ = _
  rw [compareOnce, exec_bind, exec_heap, Ending.andThen_ok, horder]
  simp only [Bool.false_eq_true, if_false, exec_bind, hanswer, Ending.andThen_ok, exec_pure, truth_bool]

/-- Such objects are taken for each other if their hashes are the same, provided that these tell their
keys apart. -/
theorem exec_meets_keyed
    (hkey' : keyedSession.heap.assigned? (.object id' (.kind .keyed)) keyAttribute =
      some (.keptText key'))
    (hsame : (hashText key).same (hashText key') = (key == key')) :
    exec (Ask.conduct .none 2) (meets (keyedAttachment id key).key (keyedAttachment id' key').key) s =
      .ok ((hashText key).same (hashText key')) s := by
  change exec _ (if (hashText key).same (hashText key') then
    equal (.object id (.kind .keyed)) (.object id' (.kind .keyed)) else return false) s = _
  rw [hsame]
  cases hequal : key == key' with
  | false => rfl
  | true =>
    rw [if_pos rfl, exec_equal_keyed hs hkey hkey', hequal]

end Keyed

theorem keyedAttachment_tells {id : Nat} {key : String}
    (hkey : keyedSession.heap.assigned? (.object id (.kind .keyed)) keyAttribute = some (.keptText key)) :
    (keyedAttachment id key).Tells (Ask.conduct .none 2) fun s => s.heap = keyedSession.heap :=
  .of_record (fun _ hs => hs ▸ keyedSession_intact)
    ⟨fun {s} hs => by rw [hs]; rfl, fun hs => exec_hash_keyed hs hkey⟩
    rfl rfl rfl (fun _ _ => rfl) (by decide) rfl

namespace Attachment

theorem attach_apart_keyed :
    let c := Ask.conduct .none 2
    let I := fun s : Session => s.heap = keyedSession.heap
    let a := keyedAttachment 2 "a"
    let b := keyedAttachment 4 "b"
    let K := fun key => key = a.key ∨ key = b.key
    let taken := fun key key' : Key Value => key.hash.same key'.hash
    (Session.AboutHeap I ∧ ComparedBy c I K taken ∧ a.Tells c I ∧ b.Tells c I ∧ K a.key ∧ K b.key ∧
      I keyedSession ∧ (∀ r ∈ keyedSession.register, K r.key) ∧
      keyedSession.metadataOf taken a.key = none ∧ keyedSession.Apart taken a.key b.key) ∧
    ∃ s', exec c (attach a.value a.metadata) keyedSession = .ok () s' ∧
      exec c (metadata? b.value) s' = .ok none s' := by
  intro c I a b K taken
  have hI : Session.AboutHeap I := fun _ _ hheap hs => hheap.trans hs
  have hcompared : ComparedBy c I K taken := by
    rintro k k' (rfl | rfl) (rfl | rfl) s hs <;> exact exec_meets_keyed hs rfl rfl (by decide)
  have ha : a.Tells c I := keyedAttachment_tells rfl
  have hb : b.Tells c I := keyedAttachment_tells rfl
  have hKa : K a.key := .inl rfl
  have hKb : K b.key := .inr rfl
  have hregister : ∀ r ∈ keyedSession.register, K r.key := nofun
  have hnone : keyedSession.metadataOf taken a.key = none := rfl
  have hapart : keyedSession.Apart taken a.key b.key := ⟨by decide, nofun⟩
  obtain ⟨s', hattach, hsame, -⟩ :=
    attach_apart hI hcompared ha hb hKa hKb rfl hregister hnone
  obtain ⟨⟨m?, hbefore, hafter⟩, -, -⟩ := hsame hapart
  have hm : m? = none := by
    have hnone' : exec c (metadata? b.value) keyedSession = .ok none keyedSession :=
      hb.hasHash.exec_metadata hcompared hKb rfl hregister
    rw [hnone'] at hbefore
    cases hbefore
    rfl
  subst hm
  exact ⟨⟨hI, hcompared, ha, hb, hKa, hKb, rfl, hregister, hnone, hapart⟩, s', hattach, hafter⟩

end Attachment

/-- Metadata is found for an object that it was not attached to, if that is equal to the one that it
was attached to. -/
theorem metadata_of_equal :
    let a := keyedAttachment 2 "a"
    let b := keyedAttachment 3 "a"
    let attachAndFind : Run Bool := do
      attach a.value a.metadata
      return (← metadata? b.value).isSome
    a.value.identical b.value = false ∧
      (exec (Ask.conduct .none 2) attachAndFind keyedSession).result? = some true := by
  intro a b attachAndFind
  let c := Ask.conduct .none 2
  let I := fun s : Session => s.heap = keyedSession.heap
  let K := fun key => key = a.key ∨ key = b.key
  let taken := fun key key' : Key Value => key.hash.same key'.hash
  have hI : Session.AboutHeap I := fun _ _ hheap hs => hheap.trans hs
  have hcompared : ComparedBy c I K taken := by
    rintro k k' (rfl | rfl) (rfl | rfl) s hs <;> exact exec_meets_keyed hs rfl rfl (by decide)
  have ha : a.Tells c I := keyedAttachment_tells rfl
  have hb : b.Tells c I := keyedAttachment_tells rfl
  have hregister : ∀ r ∈ keyedSession.register, K r.key := nofun
  have hattach : exec c (attach a.value a.metadata) keyedSession = .ok () (keyedSession.attached taken a) :=
    ha.exec_attach hI hcompared (.inl rfl) rfl hregister
  have hwritten : ∀ r ∈ keyedSession.written taken a.key a.metadata, K r.key :=
    Session.forall_mem_written hregister (.inl rfl)
  have hfound : exec c (metadata? b.value) (keyedSession.attached taken a) =
      .ok (some a.metadata) (keyedSession.attached taken a) :=
    hb.hasHash.exec_metadata hcompared (.inr rfl) rfl hwritten
  refine ⟨rfl, ?_⟩
  rw [exec_bind, hattach, Ending.andThen_ok, exec_bind, hfound]
  rfl

end ValueShape
