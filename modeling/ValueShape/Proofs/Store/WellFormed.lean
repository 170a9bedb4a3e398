import ValueShape.Proofs.Build.Keep
import ValueShape.Proofs.Store.Ledger

/-!
# Well-formed registers

What the register says about predicates with facets and about object shapes, and how long it does.

* `Value.Tells q f` says that the value `q` tells the facets `f` once and for all.  Predicates tell
  those that they were made with, functions tell none.
* `Heap.Fits kept h p name args` says that the arguments `args` fit a predicate `p` under the factory
  name `name`.  Only the three names matter that the library itself relies on: the two modifiers and
  `object_of`.
* `Session.WellFormed kept` says that the classes of the library are intact, that what is registered
  was made before, and that every record under one of these names fits the predicate that it is
  registered for.  The mappings at the places `kept` are those that the caller does not write to.
* `Session.Goes kept n s s'` says that `s'` is well-formed and comes after `s`, and that nothing was
  registered in between except predicates with identities from `n` on, of which the log tells in turn.
  `Session.Proceeds` makes that a course: what a computation keeps to if it registers its own predicates
  only.
-/

set_option autoImplicit false

namespace ValueShape

open Run

/-! ## Facets -/

/-- A value tells its facets once and for all: as long as the classes of the library are intact,
asking for them gives these and nothing else happens. -/
def Value.Tells (q : Value) (f : Facets) : Prop :=
  ∀ (c : Conduct) (s : Session), s.heap.Intact →
    exec c (Build.isOptional q) s = .ok (.bool f.optional) s ∧
      exec c (Build.isReadonly q) s = .ok (.bool f.readonly) s

theorem Value.Tells.unique {q : Value} {f f' : Facets} (hf : q.Tells f) (hf' : q.Tells f') :
    f = f' := by
  obtain ⟨hoptional, hreadonly⟩ := hf .none .start Heap.start_intact
  obtain ⟨hoptional', hreadonly'⟩ := hf' .none .start Heap.start_intact
  rw [hoptional] at hoptional'
  rw [hreadonly] at hreadonly'
  obtain ⟨o, r⟩ := f
  cases hoptional'
  cases hreadonly'
  rfl

/-- A predicate tells the facets that it was made with. -/
theorem Value.tells_predicate (id : Nat) (name : Name) (f : Facets) (decider : Value) :
    (predicate id name f decider).Tells f := by
  intro c s hs
  simp only [Build.isOptional, Build.isReadonly, Build.facetOf, exec_bind,
    exec_isPredicate c hs, Ending.andThen_ok, if_true, exec_readOptional c hs,
    exec_readReadonly c hs, and_self]

/-! ## What predicates ask

Predicates are values that contain what they ask, so none of them can ask itself.  It is not so with
the arguments in metadata, which are kept in the register instead. -/

/-- The values that a predicate asks: what decides for it, and if that is a rule, what the rule
asks. -/
def Value.asked : Value → List Value
  | .predicate _ _ _ (.rule id check) => .rule id check :: check.callables
  | .predicate _ _ _ decider => [decider]
  | _ => []

theorem Check.sizeOf_lt_of_mem_callables {check : Rule} {q : Value} (hq : q ∈ check.callables) :
    sizeOf q < sizeOf check := by
  cases check with
  | array p | record p | optional p =>
    obtain rfl := List.mem_singleton.mp hq
    simp
  | tuple ps rest | parameters ps _ rest =>
    rcases List.mem_append.mp hq with hq | hq
    · have := List.sizeOf_lt_of_mem hq
      simp
      omega
    · obtain rfl := Option.mem_toList.mp hq
      simp
      omega
  | object fields allowed =>
    obtain ⟨⟨name, q'⟩, hfield, rfl⟩ := List.mem_map.mp hq
    have := List.sizeOf_lt_of_mem hfield
    simp at this ⊢
    omega
  | oneOf ps | allOf ps =>
    have := List.sizeOf_lt_of_mem (show q ∈ ps from hq)
    simp
    omega
  | literal l | literals ls | instanceOf cls => cases hq

/-- What a predicate asks is smaller than the predicate, so no predicate asks itself. -/
theorem Value.sizeOf_lt_of_mem_asked {p q : Value} (hq : q ∈ p.asked) : sizeOf q < sizeOf p := by
  unfold asked at hq
  split at hq
  · rcases List.mem_cons.mp hq with rfl | hq
    · simp only [predicate.sizeOf_spec]
      omega
    · have := Check.sizeOf_lt_of_mem_callables hq
      simp only [predicate.sizeOf_spec, rule.sizeOf_spec]
      omega
  · obtain rfl := List.mem_singleton.mp hq
    simp only [predicate.sizeOf_spec]
    omega
  · cases hq

/-! ## Metadata

Under some names the library reads what was registered, and relies on it.  A record under such a
name has to fit the predicate; under any other name it may say what it likes. -/

/-- Whether a factory name is one of those that the library relies on when it reads metadata. -/
def isReserved (name : String) : Bool :=
  [Modifier.optional.name, Modifier.readonly.name, Operation.objectOf.name].contains name

/-- The factory name that a record of metadata was made with. -/
def Value.factory? : Value → Option String
  | .metadata _ _ factory _ => some factory.text
  | _ => none

/-- Metadata is a record under a name that the library relies on. -/
def Value.IsReserved (m : Value) : Prop := ∃ name, m.factory? = some name ∧ isReserved name = true

/-- The arguments that a predicate is registered with fit it, as far as the factory name is one that
the library relies on. -/
inductive Heap.Fits (kept : Nat → Prop) (h : Heap) : Value → String → List Value → Prop
  /-- The predicate has the optional facet and keeps the other one, and so does its rule. -/
  | optional {id id' : Nat} {name : Name} {readonly : Bool} {q : Value} (hid : id ≠ 0)
      (hcallable : h.isCallable q = true) (hfacets : ∀ f, q.Tells f → f = ⟨false, readonly⟩) :
      Fits kept h (.predicate id name ⟨true, readonly⟩ (.rule id' (.optional q)))
        Modifier.optional.name [q]
  /-- The predicate has the readonly facet and keeps the other one. -/
  | readonly {id : Nat} {name : Name} {optional : Bool} {q : Value} (hid : id ≠ 0)
      (hcallable : h.isCallable q = true) (hfacets : ∀ f, q.Tells f → f = ⟨optional, false⟩) :
      Fits kept h (.predicate id name ⟨optional, true⟩ q) Modifier.readonly.name [q]
  /-- The predicate has no facet.  The arguments are a mapping from names to what it asks, and one
  that tells whether it is strict. -/
  | object {id id' i i' place place' : Nat} {name : Name} {fields : List (Name × Value)}
      {allowed : Option (List (Key Value))} (hid : id ≠ 0)
      (hcallable : ∀ field ∈ fields, h.isCallable field.2 = true)
      (hmapping : kept place → ∃ es, h.Seals place es ∧ ∀ e ∈ es,
        (∃ name, e.1.value = .ofName name) ∧ e.2 ∈ fields.map (·.2))
      (hoptions : kept place' → ∃ hash,
        h.Seals place' [(⟨.keptText strictKey, hash⟩, .bool allowed.isSome)]) :
      Fits kept h (.predicate id name .none (.rule id' (.object fields allowed)))
        Operation.objectOf.name [.view i (.ref place), .view i' (.ref place')]
  /-- Other names do not matter. -/
  | other {p : Value} {name : String} {args : List Value} (hname : isReserved name = false) :
      Fits kept h p name args

theorem Heap.Fits.evolves {kept : Nat → Prop} {h h' : Heap} {p : Value} {name : String}
    {args : List Value} (hfits : h.Fits kept p name args) (hh : Evolves kept h h') :
    h'.Fits kept p name args := by
  cases hfits with
  | optional hid hcallable hfacets => exact .optional hid (hh.callable _ hcallable) hfacets
  | readonly hid hcallable hfacets => exact .readonly hid (hh.callable _ hcallable) hfacets
  | object hid hcallable hmapping hoptions =>
    refine .object hid (fun field hfield => hh.callable _ (hcallable field hfield)) (fun hkept => ?_)
      fun hkept => ?_
    · obtain ⟨es, hseals, hes⟩ := hmapping hkept
      exact ⟨es, hh.seals _ _ hkept hseals, hes⟩
    · obtain ⟨hash, hseals⟩ := hoptions hkept
      exact ⟨hash, hh.seals _ _ hkept hseals⟩
  | other hname => exact .other hname

/-- An argument that a predicate `p` is registered with holds no predicates but earlier ones: it was
`given` to the call that built `p`, or `p` asks it, or it is a tuple or a mapping of what `p` asks. -/
inductive Heap.Earlier (kept : Nat → Prop) (h : Heap) (given : List Value) (p : Value) : Value → Prop
  | given {a : Value} (ha : a ∈ given) : Earlier kept h given p a
  | asked {a : Value} (ha : a ∈ p.asked) : Earlier kept h given p a
  | tuple {id : Nat} {items : List Value}
      (hitems : ∀ q ∈ items, q.coreKind? = some .predicate → q ∈ p.asked) :
      Earlier kept h given p (.tuple (.kind .tuple) id items)
  | view {id place : Nat} (hentries : kept place → ∃ es, h.Seals place es ∧
      ∀ e ∈ es, e.2.coreKind? = some .predicate → e.2 ∈ p.asked) :
      Earlier kept h given p (.view id (.ref place))

theorem Heap.Earlier.evolves {kept : Nat → Prop} {h h' : Heap} {given : List Value} {p a : Value}
    (ha : h.Earlier kept given p a) (hh : Evolves kept h h') : h'.Earlier kept given p a := by
  cases ha with
  | given ha => exact .given ha
  | asked ha => exact .asked ha
  | tuple hitems => exact .tuple hitems
  | view hentries =>
    refine .view fun hkept => ?_
    obtain ⟨es, hseals, hes⟩ := hentries hkept
    exact ⟨es, hh.seals _ _ hkept hseals, hes⟩

theorem Value.decider_mem_asked (id : Nat) (name : Name) (f : Facets) (decider : Value) :
    decider ∈ (predicate id name f decider).asked := by
  cases decider <;> exact List.mem_cons_self

theorem Value.mem_asked_of_mem_callables {q : Value} {check : Rule} (hq : q ∈ check.callables)
    (id : Nat) (name : Name) (f : Facets) (id' : Nat) :
    q ∈ (predicate id name f (.rule id' check)).asked := List.mem_cons_of_mem _ hq

namespace Session

variable {kept : Nat → Prop} {s s' s'' : Session}

/-- A predicate is registered under a factory name with arguments. -/
def Ascribes (s : Session) (p : Value) (factory : String) (args : List Value) : Prop :=
  ∃ id id', s.Records p
    (.metadata (.kind .metadata) id (.kept factory) (.tuple (.kind .tuple) id' args))

theorem Ascribes.leadsTo {p : Value} {factory : String} {args : List Value}
    (h : s.Ascribes p factory args) (hs : s.LeadsTo s') : s'.Ascribes p factory args := by
  obtain ⟨id, id', hrecords⟩ := h
  exact ⟨id, id', hrecords.leadsTo hs⟩

/-- A predicate with an identity from `n` on is registered, and the arguments hold no predicates but
earlier ones. -/
def Enters (kept : Nat → Prop) (n : Nat) (given : List Value) (s : Session) (p : Value) : Prop :=
  (∃ id name f decider, p = .predicate id name f decider ∧ n ≤ id) ∧
    ∃ factory args, s.Ascribes p factory args ∧ ∀ a ∈ args, s.heap.Earlier kept given p a

/-- The registration at a place is a record of the library, which fits the predicate that it is
registered for and is found under its identity. -/
structure Sanctions (kept : Nat → Prop) (s : Session) (place : Nat) (r : Registration) : Prop where
  /-- It is a record of the library, and it fits. -/
  record : ∃ id id' name args, r.metadata =
    .metadata (.kind .metadata) id (.kept name) (.tuple (.kind .tuple) id' args) ∧
      s.heap.Fits kept r.key.value name args
  /-- It is registered under the identity. -/
  hash : r.key.hash = r.key.value.identityHash
  /-- No registration before it has the same hash. -/
  first (i : Nat) (hi : i < place) (r' : Registration) (hr' : s.register[i]? = some r') :
    r'.key.hash.same r.key.hash = false

/-- The classes of the library are intact, what is registered was made before, and metadata under a
name that the library relies on fits. -/
structure WellFormed (kept : Nat → Prop) (s : Session) : Prop where
  /-- The classes of the library are intact. -/
  guarded : s.heap.Guarded
  /-- The identity zero is never handed out. -/
  positive : 0 < s.heap.next
  /-- What is registered was made before. -/
  before : ∀ r ∈ s.register, r.key.hash.IsBefore s.heap.next
  /-- Metadata under a name that the library relies on fits. -/
  sanctions (place : Nat) (r : Registration) (hr : s.register[place]? = some r)
    (hreserved : r.metadata.IsReserved) : s.Sanctions kept place r

theorem start_wellFormed : start.WellFormed kept where
  guarded := Heap.start_guarded
  positive := by decide
  before _ hr := absurd hr List.not_mem_nil
  sanctions _ _ hr := absurd hr (by simp [start])

theorem WellFormed.sound (hs : s.WellFormed kept) : s.Sound :=
  ⟨hs.guarded.toIntact, hs.positive, hs.before⟩

/-- Keys keep their places in the register. -/
def KeepsKeys (s s' : Session) : Prop :=
  ∀ (place : Nat) (r : Registration), s.register[place]? = some r →
    ∃ r', s'.register[place]? = some r' ∧ r'.key = r.key

theorem Sanctions.keepsKeys {place : Nat} {r : Registration} (h : s.Sanctions kept place r)
    (hr : s.register[place]? = some r) (hkeys : s.KeepsKeys s')
    (hheap : s.heap.Evolves kept s'.heap) : s'.Sanctions kept place r := by
  obtain ⟨id, id', name, args, heq, hfits⟩ := h.record
  refine ⟨⟨id, id', name, args, heq, hfits.evolves hheap⟩, h.hash, fun i hi r' hr' => ?_⟩
  have hlt : i < s.register.length := Nat.lt_trans hi (List.getElem?_eq_some_iff.mp hr).1
  obtain ⟨r'', hr'', hkey⟩ := hkeys i _ (List.getElem?_eq_getElem hlt)
  obtain rfl : r'' = r' := Option.some.inj (hr''.symm.trans hr')
  rw [hkey]
  exact h.first i hi _ (List.getElem?_eq_getElem hlt)

theorem Sanctions.records {place : Nat} {r : Registration} (h : s.Sanctions kept place r)
    (hr : s.register[place]? = some r) : s.Records r.key.value r.metadata := by
  obtain ⟨⟨value, hash⟩, metadata⟩ := r
  obtain ⟨id, id', name, args, heq, -⟩ := h.record
  have hhash : hash = value.identityHash := h.hash
  subst hhash
  refine ⟨⟨place, hr, h.first⟩, ?_⟩
  have heq : metadata = _ := heq
  rw [heq]
  rfl

/-! ## What comes after a session -/

/-- What was registered after a session has an identity from `n` on. -/
structure Extends (kept : Nat → Prop) (n : Nat) (s s' : Session) : Prop where
  /-- The heap has evolved. -/
  heap : s.heap.Evolves kept s'.heap
  /-- Predicates were registered that had not been made yet, and the log tells of them. -/
  posts : ∃ ps : List Posting, s.Posts ps s' ∧
    ∀ p ∈ ps, ∃ id, p.registration.key.hash = .token (.id id) ∧ n ≤ id

theorem Extends.register {n : Nat} (h : s.Extends kept n s') :
    ∃ rs : List Registration, s'.register = s.register ++ rs ∧
      ∀ r ∈ rs, ∃ id, r.key.hash = .token (.id id) ∧ n ≤ id := by
  obtain ⟨ps, hps, hnew⟩ := h.posts
  exact ⟨_, hps.register, List.forall_mem_map.mpr hnew⟩

theorem Extends.keepsKeys {n : Nat} (h : s.Extends kept n s') : s.KeepsKeys s' := by
  intro place r hr
  obtain ⟨rs, hrs, -⟩ := h.register
  exact ⟨r, by rw [hrs, List.getElem?_append_left (List.getElem?_eq_some_iff.mp hr).1, hr], rfl⟩

/-- A session is well-formed and comes after another one. -/
structure Goes (kept : Nat → Prop) (n : Nat) (s s' : Session) : Prop extends Extends kept n s s' where
  /-- It is well-formed. -/
  wellFormed : s'.WellFormed kept

theorem Extends.leadsTo {n : Nat} (h : s.Extends kept n s') : s.LeadsTo s' := by
  refine ⟨h.heap.next, fun place r hr => ⟨r, ?_, rfl, fun _ => rfl⟩⟩
  obtain ⟨rs, hrs, -⟩ := h.register
  rw [hrs, List.getElem?_append_left (List.getElem?_eq_some_iff.mp hr).1, hr]

namespace Goes

variable {n m : Nat}

theorem refl (hs : s.WellFormed kept) : s.Goes kept n s :=
  ⟨⟨.refl hs.guarded, [], .refl s, fun _ hp => absurd hp List.not_mem_nil⟩, hs⟩

theorem mono (h : s.Goes kept m s') (hn : n ≤ m) : s.Goes kept n s' := by
  obtain ⟨ps, hps, hnew⟩ := h.posts
  refine ⟨⟨h.heap, ps, hps, fun p hp => ?_⟩, h.wellFormed⟩
  obtain ⟨id, hid, hle⟩ := hnew p hp
  exact ⟨id, hid, Nat.le_trans hn hle⟩

theorem trans (h : s.Goes kept n s') (h' : s'.Goes kept n s'') : s.Goes kept n s'' := by
  obtain ⟨ps, hps, hnew⟩ := h.posts
  obtain ⟨ps', hps', hnew'⟩ := h'.posts
  exact ⟨⟨h.heap.trans h'.heap, ps ++ ps', hps.trans hps', List.forall_mem_append.mpr ⟨hnew, hnew'⟩⟩,
    h'.wellFormed⟩

end Goes

/-- Where nothing is registered, a session stays well-formed. -/
theorem WellFormed.goes_of_register (hs : s.WellFormed kept) (n : Nat)
    (hheap : s.heap.Evolves kept s'.heap) (hregister : s'.register = s.register)
    (hlog : s'.attachments = s.attachments) : s.Goes kept n s' := by
  have hextends : s.Extends kept n s' :=
    ⟨hheap, [], .of_eq hregister hlog, fun _ hp => absurd hp List.not_mem_nil⟩
  refine ⟨hextends, hheap.guarded, Nat.lt_of_lt_of_le hs.positive hheap.next, fun r hr id hid => ?_,
    fun place r hr hreserved => ?_⟩
  · rw [hregister] at hr
    exact Nat.lt_of_lt_of_le (hs.before r hr id hid) hheap.next
  · rw [hregister] at hr
    exact (hs.sanctions place r hr hreserved).keepsKeys hr hextends.keepsKeys hheap

/-- The library goes on from a well-formed session: the session stays well-formed, and nothing is
registered but what was made meanwhile. -/
def Proceeds (kept : Nat → Prop) (s s' : Session) : Prop :=
  s.WellFormed kept → s.Goes kept s.heap.next s'

theorem course_proceeds : Course (Proceeds kept) where
  refl s hs := .refl hs
  trans {s s' s''} h h' hs := by
    have hgoes := h hs
    exact hgoes.trans ((h' hgoes.wellFormed).mono hgoes.heap.next)
  aside s calls writing hs := hs.goes_of_register _ (.refl hs.guarded) rfl rfl
  decision s m o predicate hs := by
    refine hs.goes_of_register _ (.refl hs.guarded) rfl ?_
    rw [attachments, List.filter_append, attachments]
    exact List.append_nil _
  heap s h hh hs := by
    have hall := hh hs.guarded
    exact hs.goes_of_register _ ⟨hall.guarded, hall.next, hall.callable, hall.iterator,
      fun place es _ => hall.seals place es trivial⟩ rfl rfl
  iterator {s s'} h v cursor hv cursor' hs := by
    have hgoes := h hs
    obtain ⟨now, hnow⟩ := hgoes.heap.iterator v cursor hv
    exact hgoes.trans (hgoes.wellFormed.goes_of_register _
      (hgoes.wellFormed.guarded.evolves_iterator hnow cursor') rfl rfl)

/-! ## Registering

A predicate is made first, and registered later under the identity that it was given.  In between,
the session awaits the registration. -/

/-- Nothing is registered under an identity, which was handed out. -/
structure Awaits (s : Session) (id : Nat) : Prop where
  /-- It was handed out. -/
  lt : id < s.heap.next
  /-- Nothing is registered under it. -/
  unused : ∀ r ∈ s.register, r.key.hash.same (.token (.id id)) = false

/-- A new predicate is ready to be registered. -/
def Readies (n : Nat) (s : Session) (v : Value) : Prop :=
  ∃ id name f decider, v = .predicate id name f decider ∧ n ≤ id ∧ s.Awaits id

theorem Awaits.goes {id n : Nat} (h : s.Awaits id) (hs : s.Goes kept n s') (hid : id < n) :
    s'.Awaits id := by
  refine ⟨Nat.lt_of_lt_of_le h.lt hs.heap.next, fun r hr => ?_⟩
  obtain ⟨rs, hrs, hnew⟩ := hs.register
  rw [hrs, List.mem_append] at hr
  rcases hr with hr | hr
  · exact h.unused r hr
  · obtain ⟨id', hid', hle⟩ := hnew r hr
    refine Hash.same_token_eq_false fun heq => ?_
    cases hid'.symm.trans heq
    omega

/-- A predicate with an identity that was just handed out is registered, and the log tells so. -/
theorem WellFormed.goes_posted (hs : s.WellFormed kept) {id : Nat} (hid : s.Awaits id)
    {name : Name} {f : Facets} {decider m : Value} {event? : Option Event}
    (hfaithful : Posting.IsFaithful ⟨⟨⟨.predicate id name f decider, .token (.id id)⟩, m⟩, event?⟩)
    (hfits : m.IsReserved → ∃ id₁ id₂ factory args, m =
      .metadata (.kind .metadata) id₁ (.kept factory) (.tuple (.kind .tuple) id₂ args) ∧
        s.heap.Fits kept (.predicate id name f decider) factory args) :
    let p := Value.predicate id name f decider
    let s' := s.posted ⟨⟨⟨p, .token (.id id)⟩, m⟩, event?⟩
    s.Goes kept id s' ∧ s'.Records p m := by
  intro p s'
  have hregister : s'.register = s.register ++ [⟨⟨p, .token (.id id)⟩, m⟩] := rfl
  have hextends : s.Extends kept id s' := by
    refine ⟨.refl hs.guarded, _, s.posts_posted hfaithful, fun q hq => ⟨id, ?_, Nat.le_refl id⟩⟩
    rw [List.mem_singleton.mp hq]
  have hfirst (i : Nat) (hi : i < s.register.length) (r : Registration)
      (hr : s'.register[i]? = some r) : r.key.hash.same (.token (.id id)) = false := by
    rw [hregister, List.getElem?_append_left hi] at hr
    exact hid.unused r (List.mem_of_getElem? hr)
  have hrecords : s'.Records p m :=
    ⟨⟨s.register.length, by simp [hregister, p, Value.identityHash, Value.token, Value.id?], hfirst⟩,
      hfaithful.metadata_ne⟩
  refine ⟨⟨hextends, hs.guarded, hs.positive, fun r hr id' hid' => ?_,
    fun place r hr hreserved => ?_⟩, hrecords⟩
  · rcases List.mem_append.mp hr with hr | hr
    · exact hs.before r hr id' hid'
    · rw [List.mem_singleton.mp hr] at hid'
      cases hid'
      exact hid.lt
  · rcases Nat.lt_or_ge place s.register.length with hlt | hge
    · rw [hregister, List.getElem?_append_left hlt] at hr
      exact (hs.sanctions place r hr hreserved).keepsKeys hr hextends.keepsKeys (.refl hs.guarded)
    · have hplace : place = s.register.length := by
        have hlt : place < s'.register.length := (List.getElem?_eq_some_iff.mp hr).1
        rw [hregister, List.length_append, List.length_singleton] at hlt
        omega
      subst hplace
      obtain rfl : ⟨⟨p, .token (.id id)⟩, m⟩ = r := by simpa [hregister] using hr
      exact ⟨hfits hreserved, rfl, hfirst⟩

end Session

end ValueShape
