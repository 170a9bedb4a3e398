import ValueShape.Proofs.Conduct.Record

/-!
# The register in the course of time

Which metadata a session knows of a predicate, and that it is never forgotten.

* `Session.Sound` says that the classes of the library are intact and that every predicate in the
  register has an identity that was handed out.
* `Session.LeadsTo` relates a session to what may become of it: identities are not handed out again,
  and registered metadata stays.  `Session.Notes` relates it to what the library itself makes of it
  when it builds a predicate, and `Session.Adds` says as well that nothing is registered but what was
  built meanwhile.
* `Session.Records s q m` says that the predicate `q` is registered with the metadata `m`.  It lasts
  (`Session.Records.leadsTo`), the metadata is found (`Run.exec_metadata?`), and attaching metadata
  to a new predicate brings it about (`Run.exec_attach`).
-/

set_option autoImplicit false

namespace ValueShape

/-- A hash by identity is that of a value which was made before the identity `n` was handed out. -/
def Hash.IsBefore (n : Nat) (h : Hash) : Prop := ∀ id, h = .token (.id id) → id < n

theorem Hash.same_token_eq_false {h : Hash} {t : Token} (hne : h ≠ .token t) :
    h.same (.token t) = false := by
  cases h with
  | token u =>
    have hu : u ≠ t := fun h => hne (h ▸ rfl)
    simp [same, hu]
  | _ => rfl

theorem Hash.IsBefore.same_token {n id : Nat} {h : Hash} (hh : h.IsBefore n) (hid : n ≤ id) :
    h.same (.token (.id id)) = false :=
  same_token_eq_false fun heq => absurd (hh id heq) (by omega)

namespace Session

/-! ## Sound sessions -/

/-- The classes of the library are intact, and what is registered by its identity was made before. -/
structure Sound (s : Session) : Prop where
  /-- The classes of the library are intact. -/
  intact : s.heap.Intact
  /-- The identity zero is never handed out. -/
  positive : 0 < s.heap.next
  /-- What is registered was made before. -/
  before : ∀ r ∈ s.register, r.key.hash.IsBefore s.heap.next

theorem start_sound : start.Sound where
  intact := Heap.start_intact
  positive := by decide
  before _ hr := absurd hr List.not_mem_nil

/-! ## What becomes of a session

Three relations, each stronger than the one before: what any call may bring about, what the library
does without calling anybody, and what it does to its own new predicates only. -/

/-- A session may become another one: identities are not handed out again, the keys of the register
keep their places, and what has metadata keeps it. -/
structure LeadsTo (s s' : Session) : Prop where
  /-- Identities are not handed out again. -/
  next : s.heap.next ≤ s'.heap.next
  /-- Keys keep their places, and metadata stays. -/
  register (place : Nat) (r : Registration) (hr : s.register[place]? = some r) :
    ∃ r', s'.register[place]? = some r' ∧ r'.key = r.key ∧
      (r.metadata.identical .null = false → r'.metadata = r.metadata)

/-- The library has taken notes: it has handed out identities, registered values that were made
before, and written to the log. -/
structure Notes (s s' : Session) : Prop where
  /-- Identities were handed out. -/
  next : s.heap.next ≤ s'.heap.next
  /-- Nothing else has happened to the heap. -/
  heap : s'.heap = { s.heap with next := s'.heap.next }
  /-- Values were registered. -/
  register : ∃ rs : List Registration, s'.register = s.register ++ rs ∧
    ∀ r ∈ rs, r.key.hash.IsBefore s'.heap.next
  /-- No function of the caller was called. -/
  calls : s'.calls = s.calls
  /-- Nothing is being written. -/
  writing : s'.writing = s.writing

/-- The library has taken notes of its own predicates only: what it has registered is new. -/
structure Adds (s s' : Session) : Prop extends Notes s s' where
  /-- What was registered has an identity that was handed out meanwhile. -/
  new : ∀ r ∈ s'.register, r ∈ s.register ∨ ∃ id, r.key.hash = .token (.id id) ∧ s.heap.next ≤ id

namespace LeadsTo

variable {s s' s'' : Session}

theorem refl (s : Session) : s.LeadsTo s :=
  ⟨Nat.le_refl _, fun _ r hr => ⟨r, hr, rfl, fun _ => rfl⟩⟩

theorem trans (h : s.LeadsTo s') (h' : s'.LeadsTo s'') : s.LeadsTo s'' := by
  refine ⟨Nat.le_trans h.next h'.next, fun place r hr => ?_⟩
  obtain ⟨r', hr', hkey, hmeta⟩ := h.register place r hr
  obtain ⟨r'', hr'', hkey', hmeta'⟩ := h'.register place r' hr'
  refine ⟨r'', hr'', hkey'.trans hkey, fun hnull => ?_⟩
  rw [← hmeta hnull]
  exact hmeta' (by rwa [hmeta hnull])

end LeadsTo

namespace Notes

variable {s s' s'' : Session}

theorem refl (s : Session) : s.Notes s :=
  ⟨Nat.le_refl _, rfl, ⟨[], (List.append_nil _).symm, fun _ hr => absurd hr List.not_mem_nil⟩, rfl, rfl⟩

theorem trans (h : s.Notes s') (h' : s'.Notes s'') : s.Notes s'' := by
  obtain ⟨rs, hrs, hbefore⟩ := h.register
  obtain ⟨rs', hrs', hbefore'⟩ := h'.register
  refine ⟨Nat.le_trans h.next h'.next, ?_, ⟨rs ++ rs', ?_, fun r hr => ?_⟩, h'.calls.trans h.calls,
    h'.writing.trans h.writing⟩
  · rw [h'.heap, h.heap]
  · rw [hrs', hrs, List.append_assoc]
  · rcases List.mem_append.mp hr with hr | hr
    · exact fun id hid => Nat.lt_of_lt_of_le (hbefore r hr id hid) h'.next
    · exact hbefore' r hr

theorem withNext {n : Nat} (hn : s.heap.next ≤ n) : s.Notes (s.withNext n) :=
  ⟨hn, rfl, ⟨[], (List.append_nil _).symm, fun _ hr => absurd hr List.not_mem_nil⟩, rfl, rfl⟩

theorem log (s : Session) (e : Event) : s.Notes { s with events := s.events ++ [e] } :=
  ⟨Nat.le_refl _, rfl, (refl s).register, rfl, rfl⟩

theorem leadsTo (h : s.Notes s') : s.LeadsTo s' := by
  refine ⟨h.next, fun place r hr => ⟨r, ?_, rfl, fun _ => rfl⟩⟩
  obtain ⟨rs, hrs, -⟩ := h.register
  rw [hrs, List.getElem?_append_left (List.getElem?_eq_some_iff.mp hr).1, hr]

theorem sound (h : s.Notes s') (hs : s.Sound) : s'.Sound where
  intact := by
    rw [h.heap]
    exact hs.intact.withNext _
  positive := Nat.lt_of_lt_of_le hs.positive h.next
  before := by
    obtain ⟨rs, hrs, hbefore⟩ := h.register
    intro r hr
    rw [hrs, List.mem_append] at hr
    rcases hr with hr | hr
    · exact fun id hid => Nat.lt_of_lt_of_le (hs.before r hr id hid) h.next
    · exact hbefore r hr

end Notes

namespace Adds

variable {s s' s'' : Session}

theorem refl (s : Session) : s.Adds s := ⟨.refl s, fun _ hr => .inl hr⟩

theorem trans (h : s.Adds s') (h' : s'.Adds s'') : s.Adds s'' := by
  refine ⟨h.toNotes.trans h'.toNotes, fun r hr => ?_⟩
  rcases h'.new r hr with hr | ⟨id, hid, hle⟩
  · exact h.new r hr
  · exact .inr ⟨id, hid, Nat.le_trans h.next hle⟩

theorem withNext {n : Nat} (hn : s.heap.next ≤ n) : s.Adds (s.withNext n) :=
  ⟨.withNext hn, fun _ hr => .inl hr⟩

theorem log (s : Session) (e : Event) : s.Adds { s with events := s.events ++ [e] } :=
  ⟨.log s e, fun _ hr => .inl hr⟩

/-- What is not registered and was made before is not registered afterwards either. -/
theorem unregistered (h : s.Adds s') {id : Nat} (hid : id < s.heap.next)
    (hs : ∀ r ∈ s.register, r.key.hash.same (.token (.id id)) = false) :
    ∀ r ∈ s'.register, r.key.hash.same (.token (.id id)) = false := by
  intro r hr
  rcases h.new r hr with hr | ⟨id', hhash, hle⟩
  · exact hs r hr
  · refine Hash.same_token_eq_false fun heq => ?_
    cases hhash.symm.trans heq
    omega

end Adds

/-! ## Entries -/

/-- A predicate is registered with metadata: its entry is the first one under its hash. -/
structure Records (s : Session) (q metadata : Value) : Prop where
  /-- There is an entry, and no entry before it has the same hash. -/
  entry : ∃ place : Nat, s.register[place]? = some ⟨⟨q, q.identityHash⟩, metadata⟩ ∧
    ∀ i < place, ∀ r : Registration, s.register[i]? = some r →
      r.key.hash.same q.identityHash = false
  /-- The metadata is not null. -/
  metadata_ne : metadata.identical .null = false

theorem Records.leadsTo {s s' : Session} {q metadata : Value} (h : s.Records q metadata)
    (hs : s.LeadsTo s') : s'.Records q metadata := by
  obtain ⟨place, hplace, hbefore⟩ := h.entry
  obtain ⟨⟨key, metadata'⟩, hr, rfl, hmeta⟩ := hs.register place _ hplace
  obtain rfl : metadata' = metadata := hmeta h.metadata_ne
  refine ⟨⟨place, hr, fun i hi r' hr' => ?_⟩, h.metadata_ne⟩
  -- The entries before have kept their keys.
  have hlt : i < s.register.length := Nat.lt_trans hi (List.getElem?_eq_some_iff.mp hplace).1
  obtain ⟨r'', hr'', hkey, -⟩ := hs.register i _ (List.getElem?_eq_getElem hlt)
  obtain rfl : r'' = r' := Option.some.inj (hr''.symm.trans hr')
  rw [hkey]
  exact hbefore i hi _ (List.getElem?_eq_getElem hlt)

end Session

namespace Run

/-! ## Looking up -/

theorem exec_findRegistration?_none (c : Conduct) (s : Session) {key : Key Value}
    {rs : List Registration} (hrs : ∀ r ∈ rs, r.key.hash.same key.hash = false) :
    exec c (findRegistration? key rs) s = .ok none s := by
  induction rs with
  | nil => rfl
  | cons r rs ih =>
    have htail := ih fun r' hr' => hrs r' (List.mem_cons_of_mem _ hr')
    simp only [findRegistration?, hrs r List.mem_cons_self, Bool.false_eq_true, if_false, exec_bind,
      exec_pure, Ending.andThen_ok, htail, Option.map_none]

/-- The first entry with the same hash is found, if it equals the key that is looked for. -/
theorem exec_findRegistration?_some (c : Conduct) (s : Session) {key : Key Value}
    {rs : List Registration} {place : Nat} {r : Registration} (hr : rs[place]? = some r)
    (hsame : r.key.hash.same key.hash = true)
    (hequal : exec c (equal r.key.value key.value) s = .ok true s)
    (hbefore : ∀ i < place, ∀ r' : Registration, rs[i]? = some r' →
      r'.key.hash.same key.hash = false) :
    exec c (findRegistration? key rs) s = .ok (some place) s := by
  induction rs generalizing place with
  | nil => exact absurd hr (by simp)
  | cons r' rs ih =>
    cases place with
    | zero =>
      obtain rfl : r' = r := Option.some.inj hr
      simp only [findRegistration?, hsame, if_true, exec_bind, hequal, Ending.andThen_ok, exec_pure]
    | succ place =>
      have htail := ih hr fun i hi r'' hr'' => hbefore (i + 1) (by omega) r'' hr''
      simp only [findRegistration?, hbefore 0 (by omega) r' rfl, Bool.false_eq_true, if_false,
        exec_bind, exec_pure, Ending.andThen_ok, htail, Option.map_some]

section Predicate

variable (host : Host) (n : Nat) {s : Session} (id : Nat) (name : Name) (facets : Facets)
  (decider : Value)

/-- A predicate is looked up among the entries by its identity. -/
theorem exec_metadata? (hs : s.heap.Intact) {place? : Option Nat}
    (hfind : exec (Ask.conduct host (n + 1)) (findRegistration?
      ⟨.predicate id name facets decider, .token (.id id)⟩ s.register) s = .ok place? s) :
    exec (Ask.conduct host (n + 1)) (metadata? (.predicate id name facets decider)) s =
      .ok (((place?.bind fun place : Nat => s.register[place]?).map (·.metadata)).filter
        fun m => !m.identical .null) s := by
  have hreferable : s.heap.isReferable (.predicate id name facets decider) = true := rfl
  rw [metadata?, registration?]
  simp only [exec_bind, exec_heap, Ending.andThen_ok, hreferable, Bool.not_true, Bool.false_eq_true,
    if_false, exec_recovering, exec_keyed_predicate host n hs id name facets decider, exec_get, hfind,
    exec_pure]
  rfl

/-- The metadata that a predicate is registered with is found. -/
theorem exec_metadata?_some (hs : s.Sound) (hid : id ≠ 0) {metadata : Value}
    (h : s.Records (.predicate id name facets decider) metadata) :
    exec (Ask.conduct host (n + 1)) (metadata? (.predicate id name facets decider)) s =
      .ok (some metadata) s := by
  obtain ⟨place, hplace, hbefore⟩ := h.entry
  have hfind : exec (Ask.conduct host (n + 1)) (findRegistration?
      ⟨.predicate id name facets decider, .token (.id id)⟩ s.register) s = .ok (some place) s :=
    exec_findRegistration?_some _ s hplace (Hash.same_refl _)
      (exec_compare_predicate host n hs.intact hid name facets decider) hbefore
  rw [exec_metadata? host n id name facets decider hs.intact hfind, Option.bind_some, hplace,
    Option.map_some, Option.filter_some, h.metadata_ne]
  rfl

/-- A predicate has no metadata, if there is no entry with its identity. -/
theorem exec_metadata?_none (hs : s.heap.Intact)
    (hnew : ∀ r ∈ s.register, r.key.hash.same (.token (.id id)) = false) :
    exec (Ask.conduct host (n + 1)) (metadata? (.predicate id name facets decider)) s =
      .ok none s := by
  have hfind : exec (Ask.conduct host (n + 1)) (findRegistration?
      ⟨.predicate id name facets decider, .token (.id id)⟩ s.register) s = .ok none s :=
    exec_findRegistration?_none _ s hnew
  rw [exec_metadata? host n id name facets decider hs hfind]
  rfl

/-! ## Attaching -/

theorem exec_register (key : Key Value)
    (hfind : exec (Ask.conduct host (n + 1)) (findRegistration? key s.register) s = .ok none s)
    (metadata : Value) :
    exec (Ask.conduct host (n + 1)) (register key metadata) s =
      .ok () { s with register := s.register ++ [⟨key, metadata⟩] } := by
  rw [register, exec_bind, exec_get, Ending.andThen_ok, exec_bind, hfind, Ending.andThen_ok]
  rfl

/-- Attaching metadata to a new predicate registers it. -/
theorem exec_attach (hs : s.Sound) (hid : id < s.heap.next)
    (hnew : ∀ r ∈ s.register, r.key.hash.IsBefore id) (id' : Nat) {factory : Name}
    (hfactory : (Value.ofName factory).isIdentified = true) (id'' : Nat) {args : List Value}
    (hargs : args.length < maxIndex) :
    let q := Value.predicate id name facets decider
    let metadata := Value.metadata (.kind .metadata) id' factory (.tuple (.kind .tuple) id'' args)
    ∃ s', exec (Ask.conduct host (n + 1)) (attach q metadata) s = .ok () s' ∧ s.Notes s' ∧
      s'.Records q metadata ∧
      s'.register = s.register ++ [⟨⟨q, .token (.id id)⟩, metadata⟩] := by
  intro q metadata
  have hnone : exec (Ask.conduct host (n + 1)) (metadata? q) s = .ok none s :=
    exec_metadata?_none host n id name facets decider hs.intact fun r hr =>
      (hnew r hr).same_token (Nat.le_refl id)
  have hfind : exec (Ask.conduct host (n + 1)) (findRegistration? ⟨q, .token (.id id)⟩ s.register) s =
      .ok none s :=
    exec_findRegistration?_none _ s fun r hr => (hnew r hr).same_token (Nat.le_refl id)
  let s₁ : Session := { s with register := s.register ++ [⟨⟨q, .token (.id id)⟩, metadata⟩] }
  have hnotes : s.Notes s₁ := by
    refine ⟨Nat.le_refl _, rfl, ⟨_, rfl, fun r hr id₁ hid₁ => ?_⟩, rfl, rfl⟩
    obtain rfl := List.mem_singleton.mp hr
    cases hid₁
    exact hid
  have hrecords : s₁.Records q metadata := by
    refine ⟨⟨s.register.length, by simp [s₁, q, Value.identityHash, Value.token, Value.id?],
      fun i hi r hr => ?_⟩, rfl⟩
    rw [List.getElem?_append_left hi] at hr
    exact (hnew r (List.mem_of_getElem? hr)).same_token (Nat.le_refl id)
  have hs₁ : s₁.heap.Intact := hs.intact
  have hsize := exec_size (Ask.conduct host (n + 1))
    (readsPlainly_tuple hs₁ (m := .length) rfl id'' args) hargs
  refine ⟨{ s₁ with events := s₁.events ++ [.attached (.ofName factory) args.length] }, ?_,
    hnotes.trans (.log _ _), hrecords.leadsTo (Session.Notes.log _ _).leadsTo, rfl⟩
  have hreferable : s.heap.isReferable q = true := rfl
  have hkeyed : exec (Ask.conduct host (n + 1)) (keyed q) s = .ok ⟨q, .token (.id id)⟩ s :=
    exec_keyed_predicate host n hs.intact id name facets decider
  have hregister : exec (Ask.conduct host (n + 1)) (register ⟨q, .token (.id id)⟩ metadata) s =
      .ok () s₁ := exec_register host n _ hfind metadata
  have hfactory : exec (Ask.conduct host (n + 1)) (factoryOf metadata) s₁ =
      .ok (.ofName factory) s₁ :=
    (exec_readFactory _ hs₁ id' _ _).trans (exec_identified_of_isIdentified _ hfactory)
  have hread : exec (Ask.conduct host (n + 1)) (readAttribute metadata argumentsAttribute) s₁ =
      .ok (.tuple (.kind .tuple) id'' args) s₁ :=
    (exec_readArguments _ hs₁ id' _ _).trans (exec_identified_of_isIdentified _ rfl)
  simp only [attach, exec_bind, exec_heap, Ending.andThen_ok, hreferable, Bool.not_true,
    Bool.false_eq_true, if_false, hnone, Option.isSome_none, hkeyed, hregister, hfactory, hread,
    hsize, exec_log]

end Predicate

end Run

/-! ## Calling -/

/-- A predicate of an intact class is called in the way that it was made for. -/
theorem Heap.Intact.callsDecider {h : Heap} (hh : h.Intact) (v : Value) :
    Ask.callsDecider h v = true := by
  cases v with
  | predicate id name facets decider =>
    have hcheck : ("_check", Kind.memberField) ∈ Kind.predicate.fields := by decide
    have hclass : h.classOf (.predicate id name facets decider) = .kind .predicate := hh.classOf rfl
    rw [Ask.callsDecider, provider?, hh.slot? rfl, hclass, Ask.deciderAttribute,
      (hh.inherited?_field rfl hcheck).1]
    rfl
  | _ => rfl

theorem Run.exec_call_of_sound (host : Host) (n : Nat) {s : Session} (hs : s.Sound)
    (f : Value) (args : List Value) :
    exec (Ask.conduct host (n + 1)) (call f args) s =
      exec (Ask.conduct host n) (Ask.callWith host f args) s := by
  change exec (Ask.conduct host n) (Ask.callOnce host f args) s = _
  rw [Ask.callOnce, exec_bind, exec_heap, Ending.andThen_ok, hs.intact.callsDecider, if_pos rfl]

end ValueShape
