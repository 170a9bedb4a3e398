import ValueShape.Proofs.Store.WellFormed

/-!
# New predicates are registered

How the library gets from a well-formed session to another one where it registers a predicate.

* `Conduct.Serves` says that under a conduct the library can do this.
* `Run.Brings kept c n s m P` says that the computation `m` takes the session `s` to a well-formed one,
  in which nothing new is registered but identities from `n` on, and that a result has the property `P`.
  `Run.Brings.bind` is the rule for what goes on with the result.
* A new predicate is not registered yet (`Run.brings_wrap`).  Attaching metadata that fits registers it
  (`Run.brings_attach`).  A product is the one after the other (`Run.brings_productBy`).
-/

set_option autoImplicit false

namespace ValueShape

open Run

/-- Under a conduct a predicate is found by its identity, and equals itself. -/
structure Conduct.FindsPredicates (c : Conduct) : Prop where
  /-- It is found by its identity. -/
  hash {s : Session} (hs : s.heap.Intact) (id : Nat) (name : Name) (f : Facets) (decider : Value) :
    exec c (Run.hash (.predicate id name f decider)) s = .ok (.token (.id id)) s
  /-- It equals itself. -/
  equal {s : Session} (hs : s.heap.Intact) {id : Nat} (hid : id ≠ 0) (name : Name) (f : Facets)
    (decider : Value) : exec c (Run.equal (.predicate id name f decider)
      (.predicate id name f decider)) s = .ok true s

/-- Under a conduct the library goes on from well-formed sessions, and predicates are found by their
identities, if at all. -/
structure Conduct.Serves (kept : Nat → Prop) (c : Conduct) : Prop where
  /-- The library goes on. -/
  keeps : c.Keeps (Session.Proceeds kept)
  /-- Predicates are found, or none of them has a hash. -/
  finds : c.FindsPredicates ∨ ∀ {s : Session}, s.heap.Intact → ∀ (id : Nat) (name : Name) (f : Facets)
    (decider : Value), ∃ e, exec c (Run.hash (.predicate id name f decider)) s = .error e s

namespace Run

variable {kept : Nat → Prop} {c : Conduct} {n : Nat} {s : Session} {α β : Type}

/-- From a session on, a computation leaves a session that comes after it, where nothing new is
registered but identities from `n` on, and a result has a property. -/
structure Brings (kept : Nat → Prop) (c : Conduct) (n : Nat) (s : Session) (m : Run α)
    (P : α → Session → Prop) : Prop where
  /-- The session goes on. -/
  goes : s.Goes kept n (exec c m s).session
  /-- A result has the property. -/
  result (a : α) (s' : Session) (h : exec c m s = .ok a s') : P a s'

namespace Brings

variable {m : Run α} {k : α → Run β} {P P' : α → Session → Prop} {Q : β → Session → Prop}

theorem of_keeps (hm : Keeps (Session.Proceeds kept) c m) (hs : s.WellFormed kept)
    (hn : n ≤ s.heap.next) : Brings kept c n s m fun _ _ => True :=
  ⟨(hm s hs).mono hn, fun _ _ _ => trivial⟩

theorem pure (a : α) (hs : s.WellFormed kept) (ha : P a s) :
    Brings kept c n s (Pure.pure a) P :=
  ⟨.refl hs, fun b s' h => by cases h; exact ha⟩

theorem throw (e : Failure) (hs : s.WellFormed kept) :
    Brings kept c n s (MonadExcept.throw e) P :=
  ⟨.refl hs, fun b s' h => by cases h⟩

theorem imp (h : Brings kept c n s m P) (hP : ∀ a s', P a s' → P' a s') :
    Brings kept c n s m P' :=
  ⟨h.goes, fun a s' ha => hP a s' (h.result a s' ha)⟩

theorem mono {n' : Nat} (h : Brings kept c n' s m P) (hn : n ≤ n') : Brings kept c n s m P :=
  ⟨h.goes.mono hn, h.result⟩

theorem bind (hm : Brings kept c n s m P)
    (hk : ∀ a s', exec c m s = .ok a s' → s.Goes kept n s' → P a s' →
      Brings kept c n s' (k a) Q) : Brings kept c n s (m >>= k) Q := by
  have hgoes := hm.goes
  cases hms : exec c m s with
  | ok a s' =>
    rw [hms] at hgoes
    have hka := hk a s' hms hgoes (hm.result a s' hms)
    have hexec : exec c (m >>= k) s = exec c (k a) s' := by rw [exec_bind, hms, Ending.andThen_ok]
    exact ⟨hexec ▸ hgoes.trans hka.goes, fun b s'' hb => hka.result b s'' (hexec ▸ hb)⟩
  | error e s' =>
    rw [hms] at hgoes
    have hexec : exec c (m >>= k) s = .error e s' := by rw [exec_bind, hms, Ending.andThen_error]
    exact ⟨hexec ▸ hgoes, fun b s'' hb => by cases hexec.symm.trans hb⟩

/-- A result is there in a session that comes after the first one. -/
theorem with_goes (h : Brings kept c n s m P) :
    Brings kept c n s m fun a s' => s.Goes kept n s' ∧ P a s' := by
  refine ⟨h.goes, fun a s' ha => ⟨?_, h.result a s' ha⟩⟩
  have hgoes := h.goes
  rwa [ha] at hgoes

/-- What comes first is no more than a computation that goes on. -/
theorem after (hm : Keeps (Session.Proceeds kept) c m) (hs : s.WellFormed kept)
    (hn : n ≤ s.heap.next)
    (hk : ∀ a s', s.Goes kept n s' → Brings kept c n s' (k a) Q) :
    Brings kept c n s (m >>= k) Q :=
  (of_keeps hm hs hn).bind fun a s' _ hgoes _ => hk a s' hgoes

/-- Nothing comes after a failure. -/
theorem throw_bind (e : Failure) (hs : s.WellFormed kept) :
    Brings kept c n s (MonadExcept.throw e >>= k) Q :=
  (throw (P := fun _ _ => False) e hs).bind fun _ _ _ _ h => h.elim

/-- What comes first can be skipped, if nothing else matters afterwards. -/
theorem skip (hm : Keeps (Session.Proceeds kept) c m) (hs : s.WellFormed kept)
    (hn : n ≤ s.heap.next)
    (hk : ∀ a s', s'.WellFormed kept → n ≤ s'.heap.next → Brings kept c n s' (k a) Q) :
    Brings kept c n s (m >>= k) Q :=
  after hm hs hn fun a s' hgoes => hk a s' hgoes.wellFormed (Nat.le_trans hn hgoes.heap.next)

end Brings

/-! ## New predicates

Between making a predicate and registering it, its record is made.  Its place in the register stays
empty for so long. -/

section New

variable (hc : c.Serves kept) (hs : s.WellFormed kept)
include hc hs

/-- A new predicate has the next identity, under which nothing is registered, and facets that count
by their truth values. -/
theorem brings_wrap (hn : n ≤ s.heap.next) (decider : Value) (name : Name) (optional readonly : Value) :
    Brings kept c n s (Build.wrap decider name optional readonly) fun v s' => s'.Readies n v ∧
      ∃ id f, id ≠ 0 ∧ n ≤ id ∧ v = .predicate id name f decider ∧
        (∀ b, optional = .bool b → f.optional = b) ∧ ∀ b, readonly = .bool b → f.readonly = b := by
  let id := s.heap.next
  let s₁ := s.withNext (id + 1)
  have hgoes₁ : s.Goes kept n s₁ :=
    hs.goes_of_register n (hs.guarded.evolves_withNext (Nat.le_succ _)) rfl rfl
  have hawaits : s₁.Awaits id :=
    ⟨Nat.lt_succ_self id, fun r hr => (hs.before r hr).same_token (Nat.le_refl id)⟩
  have hstore (name' : String) (value : Value) :
      Keeps (Session.Proceeds kept) c (storeField (.predicate id name .none decider) name' value) :=
    Keeps.storeField hc.keeps rfl name' value
  have htruth {s' : Session} (hs' : s₁.Goes kept (id + 1) s') (v : Value) :
      Brings kept c (id + 1) s' (truth v) fun a _ => ∀ b, v = .bool b → a = b := by
    refine ⟨((Keeps.truth hc.keeps v) s' hs'.wellFormed).mono hs'.heap.next, ?_⟩
    rintro a s'' ha b rfl
    rw [truth_bool] at ha
    cases ha
    rfl
  have hrest : Brings kept c (id + 1) s₁ (do
      storeField (.predicate id name .none decider) "_check" decider
      storeField (.predicate id name .none decider) "_name" (.ofName name)
      let o ← truth optional
      storeField (.predicate id name .none decider) "_optional" (.bool o)
      let r ← truth readonly
      storeField (.predicate id name .none decider) "_readonly" (.bool r)
      return Value.predicate id name ⟨o, r⟩ decider) fun v _ =>
        ∃ f, v = .predicate id name f decider ∧
          (∀ b, optional = .bool b → f.optional = b) ∧ ∀ b, readonly = .bool b → f.readonly = b := by
    refine .after (hstore _ _) hgoes₁.wellFormed (Nat.le_refl _) fun _ s₂ h₂ => ?_
    refine .after (hstore _ _) h₂.wellFormed h₂.heap.next fun _ s₃ h₃ => ?_
    have h₃ := h₂.trans h₃
    refine (htruth h₃ optional).bind fun o s₄ _ h₄ ho => ?_
    have h₄ := h₃.trans h₄
    refine .after (hstore _ _) h₄.wellFormed h₄.heap.next fun _ s₅ h₅ => ?_
    have h₅ := h₄.trans h₅
    refine (htruth h₅ readonly).bind fun r s₆ _ h₆ hr => ?_
    have h₆ := h₅.trans h₆
    refine .after (hstore _ _) h₆.wellFormed h₆.heap.next fun _ s₇ h₇ => ?_
    exact .pure _ h₇.wellFormed ⟨⟨o, r⟩, rfl, ho, hr⟩
  have hfresh : Brings kept c n s fresh fun a s' => a = id ∧ s' = s₁ :=
    ⟨hgoes₁, fun a s' ha => by rw [exec_fresh] at ha; cases ha; exact ⟨rfl, rfl⟩⟩
  rw [Build.wrap]
  refine hfresh.bind fun a s' _ _ ha => ?_
  obtain ⟨rfl, rfl⟩ := ha
  refine (hrest.with_goes.mono (Nat.le_succ_of_le hn)).imp fun v s' hv => ?_
  obtain ⟨hgoes, f, rfl, hfacets⟩ := hv
  have hready := hawaits.goes hgoes (Nat.lt_succ_self id)
  exact ⟨⟨id, name, f, decider, rfl, hn, hready⟩, id, f, Nat.pos_iff_ne_zero.mp hs.positive, hn,
    rfl, hfacets⟩

/-- A record that is attached to a new predicate is registered, if it fits, and the log tells so. -/
theorem brings_attach {id : Nat} (hid : s.Awaits id) {name : Name} {f : Facets} {decider m : Value}
    (hm : m.IsRecord)
    (hfits : m.IsReserved → ∃ id₁ id₂ factory args, m =
      .metadata (.kind .metadata) id₁ (.kept factory) (.tuple (.kind .tuple) id₂ args) ∧
        s.heap.Fits kept (.predicate id name f decider) factory args) :
    Brings kept c id s (attach (.predicate id name f decider) m) fun _ s' =>
      s'.Records (.predicate id name f decider) m := by
  let p := Value.predicate id name f decider
  let s₁ : Session := { s with register := s.register ++ [⟨⟨p, .token (.id id)⟩, m⟩] }
  have hreferable : s.heap.isReferable p = true := rfl
  have hfind : exec c (findRegistration? ⟨p, .token (.id id)⟩ s.register) s = .ok none s :=
    exec_findRegistration?_none c s hid.unused
  rcases hc.finds with hfinds | hfails
  · have hhash := hfinds.hash hs.guarded.toIntact id name f decider
    have hkeyed : exec c (keyed p) s = .ok ⟨p, .token (.id id)⟩ s := by
      rw [keyed, exec_bind, hhash, Ending.andThen_ok, exec_pure]
    have hnone : exec c (metadata? p) s = .ok none s := by
      rw [metadata?, registration?]
      simp only [exec_bind, exec_heap, Ending.andThen_ok, hreferable, Bool.not_true,
        Bool.false_eq_true, if_false, exec_recovering, hkeyed, exec_get, hfind, exec_pure]
      rfl
    have hregister : exec c (register ⟨p, .token (.id id)⟩ m) s = .ok () s₁ := by
      rw [register, exec_bind, exec_get, Ending.andThen_ok, exec_bind, hfind, Ending.andThen_ok]
      rfl
    have hexec : exec c (attach p m) s = exec c (do let e ← report m; log e) s₁ := by
      rw [report_bind_log]
      simp only [attach, exec_bind, exec_heap, Ending.andThen_ok, hreferable, Bool.not_true,
        Bool.false_eq_true, if_false, hnone, Option.isSome_none, hkeyed, hregister]
    -- The registration and what the log tells of it are one step.
    obtain ⟨next, event?, hnext, hfaithful, hsession⟩ :=
      hm.exec_log_report c (s := s₁) hs.guarded.toIntact ⟨p, .token (.id id)⟩
    have hgoes₁ : s.Goes kept id (s.withNext next) :=
      hs.goes_of_register id (hs.guarded.evolves_withNext hnext) rfl rfl
    have hid₁ : (s.withNext next).Awaits id := ⟨Nat.lt_of_lt_of_le hid.lt hnext, hid.unused⟩
    obtain ⟨hgoes, hrecords⟩ := hgoes₁.wellFormed.goes_posted hid₁ hfaithful fun hreserved => by
      obtain ⟨id₁, id₂, factory, args, heq, hfit⟩ := hfits hreserved
      exact ⟨id₁, id₂, factory, args, heq, hfit.evolves hgoes₁.heap⟩
    let s₂ := (s.withNext next).posted ⟨⟨⟨p, .token (.id id)⟩, m⟩, event?⟩
    have hended : (exec c (attach p m) s).session = s₂ := by
      rw [hexec, hsession]
      rfl
    refine ⟨hended ▸ hgoes₁.trans hgoes, fun a s' ha => ?_⟩
    obtain rfl : s' = s₂ := by
      rw [ha] at hended
      exact hended
    exact hrecords
  · -- What has no hash is not registered.
    obtain ⟨e, hhash⟩ := hfails hs.guarded.toIntact id name f decider
    have hkeyed : exec c (keyed p) s = .error e s := by
      rw [keyed, exec_bind, hhash, Ending.andThen_error]
    have hexec : exec c (attach p m) s = .error e s := by
      cases he : e.isOfType <;>
        simp [attach, metadata?, registration?, hreferable, exec_recovering, hkeyed, he, Ending.map]
    exact ⟨hexec ▸ .refl hs, fun a s' ha => by cases hexec.symm.trans ha⟩

omit hs in
/-- A new predicate is registered with a new record, if that fits. -/
theorem brings_registered {make newRecord : Run Value} {W K : Value → Prop}
    (hmake : Brings kept c n s make fun v s' => s'.Readies n v ∧ W v)
    (hrecord : ∀ s', s'.WellFormed kept → Brings kept c s'.heap.next s' newRecord fun m _ => K m)
    (hrecords : ∀ m, K m → m.IsRecord) (hn : n ≤ s.heap.next)
    (hfits : ∀ v m, W v → K m → m.IsReserved → ∃ id id' factory args, m =
      .metadata (.kind .metadata) id (.kept factory) (.tuple (.kind .tuple) id' args) ∧
        s.heap.Fits kept v factory args) :
    Brings kept c n s (do
      let pred ← make
      attach pred (← newRecord)
      return pred) fun v s' => W v ∧ ∃ m, K m ∧ s'.Records v m := by
  refine hmake.bind fun v s₁ _ h₁ hv => ?_
  obtain ⟨⟨id, name, f, decider, rfl, hid, hawaits⟩, hW⟩ := hv
  have hrecord₁ := (hrecord s₁ h₁.wellFormed).with_goes
  refine (hrecord₁.mono (Nat.le_trans hn h₁.heap.next)).bind fun m s₂ _ h₂ hm => ?_
  obtain ⟨hgoes, hm⟩ := hm
  have hattach : Brings kept c id s₂ (attach (.predicate id name f decider) m) fun _ s' =>
      s'.Records (.predicate id name f decider) m := by
    refine brings_attach hc h₂.wellFormed (hawaits.goes hgoes hawaits.lt) (hrecords m hm)
      fun hreserved => ?_
    obtain ⟨id₁, id₂, factory, args, heq, hfit⟩ := hfits _ m hW hm hreserved
    exact ⟨id₁, id₂, factory, args, heq, hfit.evolves (h₁.heap.trans h₂.heap)⟩
  refine (hattach.mono hid).bind fun _ s₃ _ h₃ hrecords => ?_
  exact .pure _ h₃.wellFormed ⟨hW, m, hm, hrecords⟩

/-- A new record of the library. -/
theorem brings_newMetadata {factory : String} (hne : factory ≠ "")
    (hlt : factory.length < maxIndex) (id : Nat) (items : List Value) :
    Brings kept c s.heap.next s
      (newMetadata (.kind .metadata) (.keptText factory) (.tuple (.kind .tuple) id items))
      fun m _ => ∃ id', m = .metadata (.kind .metadata) id' (.kept factory)
        (.tuple (.kind .tuple) id items) := by
  have hexec := exec_newMetadata c hs.guarded.toIntact (show (Name.kept factory).cls = _ from rfl) rfl
    hne hlt id items
  refine ⟨Keeps.newMetadata hc.keeps _ _ _ s hs, fun m s' hm => ?_⟩
  cases hexec.symm.trans hm
  exact ⟨_, rfl⟩

theorem brings_tuple (hn : n ≤ s.heap.next) (items : List Value) :
    Brings kept c n s (Run.tuple items) fun v _ => ∃ id, v = .tuple (.kind .tuple) id items := by
  refine ⟨((Keeps.tuple hc.keeps items) s hs).mono hn, fun v s' hv => ?_⟩
  rw [Run.tuple] at hv
  split at hv
  · cases hv
    simp_all
  · cases hv
    exact ⟨_, rfl⟩

/-- A product is a new predicate that is registered under the name of its factory. -/
theorem brings_productBy (hn : n ≤ s.heap.next) {factory : String} (hne : factory ≠ "")
    (hlt : factory.length < maxIndex) (args : List Value) (name : String)
    (optional readonly decider : Value)
    (hfits : ∀ id name f, id ≠ 0 → (∀ b, optional = .bool b → f.optional = b) →
      (∀ b, readonly = .bool b → f.readonly = b) →
        s.heap.Fits kept (.predicate id name f decider) factory args) :
    Brings kept c n s (Build.productBy factory args name optional readonly decider) fun v s' =>
      (∃ id name f, n ≤ id ∧ v = .predicate id name f decider ∧
        (∀ b, optional = .bool b → f.optional = b) ∧ ∀ b, readonly = .bool b → f.readonly = b) ∧
          s'.Ascribes v factory args := by
  rw [Build.productBy]
  refine (brings_tuple hc hs hn args).bind fun v s₁ _ h₁ hv => ?_
  obtain ⟨idArgs, rfl⟩ := hv
  have hn₁ := Nat.le_trans hn h₁.heap.next
  refine .after (Keeps.fresh hc.keeps) h₁.wellFormed hn₁ fun idName s₂ h₂ => ?_
  have hn₂ := Nat.le_trans hn₁ h₂.heap.next
  have hwrap := brings_wrap hc h₂.wellFormed hn₂ decider ⟨name, .kind .text, idName⟩ optional readonly
  refine (brings_registered hc hwrap
    (fun s' hs' => brings_newMetadata hc hs' hne hlt idArgs args)
    (fun m ⟨id, hm⟩ => ⟨id, _, idArgs, args, hm⟩) hn₂
    fun v m hv hm _ => ?_).imp fun v s' hv => ?_
  · obtain ⟨id, f, hid, -, rfl, ho, hr⟩ := hv
    obtain ⟨id', rfl⟩ := hm
    exact ⟨id', idArgs, factory, args, rfl,
      (hfits id _ f hid ho hr).evolves (h₁.heap.trans h₂.heap)⟩
  · obtain ⟨⟨id, f, -, hid, rfl, hfacets⟩, m, ⟨id', rfl⟩, hrecords⟩ := hv
    exact ⟨⟨id, _, f, hid, rfl, hfacets⟩, id', idArgs, hrecords⟩

theorem brings_product (hn : n ≤ s.heap.next) {factory : String} (hne : factory ≠ "")
    (hlt : factory.length < maxIndex) (args : List Value) (name : String) (check : Rule)
    (hfits : ∀ id name id', id ≠ 0 →
      s.heap.Fits kept (.predicate id name .none (.rule id' check)) factory args) :
    Brings kept c n s (Build.product factory args name check) fun v s' =>
      (∃ id name id', n ≤ id ∧ v = .predicate id name .none (.rule id' check)) ∧
        s'.Ascribes v factory args := by
  have hnone {f : Facets} (ho : ∀ b, Value.bool false = .bool b → f.optional = b)
      (hr : ∀ b, Value.bool false = .bool b → f.readonly = b) : f = .none := by
    obtain ⟨o, r⟩ := f
    obtain rfl : o = false := ho false rfl
    obtain rfl : r = false := hr false rfl
    rfl
  rw [Build.product]
  refine .after (Keeps.fresh hc.keeps) hs hn fun id s₁ h₁ => ?_
  refine (brings_productBy hc h₁.wellFormed (Nat.le_trans hn h₁.heap.next) hne hlt args name _ _ _
    fun id' name f hid ho hr => ?_).imp fun v s' hv => ?_
  · rw [hnone ho hr]
    exact (hfits id' name id hid).evolves h₁.heap
  · obtain ⟨⟨id', name, f, hid, rfl, ho, hr⟩, hascribes⟩ := hv
    obtain rfl := hnone ho hr
    exact ⟨⟨id', name, id, hid, rfl⟩, hascribes⟩

end New

end Run

end ValueShape
