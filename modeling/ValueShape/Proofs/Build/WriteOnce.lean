import ValueShape.Proofs.Build.Reliable
import ValueShape.Proofs.Store.Once

/-!
# Metadata is attached once and for all

What becomes of the register and of the log in a run of calls, whichever of them fail.

* `Session.Runs` are the runs of calls in which the metadata that the caller attaches tells its name and
  its size, and the values that it is attached to are compared in a fixed way (`Attachment.Suits`).
  Everything else is as in `Session.Reaches`: the caller does what it likes, and the factories, the
  modifiers and whatever else the library offers attach metadata to what they make.
* `Session.Runs.posts` is the induction over a run: the register has only grown, and the log tells of what
  was registered, in order.
* `Session.Runs.attached_once` is the main result: which attempts to attach metadata succeed in a session
  that was reached in this way, what they leave behind, and that it stays whatever is called later.
-/

set_option autoImplicit false

namespace ValueShape

open Run

variable {kept : Nat → Prop} {c : Conduct} {I : Session → Prop} {K : Key Value → Prop}
  {taken : Key Value → Key Value → Bool} {s s' s'' : Session} {a : Attachment}

/-! ## Lookups in a register that grows

New registrations come behind the others.  So a lookup that has found metadata finds the same
metadata for good. -/

namespace Session

/-- Whatever is registered is metadata. -/
def Present (s : Session) : Prop := ∀ r ∈ s.register, r.metadata.identical .null = false

theorem Posts.present {ps : List Posting} (h : s.Posts ps s') (hs : s.Present) : s'.Present := by
  intro r hr
  rw [h.register, List.mem_append, List.mem_map] at hr
  rcases hr with hr | ⟨p, hp, rfl⟩
  · exact hs r hr
  · exact (h.faithful p hp).metadata_ne

theorem Posts.forall_mem_register {ps : List Posting} (h : s.Posts ps s')
    (hs : ∀ r ∈ s'.register, K r.key) : ∀ r ∈ s.register, K r.key :=
  fun r hr => hs r (h.register ▸ List.mem_append_left _ hr)

/-- What is found is still found after any postings. -/
theorem Posts.metadataOf {ps : List Posting} (h : s.Posts ps s') {key : Key Value} {m : Value}
    (hm : s.metadataOf taken key = some m) : s'.metadataOf taken key = some m := by
  obtain ⟨hfound, hnull⟩ := Option.filter_eq_some_iff.mp hm
  obtain ⟨r, hr, rfl⟩ := Option.map_eq_some_iff.mp hfound
  rw [Session.metadataOf, h.register, List.find?_append, hr, Option.some_or, Option.map_some,
    Option.filter_some, if_pos hnull]

/-- Where nothing is found, no place is found. -/
theorem Present.place?_eq_none (hs : s.Present) {key : Key Value}
    (hnone : s.metadataOf taken key = none) : s.place? taken key = none := by
  refine List.findIdx?_eq_none_iff.mpr fun r hr => ?_
  cases hfind : s.register.find? fun r => taken r.key key with
  | none => exact Bool.eq_false_iff.mpr (List.find?_eq_none.mp hfind r hr)
  | some r' =>
    rw [Session.metadataOf, hfind, Option.map_some, Option.filter_some,
      hs r' (List.mem_of_find?_eq_some hfind)] at hnone
    cases hnone

end Session

/-! ## What the caller attaches -/

namespace Attachment

/-- In a session, metadata can be attached to a value that is compared in a fixed way with all that is
registered, and the metadata tells its name and its size. -/
structure Suits (c : Conduct) (I : Session → Prop) (K : Key Value → Prop)
    (taken : Key Value → Key Value → Bool) (s : Session) (a : Attachment) : Prop where
  /-- The invariant is about the heap only. -/
  aboutHeap : Session.AboutHeap I
  /-- Keys are compared in a fixed way. -/
  compared : ComparedBy c I K taken
  /-- The value has a hash, and the metadata tells its name and its size. -/
  tells : a.Tells c I
  /-- The value is one of the keys. -/
  key : K a.key
  /-- The invariant holds. -/
  holds : I s
  /-- What is registered is among the keys. -/
  registered : ∀ r ∈ s.register, K r.key
  /-- There is metadata. -/
  metadata_ne : a.metadata.identical .null = false

/-- What is posted when metadata is attached. -/
def posting (a : Attachment) : Posting := ⟨⟨a.key, a.metadata⟩, some a.event⟩

/-- Attaching metadata to a value that has none makes a posting. -/
theorem attached_eq_posted (hs : s.Present) (hnone : s.metadataOf taken a.key = none) :
    s.attached taken a = s.posted a.posting := by
  rw [Session.attached, Session.written, hs.place?_eq_none hnone]
  rfl

theorem Tells.exec_report (ha : a.Tells c I) (hs : I s) :
    exec c (report a.metadata) s = .ok a.event s := by
  have hsize := ha.count hs
  rw [exec_bind] at hsize
  rw [report]
  simp only [exec_bind, ha.factory hs, Ending.andThen_ok]
  rw [← Ending.andThen_assoc, hsize]
  rfl

namespace Suits

variable (h : a.Suits c I K taken s)
include h

theorem isFaithful (hs : s.heap.Intact) : a.posting.IsFaithful :=
  ⟨h.metadata_ne, c, s, hs, by rw [posting, h.tells.exec_report h.holds]; rfl⟩

theorem exec_metadata : exec c (metadata? a.value) s = .ok (s.metadataOf taken a.key) s :=
  h.tells.hasHash.exec_metadata h.compared h.key h.holds h.registered

/-- An attempt is refused if there is metadata, and then nothing happens. -/
theorem exec_attach_some {m : Value} (hm : s.metadataOf taken a.key = some m) :
    exec c (attach a.value a.metadata) s = .error a.refusal s := by
  rw [h.tells.exec_attach h.aboutHeap h.compared h.key h.holds h.registered, hm]

/-- Otherwise it succeeds, and is posted. -/
theorem exec_attach_none (hs : s.Present) (hnone : s.metadataOf taken a.key = none) :
    exec c (attach a.value a.metadata) s = .ok () (s.posted a.posting) := by
  rw [h.tells.exec_attach h.aboutHeap h.compared h.key h.holds h.registered, hnone,
    ← attached_eq_posted hs hnone]

/-- The lookups of all values after metadata was attached. -/
theorem metadataOf_posted (htaken : KeyEquivalence K taken) (hs : s.Present)
    (hnone : s.metadataOf taken a.key = none) {key : Key Value} (hkey : K key) :
    (s.posted a.posting).metadataOf taken key =
      if taken a.key key then some a.metadata else s.metadataOf taken key := by
  rw [← attached_eq_posted hs hnone]
  exact Session.metadataOf_attached htaken h.key h.metadata_ne h.registered hkey

end Suits

end Attachment

/-! ## Runs

The register and the log are followed together, as postings.  Each call adds some, whether it fails
or not, and a run adds those of its calls in order. -/

/-- What becomes of a session in a run of calls: the caller moves, and makes attempts to attach metadata
of its own, under none of the names that the library relies on. -/
inductive Session.Runs (kept : Nat → Prop) : Session → Session → Prop
  | refl (s : Session) : Runs kept s s
  | moves {s s' s'' : Session} (h : Runs kept s s') (hmoves : s'.Moves kept s'') : Runs kept s s''
  | attempt {s s' : Session} (h : Runs kept s s') {c : Conduct} {I : Session → Prop}
      {K : Key Value → Prop} {taken : Key Value → Key Value → Bool} {a : Attachment}
      (ha : a.Suits c I K taken s') (hbefore : a.hash.IsBefore s'.heap.next)
      (hm : ¬ a.metadata.IsReserved) :
      Runs kept s (exec c (Run.attach a.value a.metadata) s').session

namespace Session

/-- Metadata that is no record of the library may be posted under a key that was there before. -/
theorem WellFormed.posted (hs : s.WellFormed kept) {p : Posting}
    (hkey : p.registration.key.hash.IsBefore s.heap.next)
    (hm : ¬ p.registration.metadata.IsReserved) : (s.posted p).WellFormed kept := by
  have hnoted : (s.noted p.registration.key p.registration.metadata none).WellFormed kept :=
    hs.noted hkey hm
  exact ((Follows.refl hnoted).log (s.posted p).events).wellFormed

/-- **In a run the register only grows, and the log tells of what is registered**, in order. -/
theorem Runs.posts (h : s.Runs kept s') (hs : s.WellFormed kept) (hpresent : s.Present) :
    s'.WellFormed kept ∧ ∃ ps, s.Posts ps s' := by
  induction h with
  | refl => exact ⟨hs, [], .refl s⟩
  | moves h hmoves ih =>
    obtain ⟨hs', ps, hps⟩ := ih
    have hgoes := hmoves.goes hs'
    obtain ⟨ps', hps', -⟩ := hgoes.posts
    exact ⟨hgoes.wellFormed, ps ++ ps', hps.trans hps'⟩
  | @attempt s' h c I K taken a ha hbefore hm ih =>
    obtain ⟨hs', ps, hps⟩ := ih
    cases hfound : s'.metadataOf taken a.key with
    | some m =>
      rw [ha.exec_attach_some hfound]
      exact ⟨hs', ps, hps⟩
    | none =>
      rw [ha.exec_attach_none (hps.present hpresent) hfound]
      exact ⟨hs'.posted hbefore hm, ps ++ [a.posting],
        hps.trans (s'.posts_posted (ha.isFaithful hs'.guarded.toIntact))⟩

/-- A predicate was posted between two sessions, with a record of the library. -/
def IsPosted (s : Session) (p : Value) (s' : Session) : Prop :=
  ∃ ps q factory args id id', s.Posts ps s' ∧ q ∈ ps ∧ q.registration =
    ⟨⟨p, p.identityHash⟩, .metadata (.kind .metadata) id (.kept factory)
      (.tuple (.kind .tuple) id' args)⟩

/-- What a factory has returned was posted meanwhile. -/
theorem Goes.isPosted {given : List Value} {p : Value} (h : s.Goes kept s.heap.next s')
    (hs : s.WellFormed kept) (hp : s'.Enters kept s.heap.next given p) : s.IsPosted p s' := by
  obtain ⟨⟨id₀, name, f, decider, rfl, hle⟩, factory, args, ⟨id, id', hrecords⟩, -⟩ := hp
  obtain ⟨ps, hps, -⟩ := h.posts
  obtain ⟨place, hplace, -⟩ := hrecords.entry
  have hmem := List.mem_of_getElem? hplace
  rw [hps.register, List.mem_append, List.mem_map] at hmem
  rcases hmem with hmem | ⟨q, hq, heq⟩
  · -- What was registered before was made before.
    exact absurd (hs.before _ hmem id₀ rfl) (Nat.not_lt.mpr hle)
  · exact ⟨ps, q, factory, args, id, id', hps, hq, heq⟩

/-- **Metadata is attached once and for all.**  In a session that was reached from the start by a run of
calls, the log tells of what is registered, in order: for each record the name of its factory and the
number of its arguments.  An attempt to attach metadata succeeds if the value has none, and then all
lookups are what they were, except for the values that are taken for this one.  Otherwise it is refused
and nothing happens; the same holds of a value that cannot be referred to or has no hash.  What a factory
returns has been posted, and so has what a modifier has not just been given.  And whatever is called
later, what is found is still found, and the log has told of all that was attached meanwhile. -/
theorem Runs.attached_once (h : start.Runs kept s) :
    (∃ ps : List Posting, s.register = ps.map (·.registration) ∧
      s.attachments = ps.filterMap (·.event?) ∧ ∀ p ∈ ps, p.IsFaithful ∧ p.IsCounted) ∧
    (∀ {c I K taken a}, Attachment.Suits c I K taken s a → KeyEquivalence K taken →
      ∃ m?, exec c (metadata? a.value) s = .ok m? s ∧
        (∀ m, m? = some m → exec c (attach a.value a.metadata) s = .error a.refusal s) ∧
        (m? = none → exec c (attach a.value a.metadata) s = .ok () (s.posted a.posting) ∧
          ∀ v hash, v.HasHash c I hash → K ⟨v, hash⟩ → ∃ m?, exec c (metadata? v) s = .ok m? s ∧
            exec c (metadata? v) (s.posted a.posting) =
              .ok (if taken a.key ⟨v, hash⟩ then some a.metadata else m?) (s.posted a.posting))) ∧
    (∀ c v metadata e, s.heap.isReferable v = true → exec c (Run.hash v) s = .error e s →
      e.isOfType = true →
      exec c (metadata? v) s = .ok none s ∧ exec c (attach v metadata) s = .error e s) ∧
    (∀ c v metadata factory factoryText className, s.heap.isReferable v = false →
      exec c (factoryOf metadata) s = .ok factory s →
      exec c (formatted factory) s = .ok factoryText s →
      exec c (shownClass v) s = .ok className s →
      exec c (metadata? v) s = .ok none s ∧ exec c (attach v metadata) s =
        .error (.construction factory factoryText
          ("predicate of type " ++ className ++ " cannot carry metadata")) s) ∧
    (∀ c (o : Operation) args p s', o.isFactory = true → c.Behaves kept (o.apply args) s →
      exec c (o.apply args) s = .ok p s' → s.IsPosted p s') ∧
    (∀ c (o : Operation) args p s', o = .makeOptional ∨ o = .makeReadonly →
      c.Behaves kept (o.apply args) s → exec c (o.apply args) s = .ok p s' →
      p = args.get 0 "pred" ∨ s.IsPosted p s') ∧
    ∀ s', s.Runs kept s' → (∃ ps, s.Posts ps s') ∧
      ∀ {c I K taken v hash m}, v.HasHash c I hash → ComparedBy c I K taken → K ⟨v, hash⟩ → I s → I s' →
        (∀ r ∈ s'.register, K r.key) → exec c (metadata? v) s = .ok (some m) s →
          exec c (metadata? v) s' = .ok (some m) s' := by
  obtain ⟨hs, ps, hps⟩ := h.posts start_wellFormed nofun
  have hpresent : s.Present := hps.present nofun
  refine ⟨⟨ps, hps.register, hps.attachments, fun p hp => ?_⟩, fun {c I K taken a} ha htaken => ?_,
    fun c v m e hreferable hhash he => exec_attach_unhashable hreferable hhash he m,
    fun c v m f text cls hreferable hf htext hcls =>
      exec_attach_unreferable hreferable hf htext hcls,
    fun c o args p s' ho hc hp => ?_, fun c o args p s' ho hc hp => ?_, fun s' h' => ?_⟩
  · exact ⟨hps.faithful p hp, (hps.faithful p hp).isCounted⟩
  · refine ⟨_, ha.exec_metadata, fun m hm => ha.exec_attach_some hm, fun hnone => ?_⟩
    refine ⟨ha.exec_attach_none hpresent hnone, fun v hash hv hkey => ?_⟩
    have hregister : ∀ r ∈ (s.posted a.posting).register, K r.key :=
      List.forall_mem_append.mpr ⟨ha.registered, List.forall_mem_singleton.mpr ha.key⟩
    have hafter := hv.exec_metadata ha.compared hkey
      (ha.aboutHeap (show (s.posted a.posting).heap = s.heap from rfl) ha.holds) hregister
    rw [ha.metadataOf_posted htaken hpresent hnone hkey] at hafter
    exact ⟨_, hv.exec_metadata ha.compared hkey ha.holds ha.registered, hafter⟩
  · obtain ⟨d, hd, hperform⟩ := hc.perform hp
    have hbrings := brings_factory hd hs (Nat.le_refl _) ho args
    have hgoes := hbrings.goes
    rw [hperform] at hgoes
    exact hgoes.isPosted hs (hbrings.result p s' hperform)
  · obtain ⟨d, hd, hperform⟩ := hc.perform hp
    have hbrings : Brings kept d s.heap.next s (o.perform args) fun v s' =>
        v = args.get 0 "pred" ∨ s'.Enters kept s.heap.next [args.get 0 "pred"] v := by
      rcases ho with rfl | rfl
      · exact brings_optional hd hs (Nat.le_refl _) _
      · exact brings_readonly hd hs (Nat.le_refl _) _
    have hgoes := hbrings.goes
    rw [hperform] at hgoes
    exact (hbrings.result p s' hperform).imp_right (hgoes.isPosted hs)
  · obtain ⟨-, ps', hps'⟩ := h'.posts hs hpresent
    refine ⟨⟨ps', hps'⟩, fun {c I K taken v hash m} hv hcompared hkey hI hI' hregister hm => ?_⟩
    have hbefore := hv.exec_metadata hcompared hkey hI (hps'.forall_mem_register hregister)
    have hfound : s.metadataOf taken ⟨v, hash⟩ = some m :=
      (EStateM.Result.ok.inj (hbefore.symm.trans hm)).1
    rw [hv.exec_metadata hcompared hkey hI' hregister, hps'.metadataOf hfound]

end Session

/-! ### A ready-made predicate, with metadata of the caller -/

/-- Metadata of the caller for the ready-made predicate of texts. -/
def stringAttachment : Attachment where
  value := .leaf .string
  hash := .token (.leaf .string)
  metadata := .metadata (.kind .metadata) 5 (.kept "mine") (.tuple (.kind .tuple) 0 [])
  factory := .keptText "mine"
  factoryText := "mine"
  count := 0

theorem stringAttachment_tells :
    stringAttachment.Tells (Ask.conduct .none 2) fun s => s.heap.Intact :=
  .of_record (fun _ hs => hs) ⟨fun _ => rfl, fun hs => Value.IsOwn.exec_hash .none 1 hs (.leaf .string)⟩
    rfl rfl rfl (fun _ _ => rfl) (by decide) rfl

theorem stringAttachment_suits {s : Session} (hs : s.heap.Intact)
    (hregister : ∀ r ∈ s.register, r.key.IsOwn) :
    stringAttachment.Suits (Ask.conduct .none 2) (fun s => s.heap.Intact) Key.IsOwn
      (fun key key' => key.value.identical key'.value) s where
  aboutHeap _ _ hheap hs := show Heap.Intact _ from hheap ▸ hs
  compared := comparedBy_identical .none 1
  tells := stringAttachment_tells
  key := ⟨.leaf .string, rfl⟩
  holds := hs
  registered := hregister
  metadata_ne := rfl

namespace Session

/-- The session in which the caller has attached it. -/
def stringAttached : Session := start.posted stringAttachment.posting

theorem runs_stringAttached : start.Runs (fun _ => True) stringAttached := by
  have hsuits : stringAttachment.Suits (Ask.conduct .none 2) (fun s => s.heap.Intact) Key.IsOwn _ start :=
    stringAttachment_suits Heap.start_intact fun _ hr => absurd hr List.not_mem_nil
  have hattach := hsuits.exec_attach_none (fun _ hr => absurd hr List.not_mem_nil) rfl
  have h : start.Runs (fun _ => True) (exec (Ask.conduct .none 2)
      (attach stringAttachment.value stringAttachment.metadata) start).session :=
    .attempt (.refl start) hsuits nofun (by rintro ⟨_, ⟨⟩, hreserved⟩; cases hreserved)
  rwa [hattach] at h

set_option maxRecDepth 10000 in
/-- There the library makes a predicate of its own, and adds its own metadata. -/
theorem exec_makeOptional_attached : ∃ id name facets decider s',
    exec (Ask.conduct .none 2) (Operation.makeOptional.apply ⟨[.leaf .string], []⟩) stringAttached =
        .ok (.predicate id name facets decider) s' ∧
      s'.heap.Intact ∧ ∀ r ∈ s'.register, r.key.IsOwn := by
  rw [exec_makeOptional_string _ rfl]
  refine ⟨_, _, _, _, _, rfl, Heap.start_intact.withNext _, ?_⟩
  exact List.forall_mem_cons.mpr ⟨⟨.leaf .string, rfl⟩,
    List.forall_mem_singleton.mpr ⟨.predicate _ _ _ _ (by decide), rfl⟩⟩

set_option maxRecDepth 10000 in
/-- Whatever the scripts of a program do, nothing of the caller's is called. -/
theorem behaves_makeOptional_attached (host : Host) (n : Nat) :
    (Ask.conduct host (n + 1)).Behaves (fun _ => True)
      (Operation.makeOptional.apply ⟨[.leaf .string], []⟩) stringAttached := by
  refine ⟨.accepting, Conduct.lawful_accepting, ?_⟩
  rw [exec_makeOptional_string _ rfl, exec_makeOptional_string _ rfl]
  rfl

/-- The metadata of the caller is found after a call of the library, which has posted its own.  Another
attempt is refused. -/
theorem attached_once_string :
    let c := Ask.conduct .none 2
    ∃ p s s', start.Runs (fun _ => True) s ∧ s.Runs (fun _ => True) s' ∧
      exec c (Operation.makeOptional.apply ⟨[.leaf .string], []⟩) s = .ok p s' ∧ s.IsPosted p s' ∧
      exec c (metadata? (.leaf .string)) s' = .ok (some stringAttachment.metadata) s' ∧
      exec c (attach (.leaf .string) stringAttachment.metadata) s =
        .error stringAttachment.refusal s := by
  intro c
  obtain ⟨id, name, facets, decider, s', hp, hintact, hregister⟩ := exec_makeOptional_attached
  have hs' : stringAttached.Runs (fun _ => True) s' := by
    have h : stringAttached.Runs (fun _ => True)
        (exec c (Operation.makeOptional.apply ⟨[.leaf .string], []⟩) stringAttached).session :=
      .moves (.refl _) (.apply _ _ trivial (behaves_makeOptional_attached .none 1))
    rwa [hp] at h
  have hsuits : stringAttachment.Suits c (fun s => s.heap.Intact) Key.IsOwn _ stringAttached :=
    stringAttachment_suits Heap.start_intact
      (List.forall_mem_singleton.mpr ⟨.leaf .string, rfl⟩)
  obtain ⟨-, hattempt, -, -, -, hmodifier, hlater⟩ := runs_stringAttached.attached_once
  obtain ⟨m?, hm?, hrefused, -⟩ := hattempt hsuits keyEquivalence_identical
  have hfound : exec c (metadata? (.leaf .string)) stringAttached =
      .ok (some stringAttachment.metadata) stringAttached := hsuits.exec_metadata
  obtain rfl : m? = some stringAttachment.metadata :=
    (EStateM.Result.ok.inj (hm?.symm.trans hfound)).1
  have hposted : Value.predicate id name facets decider = .leaf .string ∨
      stringAttached.IsPosted (.predicate id name facets decider) s' :=
    hmodifier c .makeOptional ⟨[.leaf .string], []⟩ _ s' (.inl rfl)
      (behaves_makeOptional_attached .none 1) hp
  refine ⟨_, stringAttached, s', runs_stringAttached, hs', hp, hposted.resolve_left nofun, ?_,
    hrefused _ rfl⟩
  exact (hlater s' hs').2 stringAttachment_tells.hasHash (comparedBy_identical .none 1)
    ⟨.leaf .string, rfl⟩ Heap.start_intact hintact hregister hfound

end Session

end ValueShape
