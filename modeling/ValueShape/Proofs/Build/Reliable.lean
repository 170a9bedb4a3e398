import ValueShape.Proofs.Build.Unwrap

/-!
# What can be relied on in reachable sessions

Whatever calls of the library a caller makes, and whichever of them fail, the register can be relied on.

* `Session.Reliable kept s` says what that means.  Metadata under a name that the library relies on fits
  the predicate that it is registered for.  No predicate is registered with itself under such a name,
  however deep.  What a factory returns has an entry, which stays, and so has what a modifier returns,
  unless it was given to the modifier.  Taking the optional facet off goes by the entries
  (`Session.Unwraps`).
* `Session.Reaches.reliable` is the main result.  It follows from the invariant `Session.WellFormed`,
  which each call keeps.
* What the caller makes without a factory need not have an entry, and what the caller registers under
  names of its own may be anything: `not_registers_of_handmade`.
-/

set_option autoImplicit false

namespace ValueShape

open Run

variable {kept : Nat → Prop} {s s' : Session}

namespace Session

/-! ## Predicates inside entries

An entry holds no predicates but those that were there before the one that it is for.  So the way
from predicates to what is inside their entries comes to an end. -/

/-- A predicate `q` is one that `p` is registered with under a name that the library relies on: one of
the arguments, or under a key of the mapping that describes an object. -/
def Uses (kept : Nat → Prop) (s : Session) (p q : Value) : Prop :=
  q.coreKind? = some .predicate ∧ ∃ factory args, s.Ascribes p factory args ∧
    isReserved factory = true ∧ (q ∈ args ∨ factory = Operation.objectOf.name ∧
      ∃ i place es, .view i (.ref place) ∈ args ∧ kept place ∧ s.heap.Seals place es ∧
        q ∈ es.map (·.2))

/-- What a predicate is registered with under such a name is asked by it. -/
theorem WellFormed.mem_asked_of_uses (hs : s.WellFormed kept) {p q : Value} (h : s.Uses kept p q) :
    q ∈ p.asked := by
  obtain ⟨hkind, factory, args, hascribes, hfactory, hmem⟩ := h
  cases hs.fits hascribes hfactory with
  | optional hid hcallable hfacets =>
    rcases hmem with hmem | ⟨hname, -⟩
    · obtain rfl := List.mem_singleton.mp hmem
      exact Value.mem_asked_of_mem_callables List.mem_cons_self _ _ _ _
    · exact absurd hname (by decide)
  | readonly hid hcallable hfacets =>
    rcases hmem with hmem | ⟨hname, -⟩
    · obtain rfl := List.mem_singleton.mp hmem
      exact Value.decider_mem_asked _ _ _ _
    · exact absurd hname (by decide)
  | object hid hcallable hmapping hoptions =>
    simp only [List.mem_cons, List.not_mem_nil, or_false] at hmem
    rcases hmem with (rfl | rfl) | ⟨-, i, place, es, hview, hkept, hseals, hq⟩
    · cases hkind
    · cases hkind
    obtain ⟨e, he, rfl⟩ := List.mem_map.mp hq
    rcases hview with heq | heq <;> cases heq
    · obtain ⟨es', hseals', hes⟩ := hmapping hkept
      cases hseals.unique hseals'
      exact Value.mem_asked_of_mem_callables (hes e he).2 _ _ _ _
    · obtain ⟨hash, hseals'⟩ := hoptions hkept
      cases hseals.unique hseals'
      obtain rfl := List.mem_singleton.mp he
      cases hkind
  | other hname =>
    rw [hfactory] at hname
    cases hname

/-- **No predicate is registered with itself, however deep.** -/
theorem WellFormed.wellFounded_uses (hs : s.WellFormed kept) :
    WellFounded fun q p => s.Uses kept p q :=
  Subrelation.wf (fun h => Value.sizeOf_lt_of_mem_asked (hs.mem_asked_of_uses h))
    (InvImage.wf sizeOf Nat.lt_wfRel.wf)

/-! ## Entries of what was returned -/

/-- The library goes by the entries when it takes the optional facet off. -/
structure Unwraps (s : Session) (c : Conduct) : Prop where
  /-- What has not got the facet is returned. -/
  noop (id : Nat) (name : Name) (r : Bool) (decider : Value) :
    Settles c Sound s (Build.required (.predicate id name ⟨false, r⟩ decider))
      fun w _ => w = .predicate id name ⟨false, r⟩ decider
  /-- An optional layer on top is taken off. -/
  optional (p q : Value) (hp : s.Ascribes p Modifier.optional.name [q]) (hq : q.isIdentified = true) :
    Settles c Sound s (Build.required p) fun w _ => w = q
  /-- An optional layer under a readonly one is taken out, and the rest is made readonly again. -/
  readonly (p inner q : Value) (f : Facets) (hp : s.Ascribes p Modifier.readonly.name [inner])
    (hinner : s.Ascribes inner Modifier.optional.name [q]) (hq : q.Presents c Sound f) :
    Settles c Sound s (Build.required p) fun w s' =>
      w = q ∨ s'.Wraps .readonly ⟨f.optional, true⟩ w q
  /-- There is no readonly layer under a readonly one. -/
  once (p inner : Value) (args : List Value) (hp : s.Ascribes p Modifier.readonly.name [inner]) :
    ¬ s.Ascribes inner Modifier.readonly.name args
  /-- What has the facet is refused where there is no optional layer on top or under a readonly one, and
  only there. -/
  refused (id idName : Nat) (text : String) (f : Facets) (decider : Value)
    (hp : s.Plain (.predicate id ⟨text, .kind .text, idName⟩ f decider))
    (hlayer : f.optional = true → ∀ q, s.Ascribes (.predicate id ⟨text, .kind .text, idName⟩ f decider)
      Modifier.readonly.name [q] → s.Plain q)
    (hrest : ∀ q, s.Strips (.predicate id ⟨text, .kind .text, idName⟩ f decider) q →
      ∃ f', q.Presents c Sound f') :
    Refused c s Modifier.required.name
        (Build.required (.predicate id ⟨text, .kind .text, idName⟩ f decider)) ↔
      f.optional = true ∧ ∀ q, ¬ s.Strips (.predicate id ⟨text, .kind .text, idName⟩ f decider) q

theorem WellFormed.unwraps (hs : s.WellFormed kept) (host : Host) (n : Nat) :
    s.Unwraps (Ask.conduct host (n + 1)) where
  noop id name r decider := by
    have hI : Session.Steadfast Session.Sound := Session.lasting_sound
    rw [Settles, exec_required]
    exact settles_required_noop host n hI (Value.Presents.predicate hI id name ⟨false, r⟩ decider)
      hs.sound _
  optional p q hp hq := by
    obtain ⟨_, r, heq, hwraps, -⟩ := hs.wraps_optional hp
    cases heq
    rw [Settles, exec_required]
    exact settles_required_optional host n Session.lasting_sound hs.sound hwraps hq _
  readonly p inner q f hp hinner hq := settles_required_strips host n hs (.readonly hp hinner) hq
  once p inner args hp := hs.not_readonly hp args
  refused id idName text f decider hp hlayer hrest := refused_required_iff host n hs hp hlayer hrest

/-- The register can be relied on. -/
structure Reliable (kept : Nat → Prop) (s : Session) : Prop where
  /-- Metadata under a name that the library relies on fits what it is registered for. -/
  entry (r : Registration) (hr : r ∈ s.register) (hreserved : r.metadata.IsReserved) :
    ∃ factory args, isReserved factory = true ∧ s.Ascribes r.key.value factory args ∧
      s.heap.Fits kept r.key.value factory args
  /-- No predicate is registered with itself, however deep. -/
  acyclic : WellFounded fun q p => s.Uses kept p q
  /-- A factory returns a new predicate with an entry, which holds no predicates but earlier ones. -/
  factory (c : Conduct) (o : Operation) (ho : o.isFactory = true) (a : Arguments)
    (hc : c.Behaves kept (o.apply a) s) (v : Value) (s' : Session)
    (hv : exec c (o.apply a) s = .ok v s') :
    s'.Enters kept s.heap.next a.values v
  /-- A modifier that adds a facet does the same, or returns what it was given. -/
  modifier (c : Conduct) (o : Operation) (ho : o = .makeOptional ∨ o = .makeReadonly) (a : Arguments)
    (hc : c.Behaves kept (o.apply a) s) (v : Value) (s' : Session)
    (hv : exec c (o.apply a) s = .ok v s') :
    v = a.get 0 "pred" ∨ s'.Enters kept s.heap.next a.values v
  /-- A product under a name of the caller has an entry. -/
  custom (c : Conduct) (a : Arguments) (ha : Operation.customProduct.Respects a)
    (hc : c.Behaves kept (Operation.customProduct.apply a) s) (v : Value) (s' : Session)
    (hv : exec c (Operation.customProduct.apply a) s = .ok v s') :
    ∃ m, s'.Records v m
  /-- Entries of predicates stay. -/
  stays (s' : Session) (h : s.Reaches kept s') (id : Nat) (hid : id ≠ 0) (name : Name) (f : Facets)
    (decider m : Value) (hm : s.Records (.predicate id name f decider) m) :
    s'.Records (.predicate id name f decider) m
  /-- The optional facet is taken off by the entries. -/
  unwraps (host : Host) (n : Nat) : s.Unwraps (Ask.conduct host (n + 1))

end Session

/-- **In every session that is reached from the start, the register can be relied on.** -/
theorem Session.Reaches.reliable (h : start.Reaches kept s) : s.Reliable kept := by
  have hs : s.WellFormed kept := h.wellFormed
  have hn : s.heap.next ≤ s.heap.next := Nat.le_refl _
  refine ⟨fun r hr hreserved => ?_, hs.wellFounded_uses, fun c o ho a hc v s' hv => ?_,
    fun c o ho a hc v s' hv => ?_, fun c a ha hc v s' hv => ?_,
    fun s' h' id hid name f decider m hm => (h'.follows hs).records id name f decider m hid hm,
    hs.unwraps⟩
  · obtain ⟨place, hplace⟩ := List.getElem?_of_mem hr
    have hsanctions := hs.sanctions place r hplace hreserved
    obtain ⟨id, id', factory, args, heq, hfits⟩ := hsanctions.record
    obtain ⟨name, hname, hname'⟩ := hreserved
    obtain rfl : factory = name := by
      rw [heq] at hname
      cases hname
      rfl
    exact ⟨factory, args, hname', ⟨id, id', heq ▸ hsanctions.records hplace⟩, hfits⟩
  · obtain ⟨d, hd, hv⟩ := hc.perform hv
    exact (brings_factory hd hs hn ho a).result v s' hv
  · obtain ⟨d, hd, hv⟩ := hc.perform hv
    have hsub : [a.get 0 "pred"] ⊆ a.values := by simpa using Arguments.get_mem_values
    have hbrings : Brings kept d s.heap.next s (o.perform a) fun v s' =>
        v = a.get 0 "pred" ∨ s'.Enters kept s.heap.next [a.get 0 "pred"] v := by
      rcases ho with rfl | rfl
      · exact brings_optional hd hs hn _
      · exact brings_readonly hd hs hn _
    exact (hbrings.result v s' hv).imp_right fun h => h.mono hsub
  · obtain ⟨d, hd, hv⟩ := hc.perform hv
    exact (brings_customProduct hd hs hn ha _ _ _ _ _).result v s' hv

/-! ## An optional layer around a ready-made predicate -/

/-- A conduct under which whatever is called accepts. -/
def Conduct.accepting : Conduct := Conduct.none.next fun _ _ => return .bool true

theorem Conduct.lawful_accepting : accepting.Lawful kept := .next .none _ fun _ _ s => .refl s

/-- Making a ready-made predicate optional, where nothing has happened to the heap. -/
theorem exec_makeOptional_string (c : Conduct) {s : Session} (hs : s.heap = .start) :
    exec c (Operation.makeOptional.apply ⟨[.leaf .string], []⟩) s = exec c (do
      let wrapped ← Build.productBy Modifier.optional.name [.leaf .string] "optional(is_string)"
        (.bool true) (.bool false) (.rule (← fresh) (.optional (.leaf .string)))
      Build.logDecision .optional .wrap (.leaf .string)
      return wrapped) s := by
  obtain ⟨heap, register, events, calls, writing⟩ := s
  obtain rfl : heap = .start := hs
  let s : Session := ⟨.start, register, events, calls, writing⟩
  have hrendering : exec c (Build.rendering (.leaf .string)) s =
      .ok (.value (.scalar (.kind .text) 1 (.text "is_string"))) s :=
    exec_rendering (exec_appearance (s := s) Heap.start_intact (.inr rfl))
  have hname : exec c (Build.callName Modifier.optional.name [.leaf .string]) s =
      .ok "optional(is_string)" s := by
    simp only [Build.callName, Build.argumentTexts, List.mapM_cons, List.mapM_nil, pure_bind,
      exec_bind, exec_yielded, hrendering, Ending.andThen_ok, exec_pure, Ending.yielded_ok]
    rfl
  have hcallable : exec c (Build.requireCallable Modifier.optional.name "pred" (.leaf .string)) s =
      .ok () s := rfl
  have hoptional : exec c (Build.isOptional (.leaf .string)) s = .ok (.bool false) s := rfl
  have hreadonly : exec c (Build.isReadonly (.leaf .string)) s = .ok (.bool false) s := rfl
  change exec c (Build.optional (.leaf .string)) s = _
  rw [Build.optional]
  simp only [exec_bind, hcallable, hoptional, hreadonly, hname, Ending.andThen_ok, truth_bool,
    exec_pure, Bool.false_eq_true, if_false]
  rfl

set_option maxRecDepth 10000 in
theorem reliable_of_optional_string : ∃ p s,
    exec (Ask.conduct .none 2) (Operation.makeOptional.apply ⟨[.leaf .string], []⟩) .start = .ok p s ∧
      s.Ascribes p Modifier.optional.name [.leaf .string] ∧ s.Reliable fun _ => True := by
  have hsame : exec (Ask.conduct .none 2) (Operation.makeOptional.apply ⟨[.leaf .string], []⟩) .start =
      exec .accepting (Operation.makeOptional.apply ⟨[.leaf .string], []⟩) .start := by
    rw [exec_makeOptional_string _ rfl, exec_makeOptional_string _ rfl]
    rfl
  obtain ⟨p, s, hp, hascribes⟩ : ∃ p s,
      exec (Ask.conduct .none 2) (Operation.makeOptional.apply ⟨[.leaf .string], []⟩) .start = .ok p s ∧
        s.Ascribes p Modifier.optional.name [.leaf .string] := by
    rw [exec_makeOptional_string _ rfl]
    exact ⟨_, _, rfl, _, _, ⟨0, rfl, fun _ h => absurd h (Nat.not_lt_zero _)⟩, rfl⟩
  have hreaches : Session.start.Reaches (fun _ => True) s := by
    have h : Session.start.Reaches (fun _ => True) (exec (Ask.conduct .none 2)
        (Operation.makeOptional.apply ⟨[.leaf .string], []⟩) .start).session :=
      .moves (.refl .start) (.apply _ _ trivial ⟨.accepting, Conduct.lawful_accepting, hsame⟩)
    rwa [hp] at h
  exact ⟨p, s, hp, hascribes, Session.Reaches.reliable hreaches⟩

/-! ## Where there is no entry

A caller can make a predicate with facets by hand, and never register it. -/

set_option maxRecDepth 10000 in
/-- A modifier returns a predicate without an entry, if it was given one that has the facet already.
Under a name of its own the caller may register a predicate with itself. -/
theorem not_registers_of_handmade :
    (∃ p s s', exec (Ask.conduct .none 2) (Operation.newPredicate.apply
        ⟨[.leaf .string], [("name", .keptText "x"), ("optional", .bool true)]⟩) .start = .ok p s ∧
      exec (Ask.conduct .none 2) (Operation.makeOptional.apply ⟨[p], []⟩) s = .ok p s' ∧
      ∀ m, ¬ s'.Records p m) ∧
    ∃ p m v s s' s'', exec (Ask.conduct .none 2) (Operation.newPredicate.apply
        ⟨[.leaf .string], [("name", .keptText "x")]⟩) .start = .ok p s ∧
      exec (Ask.conduct .none 2) (Operation.newMetadata.apply
        ⟨[.keptText "mine", .tuple (.kind .tuple) 0 [p]], []⟩) s = .ok m s' ∧
      exec (Ask.conduct .none 2) (Operation.attachMetadata.apply ⟨[p, m], []⟩) s' = .ok v s'' ∧
      s''.Ascribes p "mine" [p] := by
  refine ⟨⟨_, _, _, rfl, rfl, ?_⟩, _, _, _, _, _, _, rfl, rfl, rfl, _, _, ⟨0, rfl, fun _ h => absurd h (Nat.not_lt_zero _)⟩, rfl⟩
  rintro m ⟨⟨place, hplace, -⟩, -⟩
  cases hplace

end ValueShape
