import ValueShape.Conduct.Hash
import ValueShape.Conduct.Order
import ValueShape.Proofs.Build.Perform

/-!
# Reachable sessions

What a caller makes of a session, call by call, and that the register stays well-formed all the while.

* Between calls of the library the caller may do as it likes (`Session.Own`), as long as it registers
  nothing, does not write to the log of the library, and leaves alone the classes of the library, the
  callables, and the mappings that it cannot get at.
* The library calls functions in turn.  `Conduct.Steps` are what they may do: the like, and calls of the
  library.  A conduct is `Lawful` if all calls take such steps, however deeply nested.
  `Conduct.Lawful.serves` is the step lemma: under such a conduct the library goes on.
  `Conduct.lawful_conduct` says that a program has such a conduct if its calls take such steps one by
  one, and `Conduct.behaves_call` is for a single call that amounts to something of the caller's own.
* A session `Moves` to another one by one thing of this kind.  `Session.Reaches` are the sessions that
  come about in this way, where the caller may also attach metadata of its own (`Run.follows_attach`).
  `Session.Reaches.follows` is the induction over them.
-/

set_option autoImplicit false

namespace ValueShape

open Run

variable {kept : Nat → Prop}

/-! ## What the caller does

The caller is a party of its own, with classes and scripts that the library knows nothing of.  So
its steps are described by what they leave alone. -/

/-- The caller does something of its own: nothing is registered, nor does the log tell so, and the
classes of the library, the callables, and the mappings that the caller does not write to stay as they
are. -/
structure Session.Own (kept : Nat → Prop) (s s' : Session) : Prop where
  /-- Nothing is registered. -/
  register : s'.register = s.register
  /-- The log tells of no attachment. -/
  log : s'.attachments = s.attachments
  /-- The heap evolves. -/
  heap : s.heap.Guarded → s.heap.Evolves kept s'.heap

/-- What the caller may do while the library waits for it: something of its own, calls of the
library, and calls of other values, one after the other. -/
inductive Conduct.Steps (kept : Nat → Prop) (c : Conduct) : Session → Session → Prop
  | refl (s : Session) : Steps kept c s s
  | own {s s' s'' : Session} (h : Steps kept c s s') (hown : s'.Own kept s'') : Steps kept c s s''
  | apply {s s' : Session} (h : Steps kept c s s') (o : Operation) (a : Arguments)
      (ho : o.Respects a) : Steps kept c s (exec c (o.apply a) s').session
  | call {s s' : Session} (h : Steps kept c s s') (f : Value) (args : List Value) :
      Steps kept c s (exec c (Run.call f args) s').session

/-- Values are called in a given way, and compared, ordered, hashed and written as the library does
it, where parts are left to another conduct. -/
def Conduct.next (c : Conduct) (call : Value → List Value → Action Value) : Conduct where
  call := call
  compare v w := (compareOnce v w).run c
  order m v w := (orderOnce m v w).run c
  hash v := (hashOnce v).run c
  write v := (writeOnce v).run c

/-- A conduct under which calls take steps of these kinds only, however deeply they are nested. -/
inductive Conduct.Lawful (kept : Nat → Prop) : Conduct → Prop
  | none : Lawful kept .none
  | next {c : Conduct} (hc : Lawful kept c) (call : Value → List Value → Action Value)
      (hcall : ∀ f args s, c.Steps kept s (Ending.session (call f args s))) : Lawful kept (c.next call)

theorem Conduct.Steps.proceeds {c : Conduct} (hc : c.Serves kept) {s s' : Session}
    (h : c.Steps kept s s') : s.Proceeds kept s' := by
  induction h with
  | refl => exact Session.course_proceeds.refl s
  | own h hown ih =>
    refine Session.course_proceeds.trans ih fun hs => ?_
    exact hs.goes_of_register _ (hown.heap hs.guarded) hown.register hown.log
  | apply h o a ho ih => exact Session.course_proceeds.trans ih (Keeps.apply hc ho _)
  | call h f args ih => exact Session.course_proceeds.trans ih (hc.keeps.call f args _)

/-- Where values are hashed and compared as the library does it, predicates are found. -/
theorem Conduct.findsPredicates_next (c : Conduct) (call : Value → List Value → Action Value) :
    (c.next call).FindsPredicates where
  hash {s} hs id name f decider := by
    change exec c (hashOnce (.predicate id name f decider)) s = _
    rw [hashOnce, exec_bind, exec_heap, Ending.andThen_ok, hs.slot? rfl]
    rfl
  equal {s} hs id hid name f decider := by
    let p := Value.predicate id name f decider
    have hsame : p.identical p = true := by simp [p, Value.identical, hid]
    have hanswer : exec c (answer p p) s = .ok (some (.bool true)) s := by
      rw [answer, exec_bind, exec_heap, Ending.andThen_ok, hs.slot? rfl]
      change exec _ (pure (if p.identical p then some (Value.bool true) else Option.none)) s = _
      rw [hsame, exec_pure]
      rfl
    refine exec_equal_of_compare ?_
    change exec c (compareOnce p p) s = _
    rw [compareOnce, exec_bind, exec_heap, Ending.andThen_ok, asksSecondFirst_of_classOf rfl]
    simp only [Bool.false_eq_true, if_false, exec_bind, hanswer, Ending.andThen_ok, exec_pure]

/-- **Under a lawful conduct the library goes on from well-formed sessions.** -/
theorem Conduct.Lawful.serves {c : Conduct} (hc : c.Lawful kept) : c.Serves kept := by
  induction hc with
  | none =>
    have hrefl (s : Session) : s.Proceeds kept s := Session.course_proceeds.refl s
    exact ⟨⟨Session.course_proceeds, fun _ _ s => hrefl s, fun _ _ s => hrefl s,
      fun _ _ _ s => hrefl s, fun _ s => hrefl s, fun _ s => hrefl s⟩,
      .inr fun _ _ _ _ _ => ⟨_, rfl⟩⟩
  | @next c _ call hcall ih =>
    have hk := ih.keeps
    exact ⟨⟨Session.course_proceeds, fun f args s => (hcall f args s).proceeds ih,
      fun v w => Keeps.compareOnce hk v w, fun m v w => Keeps.orderOnce hk m v w,
      fun v => Keeps.hashOnce hk v, fun v => Keeps.writeOnce hk v⟩, .inl (c.findsPredicates_next call)⟩

/-! ## Attaching metadata

A caller may attach metadata of its own to whatever can be found by what is its own, also to a
predicate that was made by hand. -/

namespace Session

/-- A well-formed session comes after another one: what is registered has kept its place, and predicates
have kept their metadata. -/
structure Follows (kept : Nat → Prop) (s s' : Session) : Prop where
  /-- It is well-formed. -/
  wellFormed : s'.WellFormed kept
  /-- The heap has evolved. -/
  heap : s.heap.Evolves kept s'.heap
  /-- Keys have kept their places. -/
  keys : s.KeepsKeys s'
  /-- Predicates have kept their metadata. -/
  records (id : Nat) (name : Name) (f : Facets) (decider m : Value) (hid : id ≠ 0)
    (h : s.Records (.predicate id name f decider) m) : s'.Records (.predicate id name f decider) m

namespace Follows

variable {s s' s'' : Session}

theorem of_goes {n : Nat} (h : s.Goes kept n s') : s.Follows kept s' :=
  ⟨h.wellFormed, h.heap, h.toExtends.keepsKeys, fun _ _ _ _ _ _ hrecords =>
    hrecords.leadsTo h.toExtends.leadsTo⟩

theorem refl (hs : s.WellFormed kept) : s.Follows kept s := .of_goes (n := 0) (.refl hs)

theorem trans (h : s.Follows kept s') (h' : s'.Follows kept s'') : s.Follows kept s'' := by
  refine ⟨h'.wellFormed, h.heap.trans h'.heap, fun place r hr => ?_,
    fun _ _ _ _ _ hid hrecords => h'.records _ _ _ _ _ hid (h.records _ _ _ _ _ hid hrecords)⟩
  obtain ⟨r', hr', hkey⟩ := h.keys place r hr
  obtain ⟨r'', hr'', hkey'⟩ := h'.keys place r' hr'
  exact ⟨r'', hr'', hkey'.trans hkey⟩

variable {c : Conduct} {α β : Type} {m : Run α}

/-- The log does not matter to the register. -/
theorem log (h : s.Follows kept s') (es : List Event) : s.Follows kept { s' with events := es } :=
  ⟨⟨h.wellFormed.guarded, h.wellFormed.positive, h.wellFormed.before, fun place r hr hreserved =>
    let ⟨hrecord, hhash, hfirst⟩ := h.wellFormed.sanctions place r hr hreserved
    ⟨hrecord, hhash, hfirst⟩⟩, h.heap, h.keys, fun id name f decider m hid hrecords =>
    let ⟨hentry, hne⟩ := h.records id name f decider m hid hrecords
    ⟨hentry, hne⟩⟩

/-- What the library does follows. -/
theorem keeps (h : s.Follows kept s') (hm : Run.Keeps (Session.Proceeds kept) c m) :
    s.Follows kept (exec c m s').session :=
  h.trans (.of_goes (hm s' h.wellFormed))

/-- What goes on with a result follows, if what comes first does. -/
theorem bind {k : α → Run β} (hm : s.Follows kept (exec c m s').session)
    (hk : ∀ a s'', exec c m s' = .ok a s'' → s.Follows kept s'' →
      s.Follows kept (exec c (k a) s'').session) :
    s.Follows kept (exec c (m >>= k) s').session := by
  rw [exec_bind]
  cases hms : exec c m s' with
  | ok a s'' =>
    rw [hms] at hm
    exact hk a s'' hms hm
  | error e s'' =>
    rw [hms] at hm
    exact hm

end Follows

/-- The session after metadata was registered under a key: at the place where the key was found, or at
the end. -/
def noted (s : Session) (key : Key Value) (m : Value) (place? : Option Nat) : Session :=
  { s with
    register := match place? with
      | some place => s.register.modify place fun r => { r with metadata := m }
      | none => s.register ++ [⟨key, m⟩] }

variable {s s' : Session} {key : Key Value} {m : Value} {place? : Option Nat}

/-- What is registered afterwards was registered before, or has the metadata and a key from before, or
the key itself. -/
theorem getElem?_noted {place : Nat} {r : Registration}
    (hr : (s.noted key m place?).register[place]? = some r) :
    s.register[place]? = some r ∨ r.metadata = m ∧
      (r.key = key ∨ ∃ r', s.register[place]? = some r' ∧ r'.key = r.key) := by
  cases place? with
  | none =>
    simp only [noted] at hr
    rcases Nat.lt_or_ge place s.register.length with hlt | hge
    · exact .inl (by rwa [List.getElem?_append_left hlt] at hr)
    · rw [List.getElem?_append_right hge] at hr
      obtain rfl := List.mem_singleton.mp (List.mem_of_getElem? hr)
      exact .inr ⟨rfl, .inl rfl⟩
  | some i =>
    simp only [noted, List.getElem?_modify] at hr
    obtain ⟨r', hr', rfl⟩ := Option.map_eq_some_iff.mp hr
    split
    · exact .inr ⟨rfl, .inr ⟨r', hr', rfl⟩⟩
    · exact .inl hr'

/-- Entries stay where they are, except for the metadata at one place. -/
theorem exists_getElem?_noted (key : Key Value) (m : Value) (place? : Option Nat) {place : Nat}
    {r : Registration} (hr : s.register[place]? = some r) :
    ∃ r', (s.noted key m place?).register[place]? = some r' ∧ r'.key = r.key ∧
      (place? ≠ some place → r' = r) := by
  cases place? with
  | none =>
    exact ⟨r, by simp only [noted]; rw [List.getElem?_append_left
      (List.getElem?_eq_some_iff.mp hr).1, hr], rfl, fun _ => rfl⟩
  | some i =>
    refine ⟨if i = place then { r with metadata := m } else r, ?_, ?_, fun hne => ?_⟩
    · simp only [noted, List.getElem?_modify, hr]
      split <;> rfl
    · split <;> rfl
    · rw [if_neg fun heq => hne (congrArg some heq)]

theorem keepsKeys_noted : s.KeepsKeys (s.noted key m place?) := fun _ _ hr => by
  obtain ⟨r', hr', hkey, -⟩ := exists_getElem?_noted key m place? hr
  exact ⟨r', hr', hkey⟩

/-- Metadata that is no record of the library may be registered under a key that was there before. -/
theorem WellFormed.noted (hs : s.WellFormed kept) (hkey : key.hash.IsBefore s.heap.next)
    (hm : ¬ m.IsReserved) : (s.noted key m place?).WellFormed kept := by
  refine ⟨hs.guarded, hs.positive, fun r hr => ?_, fun place r hr hreserved => ?_⟩
  · obtain ⟨place, hplace⟩ := List.getElem?_of_mem hr
    rcases getElem?_noted hplace with hr | ⟨-, heq | ⟨r', hr', heq⟩⟩
    · exact hs.before r (List.mem_of_getElem? hr)
    · exact heq ▸ hkey
    · exact heq ▸ hs.before r' (List.mem_of_getElem? hr')
  · rcases getElem?_noted hr with hr | ⟨rfl, -⟩
    · exact (hs.sanctions place r hr hreserved).keepsKeys hr keepsKeys_noted (.refl hs.guarded)
    · exact absurd hreserved hm

/-- Metadata is not lost, unless its place is written to. -/
theorem Records.noted {p m' : Value} (h : s.Records p m')
    (hne : ∀ place r, place? = some place → s.register[place]? = some r →
      r.key.hash ≠ p.identityHash) : (s.noted key m place?).Records p m' := by
  obtain ⟨place, hplace, hfirst⟩ := h.entry
  obtain ⟨r', hr', -, hsame⟩ := exists_getElem?_noted key m place? hplace
  have heq := hsame fun hplace? => hne place _ hplace? hplace rfl
  refine ⟨⟨place, heq ▸ hr', fun i hi r hr => ?_⟩, h.metadata_ne⟩
  have hlt : i < s.register.length := Nat.lt_trans hi (List.getElem?_eq_some_iff.mp hplace).1
  obtain ⟨r'', hr'', hkey, -⟩ := exists_getElem?_noted key m place?
    (List.getElem?_eq_getElem hlt)
  obtain rfl : r'' = r := Option.some.inj (hr''.symm.trans hr)
  rw [hkey]
  exact hfirst i hi _ (List.getElem?_eq_getElem hlt)

end Session

/-- A value is found by what is its own.  If that is an identity, then it was handed out, and no other
predicate is registered under it. -/
def Conduct.FindsOwn (c : Conduct) (kept : Nat → Prop) (s : Session) (v : Value) : Prop :=
  ∀ s' s'' id, s.Goes kept s.heap.next s' → exec c (Run.hash v) s' = .ok (.token (.id id)) s'' →
    id < s''.heap.next ∧ ∀ name f decider m, s.Records (.predicate id name f decider) m →
      v = .predicate id name f decider

namespace Run

variable {c : Conduct} {s s' : Session}

theorem exec_refuse_ne {α : Type} {factory : Value} {detail : String} {a : α} :
    exec c (refuse factory detail) s ≠ .ok a s' := by
  intro h
  obtain ⟨text, s₁, -, hthrow⟩ := exists_of_exec_bind h
  cases hthrow

/-- What is found has the same hash. -/
theorem same_of_findRegistration? {key : Key Value} {rs : List Registration} {place : Nat}
    (h : exec c (findRegistration? key rs) s = .ok (some place) s') :
    ∃ r, rs[place]? = some r ∧ r.key.hash.same key.hash = true := by
  induction rs generalizing s s' place with
  | nil => cases h
  | cons r rs ih =>
    have hrest {s₁ : Session} (h : exec c (do return (← findRegistration? key rs).map (· + 1)) s₁ =
        .ok (some place) s') : ∃ r', (r :: rs)[place]? = some r' ∧ r'.key.hash.same key.hash = true := by
      obtain ⟨place?, s₂, hplace, h⟩ := exists_of_exec_bind h
      cases place? with
      | none => cases h
      | some i =>
        cases h
        exact ih hplace
    rw [findRegistration?] at h
    by_cases hsame : r.key.hash.same key.hash = true
    · rw [if_pos hsame] at h
      obtain ⟨found, s₁, -, h⟩ := exists_of_exec_bind h
      cases found with
      | true =>
        cases h
        exact ⟨r, rfl, hsame⟩
      | false => exact hrest h
    · rw [if_neg hsame] at h
      exact hrest h

/-- The metadata of a registered predicate is found. -/
theorem exec_metadata?_of_findsPredicates (hc : c.FindsPredicates) (hs : s.heap.Intact) {id : Nat}
    (hid : id ≠ 0) {name : Name} {f : Facets} {decider m : Value}
    (h : s.Records (.predicate id name f decider) m) :
    exec c (metadata? (.predicate id name f decider)) s = .ok (some m) s := by
  obtain ⟨place, hplace, hbefore⟩ := h.entry
  have hreferable : s.heap.isReferable (.predicate id name f decider) = true := rfl
  have hkeyed : exec c (keyed (.predicate id name f decider)) s =
      .ok ⟨.predicate id name f decider, .token (.id id)⟩ s := by
    rw [keyed, exec_bind, hc.hash hs, Ending.andThen_ok, exec_pure]
  have hfind : exec c (findRegistration? ⟨.predicate id name f decider, .token (.id id)⟩ s.register) s =
      .ok (some place) s :=
    exec_findRegistration?_some _ s hplace (Hash.same_refl _) (hc.equal hs hid name f decider) hbefore
  rw [metadata?, registration?]
  simp only [exec_bind, exec_heap, Ending.andThen_ok, hreferable, Bool.not_true, Bool.false_eq_true,
    if_false, exec_recovering, hkeyed, exec_get, hfind, exec_pure]
  simp [hplace, h.metadata_ne]

/-- What is not found to have metadata, but is found by the identity of a registered predicate, is not
that predicate. -/
theorem ne_predicate_of_metadata?_none (hc : c.Serves kept) (hs : s.heap.Intact) (hs' : s'.heap.Intact)
    {v : Value} {s₁ s₂ : Session} {key : Key Value} (hnone : exec c (metadata? v) s = .ok none s₁)
    (hkeyed : exec c (keyed v) s' = .ok key s₂) {id : Nat} (hid : id ≠ 0) {name : Name} {f : Facets}
    {decider m : Value} (h : s.Records (.predicate id name f decider) m) :
    v ≠ .predicate id name f decider := by
  rintro rfl
  rcases hc.finds with hfinds | hfails
  · cases hnone.symm.trans (exec_metadata?_of_findsPredicates hfinds hs hid h)
  · obtain ⟨e, he⟩ := hfails hs' id name f decider
    rw [keyed, exec_bind, he, Ending.andThen_error] at hkeyed
    cases hkeyed

/-- **Attaching metadata of its own, the caller keeps the register well-formed**, and predicates keep their
metadata. -/
theorem follows_attach (hc : c.Serves kept) (hs : s.WellFormed kept) {v m : Value}
    (hm : ¬ m.IsReserved) (hv : c.FindsOwn kept s v) :
    s.Follows kept (exec c (attach v m) s).session := by
  have hk := hc.keeps
  have hreport : Keeps (Session.Proceeds kept) c (report m) := by
    unfold report
    grind
  have hregister {s₁ : Session} (hnone : exec c (metadata? v) s = .ok none s₁)
      (h₁ : s.Goes kept s.heap.next s₁) :
      s.Follows kept (exec c (do register (← keyed v) m) s₁).session := by
    refine .bind ((Session.Follows.of_goes h₁).keeps (Keeps.keyed hk v)) fun key s₂ hkey h₂ => ?_
    obtain ⟨hash, s₂', hhash, hpure⟩ := exists_of_exec_bind hkey
    cases hpure
    refine .bind (h₂.keeps (Keeps.get hk)) fun s₂' s₃ hget h₃ => ?_
    cases hget
    have hfind := Keeps.findRegistration? hk ⟨v, hash⟩ s₂.register
    refine .bind (h₃.keeps hfind) fun place? s₄ hplace h₄ => ?_
    have hgoes := hfind s₂ h₂.wellFormed
    rw [hplace] at hgoes
    have hbefore : hash.IsBefore s₄.heap.next := fun id heq =>
      Nat.lt_of_lt_of_le (hv s₁ s₂ id h₁ (heq ▸ hhash)).1 hgoes.heap.next
    change s.Follows kept (s₄.noted ⟨v, hash⟩ m place?)
    have hkeys : s₄.KeepsKeys (s₄.noted ⟨v, hash⟩ m place?) := Session.keepsKeys_noted
    refine ⟨h₄.wellFormed.noted hbefore hm, h₄.heap, fun place r hr => ?_,
      fun id name f decider m' hid hrecords =>
        (h₄.records id name f decider m' hid hrecords).noted ?_⟩
    · obtain ⟨r', hr', hkey'⟩ := h₄.keys place r hr
      obtain ⟨r'', hr'', hkey''⟩ := hkeys place r' hr'
      exact ⟨r'', hr'', hkey''.trans hkey'⟩
    · -- If the place of a predicate were written to, the value would be that predicate.
      rintro place r rfl hr heq
      obtain ⟨r', hr', hsame⟩ := same_of_findRegistration? hplace
      obtain ⟨r'', hr'', hkey'⟩ := hgoes.toExtends.keepsKeys place r' hr'
      obtain rfl : r'' = r := Option.some.inj (hr''.symm.trans hr)
      rw [← hkey', heq] at hsame
      obtain rfl : hash = .token (.id id) := by
        cases hash with
        | token t => rw [beq_iff_eq.mp (show (Token.id id == t) = true from hsame)]
        | _ => cases hsame
      exact ne_predicate_of_metadata?_none hc hs.guarded.toIntact h₁.wellFormed.guarded.toIntact hnone
        hkey hid hrecords ((hv s₁ s₂ id h₁ hhash).2 name f decider m' hrecords)
  have hreferable : s.Follows kept (exec c (do
      if (← metadata? v).isSome then
        refuse (← factoryOf m) "predicate already carries factory metadata"
      register (← keyed v) m
      let e ← report m
      log e) s).session := by
    have hmetadata := Keeps.metadata? hk v s hs
    refine .bind (.of_goes hmetadata) fun found s₁ hfound h₁ => ?_
    rw [hfound] at hmetadata
    cases found with
    | none =>
      have hrest := Session.Follows.bind (hregister hfound hmetadata) fun _ s₂ _ h₂ =>
        Session.Follows.bind (k := log) (h₂.keeps hreport) fun e s₃ _ h₃ => h₃.log (s₃.events ++ [e])
      rwa [bind_assoc] at hrest
    | some _ =>
      refine .bind (h₁.keeps (Keeps.factoryOf hk m)) fun factory s₂ _ h₂ => ?_
      exact .bind (h₂.keeps (Keeps.refuse hk _ _)) fun _ _ h => (exec_refuse_ne h).elim
  rw [attach, ← report_bind_log, exec_bind, exec_heap, Ending.andThen_ok]
  split
  · refine .bind ((Session.Follows.refl hs).keeps (Keeps.factoryOf hk m)) fun factory s₁ _ h₁ => ?_
    refine .bind (h₁.keeps (Keeps.shownClass hk v)) fun shown s₂ _ h₂ => ?_
    exact .bind (h₂.keeps (Keeps.refuse hk _ _)) fun _ _ h => (exec_refuse_ne h).elim
  · exact hreferable

end Run

/-! ## Reachable sessions

A run is a sequence of moves.  What a single move preserves is shown first, and by induction it is
preserved by the run. -/

/-- In a run, calls take lawful steps only: the run is the same under a lawful conduct. -/
def Conduct.Behaves (kept : Nat → Prop) (c : Conduct) {α : Type} (m : Run α) (s : Session) : Prop :=
  ∃ d : Conduct, d.Lawful kept ∧ exec c m s = exec d m s

/-- The conduct of a program is lawful, if all calls that are nested less deeply take such steps. -/
theorem Conduct.lawful_conduct (host : Host) (n : Nat) (h : ∀ m < n, ∀ f args s,
    (Ask.conduct host m).Steps kept s (exec (Ask.conduct host m) (Ask.callOnce host f args) s).session) :
    (Ask.conduct host n).Lawful kept := by
  induction n with
  | zero => exact .none
  | succ n ih =>
    exact .next (ih fun m hm => h m (Nat.lt_succ_of_lt hm)) _ (h n (Nat.lt_succ_self n))

/-- Whatever the conduct is, a call behaves if all that it does amounts to something of the caller's
own. -/
theorem Conduct.behaves_call (c : Conduct) {f : Value} {args : List Value} {s : Session}
    (hown : s.Own kept (exec c (Run.call f args) s).session) : c.Behaves kept (Run.call f args) s := by
  classical
  -- The lawful conduct makes this call only.
  let only (f' : Value) (args' : List Value) (s' : Session) : Ending Value :=
    if f' = f ∧ args' = args ∧ s' = s then exec c (Run.call f args) s else .ok .null s'
  have honly : ∀ f' args' s', Conduct.none.Steps kept s' (only f' args' s').session := by
    intro f' args' s'
    by_cases h : f' = f ∧ args' = args ∧ s' = s
    · rw [show only f' args' s' = _ from if_pos h]
      obtain ⟨-, -, rfl⟩ := h
      exact .own (.refl s') hown
    · rw [show only f' args' s' = _ from if_neg h]
      exact .refl s'
  exact ⟨Conduct.none.next only, .next .none only honly, (if_pos ⟨rfl, rfl, rfl⟩).symm⟩

/-- A call that gives a result in a run of this kind gives it under a lawful conduct. -/
theorem Conduct.Behaves.perform {c : Conduct} {s s' : Session} {o : Operation} {a : Arguments}
    {v : Value} (hc : c.Behaves kept (o.apply a) s) (h : exec c (o.apply a) s = .ok v s') :
    ∃ d : Conduct, d.Serves kept ∧ exec d (o.perform a) s = .ok v s' := by
  obtain ⟨d, hd, hsame⟩ := hc
  refine ⟨d, hd.serves, ?_⟩
  rw [hsame] at h
  unfold Operation.apply at h
  split at h
  · exact h
  · cases h

/-- The caller does one thing: something of its own, or a call of the library or of another value, which
may fail.  What a call calls in turn takes lawful steps. -/
inductive Session.Moves (kept : Nat → Prop) : Session → Session → Prop
  | own {s s' : Session} (hown : s.Own kept s') : Moves kept s s'
  | apply {s : Session} {c : Conduct} (o : Operation) (a : Arguments) (ho : o.Respects a)
      (hc : c.Behaves kept (o.apply a) s) : Moves kept s (exec c (o.apply a) s).session
  | call {s : Session} {c : Conduct} (f : Value) (args : List Value)
      (hc : c.Behaves kept (Run.call f args) s) : Moves kept s (exec c (Run.call f args) s).session

/-- **From a well-formed session the caller moves to a well-formed one**, and the log tells of what is
registered. -/
theorem Session.Moves.goes {s s' : Session} (h : s.Moves kept s') (hs : s.WellFormed kept) :
    s.Goes kept s.heap.next s' := by
  cases h with
  | own hown => exact hs.goes_of_register _ (hown.heap hs.guarded) hown.register hown.log
  | apply o a ho hc =>
    obtain ⟨d, hd, hsame⟩ := hc
    rw [hsame]
    exact Keeps.apply hd.serves ho s hs
  | call f args hc =>
    obtain ⟨d, hd, hsame⟩ := hc
    rw [hsame]
    exact hd.serves.keeps.call f args s hs

/-- What becomes of a session when the caller goes on: it moves, and attaches metadata of its own to
values that are found by what is their own. -/
inductive Session.Reaches (kept : Nat → Prop) : Session → Session → Prop
  | refl (s : Session) : Reaches kept s s
  | moves {s s' s'' : Session} (h : Reaches kept s s') (hmoves : s'.Moves kept s'') : Reaches kept s s''
  | attach {s s' : Session} (h : Reaches kept s s') {c d : Conduct} (a : Arguments)
      (hm : ¬ (a.get 1 "metadata").IsReserved) (hd : d.Lawful kept)
      (hc : exec c (Operation.attachMetadata.apply a) s' = exec d (Operation.attachMetadata.apply a) s')
      (hv : d.FindsOwn kept s' (a.get 0 "pred")) :
      Reaches kept s (exec c (Operation.attachMetadata.apply a) s').session

/-- **A session that is reached from a well-formed one is well-formed.** -/
theorem Session.Reaches.follows {s s' : Session} (h : s.Reaches kept s') (hs : s.WellFormed kept) :
    s.Follows kept s' := by
  induction h with
  | refl => exact .refl hs
  | moves h hmoves ih => exact ih.trans (.of_goes (hmoves.goes ih.wellFormed))
  | attach h a hm hd hc hv ih =>
    rw [hc]
    unfold Operation.apply at hc ⊢
    split
    · change Session.Follows kept _ (exec _ (Build.attachValue _ _) _).session
      rw [Build.attachValue]
      exact ih.trans (.bind (follows_attach hd.serves ih.wellFormed hm hv) fun _ _ _ h'' => h'')
    · exact ih

theorem Session.Reaches.wellFormed {s : Session} (h : Session.start.Reaches kept s) :
    s.WellFormed kept := (h.follows Session.start_wellFormed).wellFormed

end ValueShape
