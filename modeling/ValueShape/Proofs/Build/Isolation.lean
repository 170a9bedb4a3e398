import ValueShape.Build.Custom
import ValueShape.Proofs.Ask.Strict
import ValueShape.Proofs.Build.Partial
import ValueShape.Proofs.Build.Rebuild
import ValueShape.Proofs.Conduct.Container
import ValueShape.Proofs.Store.Mutation

/-!
# Arguments that change later

A product keeps nothing that its caller can change: factories copy the containers that they are given.

* `Build.Making` are the calls that make a predicate with metadata.  The arguments in the metadata are
  a tuple (`Session.Registers`).
* `Session.TellsAlike` says that a predicate tells the same of itself in two sessions, and
  `Session.DerivedAlike` that two products which were derived in two sessions are the same in all that
  can be asked of them.
* `Build.Making.isolated` is the main result: whatever becomes of the containers that were there
  before the call, and whatever is tried with the read-only mappings in the metadata, the product tells
  the same, gives the same verdicts, and the same is derived from it.  `Build.tampering` lists what can
  be tried, and `Build.Making.isolated_object` goes through all of it.
* The arguments that a caller registers himself are copied one by one.  A mapping among them is still
  the caller's: `Build.custom_descriptor_changes`.
-/

set_option autoImplicit false

namespace ValueShape

open Run

/-! ## Registered predicates

A caller can register predicates with metadata of any sort.  So these are described by the arguments
that the metadata has, and only products of factories by their recipe. -/

/-- A predicate of the given name is registered with metadata that has the given arguments. -/
inductive Session.Registers (s : Session) (title : String) (args : List Value) : Value → Prop
  | mk {id idName : Nat} {f : Facets} {decider : Value} (hid : id ≠ 0) {id' id'' : Nat}
      {factory : Name}
      (hrecords : s.Records (.predicate id ⟨title, .kind .text, idName⟩ f decider)
        (.metadata (.kind .metadata) id' factory (.tuple (.kind .tuple) id'' args))) :
      Registers s title args (.predicate id ⟨title, .kind .text, idName⟩ f decider)

theorem Session.Makes.registers {s : Session} {old : Nat} {r : Recipe} {title : String} {p : Value}
    (h : s.Makes old r title p) : ∃ args, r.Told old s.heap args ∧ s.Registers title args p := by
  obtain ⟨⟨_, hid, _⟩, _, _, args, htold, hrecords⟩ := h
  exact ⟨args, htold, ⟨hid, hrecords⟩⟩

/-- The metadata that a product is registered with tells its recipe, whoever says which arguments it
has. -/
theorem Session.Makes.told_of_registers (host : Host) (n : Nat) {s : Session} (hs : s.Sound) {old : Nat}
    {r : Recipe} {title title' : String} {args : List Value} {p : Value} (hp : s.Makes old r title p)
    (h : s.Registers title' args p) : r.Told old s.heap args := by
  obtain ⟨hid, hrecords⟩ := h
  obtain ⟨_, _, _, _, rfl, htold, hmetadata, -, -, -⟩ := exec_metadata_makes host n hs hp
  have hmetadata' := exec_metadata?_some host n _ _ _ _ hs hid hrecords
  cases hmetadata.symm.trans hmetadata'
  exact htold

namespace Build

/-- A value that is no tuple itself is read as a tuple of items, and nothing is registered by that. -/
structure ReadsAs (c : Conduct) (I : Session → Prop) (s : Session) (args : Value)
    (items : List Value) : Prop where
  /-- It is a value that a caller can hold. -/
  identified : args.isIdentified = true
  /-- It is no tuple. -/
  kind {s' : Session} (hs' : I s') : exec c (isOfKind args .tuple) s' = .ok false s'
  /-- It is read as a tuple. -/
  read {s' : Session} (hs' : I s') (hregister : s'.register = s.register) :
    Settles c I s' (toTuple args) fun w s'' =>
      (∃ id, w = .tuple (.kind .tuple) id items) ∧ s''.register = s.register

/-- The calls that make a predicate with metadata: those of factories, of derived combinators and of
modifiers that wrap, and those by which a caller registers a predicate as the product of a factory of
his own, either when he makes it or later.  The arguments may be given as anything that can be read as
a tuple, and the name may be left to the library. -/
inductive Making (c inner : Conduct) (I : Session → Prop) (s : Session) : Run Value → Prop
  | factory {m : Run Value} (hm : Call c inner I s m) : Making c inner I s m
  | custom {factory : Name} {args check name : Value} {items : List Value} {title : String}
      (o r : Bool) (hcls : factory.cls = .kind .text)
      (hfactory : (Value.ofName factory).isIdentified = true) (hne : factory.text ≠ "")
      (hlt : factory.text.length < maxIndex)
      (hargs : Settles c I s (toTuple args) fun w _ => ∃ id, w = .tuple (.kind .tuple) id items)
      (hitems : items.length < maxIndex) (hcheck : ∀ s, I s → s.heap.isCallable check = true)
      (hname : ∀ s, I s → Settles c I s
        (match name with
          | .null => customName (.ofName factory) items
          | name => pure name)
        fun w _ => ∃ id, w = .scalar (.kind .text) id (.text title))
      (htitle : title ≠ "") (hlength : title.length < maxIndex) :
      Making c inner I s (customProduct (.ofName factory) args check name (.bool o) (.bool r))
  | attached {factory : Name} {args decider : Value} {items : List Value} {title : String}
      {id idName : Nat} {f : Facets} (hcls : factory.cls = .kind .text)
      (hfactory : (Value.ofName factory).isIdentified = true) (hne : factory.text ≠ "")
      (hlt : factory.text.length < maxIndex) (hargs : ReadsAs c I s args items)
      (hitems : items.length < maxIndex) (hid : id ≠ 0) (hnext : id < s.heap.next)
      (hnew : ∀ r ∈ s.register, r.key.hash.IsBefore id) :
      Making c inner I s (do
        attachValue (.predicate id ⟨title, .kind .text, idName⟩ f decider)
          (← newMetadata (.kind .metadata) (.ofName factory) args))

/-- A predicate of the caller is registered as the product of a factory of his own. -/
theorem settles_customProduct (host : Host) (n : Nat) {I : Session → Prop} (hI : Session.Enduring I)
    {s : Session} {factory : Name} {args check name : Value} {items : List Value} {title : String}
    (o r : Bool) (hcls : factory.cls = .kind .text)
    (hfactory : (Value.ofName factory).isIdentified = true) (hne : factory.text ≠ "")
    (hlt : factory.text.length < maxIndex)
    (hargs : Settles (Ask.conduct host (n + 1)) I s (toTuple args)
      fun w _ => ∃ id, w = .tuple (.kind .tuple) id items)
    (hitems : items.length < maxIndex) (hcheck : ∀ s, I s → s.heap.isCallable check = true)
    (hname : ∀ s, I s → Settles (Ask.conduct host (n + 1)) I s
      (match name with
        | .null => customName (.ofName factory) items
        | name => pure name)
      fun w _ => ∃ id, w = .scalar (.kind .text) id (.text title))
    (htitle : title ≠ "") (hlength : title.length < maxIndex) :
    Settles (Ask.conduct host (n + 1)) I s
      (customProduct (.ofName factory) args check name (.bool o) (.bool r)) fun p s' =>
        s'.Registers title items p := by
  rw [customProduct]
  refine hargs.bind fun w s₁ _ hs₁ hw => ?_
  obtain ⟨idArgs, rfl⟩ := hw
  have hnamed := hname s₁ hs₁
  -- With the name at hand, it does not matter where that comes from.
  have hrest : ∀ w s₂, s₁.LeadsTo s₂ → I s₂ → (∃ id, w = .scalar (.kind .text) id (.text title)) →
      Settles (Ask.conduct host (n + 1)) I s₂ (do
        let pred ← custom check w (.bool o) (.bool r)
        attach pred (← newMetadata (.kind .metadata) (.ofName factory)
          (.tuple (.kind .tuple) idArgs items))
        return pred) fun p s' => s'.Registers title items p := by
    rintro w s₂ - hs₂ ⟨idName, rfl⟩
    have hsound := hI.sound hs₂
    have hcustom : exec (Ask.conduct host (n + 1))
        (custom check (.scalar (.kind .text) idName (.text title)) (.bool o) (.bool r)) s₂ =
          exec (Ask.conduct host (n + 1))
            (wrap check ⟨title, .kind .text, idName⟩ (.bool o) (.bool r)) s₂ := by
      rw [custom, exec_bind, exec_heap, Ending.andThen_ok, hcheck s₂ hs₂]
      simp only [Bool.not_true, Bool.false_eq_true, if_false, Value.name?, exec_bind,
        exec_isName _ hsound.intact _ hlength htitle, Ending.andThen_ok]
    obtain ⟨id, id', s₃, hregistered, hnotes, hid, hrecords⟩ := exec_registered host n hsound factory
      hcls hfactory hne hlt idArgs hitems ⟨title, .kind .text, idName⟩ o r check
    refine .of_exec hI.toLasting hs₂ ?_ hnotes ⟨hid, hrecords⟩
    rw [exec_bind] at hregistered ⊢
    exact (congrArg (Ending.andThen · _) hcustom).trans hregistered
  split
  · exact .after (exec_heap _ s₁) (hnamed.bind hrest)
  · rename_i hnull
    split at hnamed
    · exact absurd rfl hnull
    · exact hnamed.bind hrest

/-- New metadata has the items of a value as its arguments. -/
theorem settles_newMetadata {c : Conduct} {I : Session → Prop} (hI : Session.Lasting I) {s : Session}
    (hs : I s) {factory : Name} (hcls : factory.cls = .kind .text)
    (hfactory : (Value.ofName factory).isIdentified = true) (hne : factory.text ≠ "")
    (hlt : factory.text.length < maxIndex) {args : Value} {items : List Value}
    (hargs : ReadsAs c I s args items) :
    Settles c I s (newMetadata (.kind .metadata) (.ofName factory) args) fun m s' =>
      (∃ id id', m = .metadata (.kind .metadata) id factory (.tuple (.kind .tuple) id' items)) ∧
        s'.register = s.register := by
  obtain ⟨text, cls, idName⟩ := factory
  subst hcls
  let s₁ := s.withNext (s.heap.next + 1)
  have hnotes : s.Notes s₁ := .withNext (by omega)
  have hs₁ : I s₁ := hI.notes hs hnotes
  have hintact := (hI.sound hs₁).intact
  have hname : (nameAttribute, Kind.memberField) ∈ Kind.metadata.fields := by decide
  have harguments : (argumentsAttribute, Kind.memberField) ∈ Kind.metadata.fields := by decide
  obtain ⟨w, s₂, hread, hle, hs₂, ⟨idArgs, rfl⟩, hregister⟩ := hargs.read hs₁ rfl
  refine ⟨_, s₂, ?_, hnotes.leadsTo.trans hle, hs₂, ⟨s.heap.next, idArgs, rfl⟩, hregister⟩
  rw [newMetadata]
  simp only [Value.ofName, Value.name?, exec_bind, exec_fresh, Ending.andThen_ok]
  rw [exec_storeField c hintact rfl hname, Ending.andThen_ok,
    exec_storeField c hintact rfl harguments, Ending.andThen_ok, exec_readFactory c hintact,
    exec_identified_of_isIdentified c hfactory, Ending.andThen_ok, Value.ofName,
    exec_isName c hintact _ hlt hne, Ending.andThen_ok, if_neg (by decide), exec_bind,
    exec_readArguments c hintact, exec_identified_of_isIdentified c hargs.identified,
    Ending.andThen_ok, exec_bind, hargs.kind hs₁, Ending.andThen_ok,
    if_neg (by decide), exec_bind, hread, Ending.andThen_ok, exec_bind,
    exec_storeField c (hI.sound hs₂).intact rfl harguments, Ending.andThen_ok]
  rfl

/-- A call makes a registered predicate, and a factory makes a product of a recipe. -/
theorem Making.settles (host : Host) (n : Nat) {inner : Conduct} {I : Session → Prop} {old : Nat}
    (hI : Session.Enduring I) (hold : ∀ s, I s → old ≤ s.heap.cells.size) {s : Session} (hs : I s)
    {m : Run Value} (hm : Making (Ask.conduct host (n + 1)) inner I s m) :
    Settles (Ask.conduct host (n + 1)) I s m fun p s' => ∃ title args, s'.Registers title args p ∧
      (Call (Ask.conduct host (n + 1)) inner I s m → ∃ r, s'.Makes old r title p) := by
  by_cases hcall : Call (Ask.conduct host (n + 1)) inner I s m
  · refine (hcall.settles host n hI hold hs).mono fun p s' _ _ hp => ?_
    obtain ⟨r, title, -, -, hmakes⟩ := hp
    obtain ⟨args, -, hregisters⟩ := hmakes.registers
    exact ⟨title, args, hregisters, fun _ => ⟨r, hmakes⟩⟩
  · cases hm with
    | factory hm => exact absurd hm hcall
    | custom o r hcls hfactory hne hlt hargs hitems hcheck hname htitle hlength =>
      exact (settles_customProduct host n hI o r hcls hfactory hne hlt hargs hitems hcheck hname
        htitle hlength).mono fun p s' _ _ hp => ⟨_, _, hp, fun h => absurd h hcall⟩
    | attached hcls hfactory hne hlt hargs hitems hid hnext hnew =>
      rename_i factory args decider items title id idName f
      refine (settles_newMetadata hI.toLasting hs hcls hfactory hne hlt hargs).bind
        fun m s₁ hle hs₁ hm => ?_
      obtain ⟨⟨idMetadata, idArgs, rfl⟩, hregister⟩ := hm
      obtain ⟨s₂, hattach, hnotes, hrecords, -⟩ := exec_attach host n id ⟨title, .kind .text, idName⟩ f
        decider (hI.sound hs₁) (Nat.lt_of_lt_of_le hnext hle.next) (hregister ▸ hnew) idMetadata
        hfactory idArgs hitems
      refine .of_notes hI.toLasting hs₁ ?_ hnotes ⟨title, items, ⟨hid, hrecords⟩, fun h => absurd h hcall⟩
      rw [attachValue, exec_bind]
      exact congrArg (Ending.andThen · _) hattach

end Build

/-! ## Two sessions

After the containers have been changed, a predicate is compared with what it was before, by all that
it tells of itself.  Products that were derived in two sessions are different predicates, but they
may agree in all of that. -/

/-- A predicate tells the same of itself in two sessions. -/
structure Session.TellsAlike (c : Conduct) (I : Session → Prop) (s s' : Session) (title : String)
    (args : List Value) (p : Value) : Prop where
  /-- It has the name. -/
  name : ∀ t ∈ [s, s'], Settles c I t (displayName p) fun w _ => w.text? = some title
  /-- It agrees on the optional facet. -/
  optional : ∃ b, ∀ t ∈ [s, s'], Settles c I t (Build.isOptional p) fun a _ => a = .bool b
  /-- It agrees on the readonly facet. -/
  readonly : ∃ b, ∀ t ∈ [s, s'], Settles c I t (Build.isReadonly p) fun a _ => a = .bool b
  /-- It has the same metadata, with the arguments. -/
  metadata : ∃ id factory id', ∀ t ∈ [s, s'], exec c (metadata? p) t =
    .ok (some (.metadata (.kind .metadata) id factory (.tuple (.kind .tuple) id' args))) t

/-- Two products that were derived in two sessions have the same name and the same facets, ask the
same, and are registered with descriptors of the same kind. -/
structure Session.DerivedAlike (host : Host) (c : Conduct) (I : Session → Prop) (old : Nat)
    (s s' : Session) (q q' : Value) : Prop where
  /-- They are known by one sketch. -/
  sketch : ∃ o : ObjectSketch, o.Describes c I s old q ∧ o.Describes c I s' old q'
  /-- They have the same name. -/
  name : ∃ title, Settles c I s (displayName q) (fun w _ => w.text? = some title) ∧
    Settles c I s' (displayName q') fun w _ => w.text? = some title
  /-- They have the same facets. -/
  facets : q.facets = q'.facets
  /-- Called with a value, they do the same. -/
  asks (x : Value) : Ask.callWith host q [x] = Ask.callWith host q' [x]

section

variable {c : Conduct} {I : Session → Prop} {s s' : Session} (hI : Session.Enduring I)
include hI

theorem Session.Registers.settles_displayName (hs : I s) {title : String} {args : List Value}
    {p : Value} (hp : s'.Registers title args p) :
    Settles c I s (displayName p) fun w _ => w.text? = some title := by
  obtain ⟨-, -⟩ := hp
  rw [Settles, exec_displayName c (hI.sound hs).intact]
  refine (settles_identified hI.toLasting hs _).mono fun w _ _ _ hw => ?_
  rw [hw.text?_eq, Value.text?_ofName]

/-- What a registered predicate tells of itself does not change. -/
theorem Session.Registers.tellsAlike (host : Host) (n : Nat) (hs : I s) (hs' : I s')
    (hle : s.LeadsTo s') {title : String} {args : List Value} {p : Value}
    (hp : s.Registers title args p) :
    TellsAlike (Ask.conduct host (n + 1)) I s s' title args p := by
  have hname {t : Session} (ht : I t) := hp.settles_displayName (c := Ask.conduct host (n + 1)) hI ht
  obtain ⟨hid, hrecords⟩ := hp
  rename_i id idName f decider id' id'' factory
  have hpresents : (Value.predicate id ⟨title, .kind .text, idName⟩ f decider).Presents
      (Ask.conduct host (n + 1)) I f := .predicate hI.toLasting _ _ _ _
  have hboth {P : Session → Prop} (h : P s) (h' : P s') : ∀ t ∈ [s, s'], P t :=
    List.forall_mem_cons.mpr ⟨h, List.forall_mem_singleton.mpr h'⟩
  exact {
    name := hboth (hname hs) (hname hs')
    optional := ⟨_, hboth (hpresents.optional hs) (hpresents.optional hs')⟩
    readonly := ⟨_, hboth (hpresents.readonly hs) (hpresents.readonly hs')⟩
    metadata := ⟨_, _, _, hboth (exec_metadata?_some host n _ _ _ _ (hI.sound hs) hid hrecords)
      (exec_metadata?_some host n _ _ _ _ (hI.sound hs') hid (hrecords.leadsTo hle))⟩ }

/-- Products of one sketch are alike. -/
theorem ObjectSketch.Describes.derivedAlike (host : Host) (hs : I s) (hs' : I s')
    {o : ObjectSketch} {old : Nat} {q q' : Value} (hq : o.Describes c I s old q)
    (hq' : o.Describes c I s' old q') : Session.DerivedAlike host c I old s s' q q' := by
  have hasks (x : Value) := (hq.callWith_eq host x).trans (hq'.callWith_eq host x).symm
  have hsketch : ∃ o : ObjectSketch, o.Describes c I s old q ∧ o.Describes c I s' old q' :=
    ⟨o, hq, hq'⟩
  obtain ⟨fields, -, -, hmakes, -⟩ := hq
  obtain ⟨fields', -, -, hmakes', -⟩ := hq'
  obtain ⟨_, -, hregisters⟩ := hmakes.registers
  obtain ⟨_, -, hregisters'⟩ := hmakes'.registers
  exact {
    sketch := hsketch
    name := ⟨_, hregisters.settles_displayName hI hs, hregisters'.settles_displayName hI hs'⟩
    facets := hmakes.product.facets_eq.trans hmakes'.product.facets_eq.symm
    asks := hasks }

end

/-! ## Changes

What metadata tells of was made during the call.  The containers that change were there before, so
they are none of these, however they were used by the call. -/

section Changes

variable {c : Conduct} {I : Session → Prop} {s s' : Session} {places : List Nat} {old : Nat}
  (hplaces : ∀ place ∈ places, place < old) (hover : Session.Overwritten places s s')
include hplaces hover

/-- What metadata tells of a recipe is not among what was there before. -/
theorem Session.Overwritten.makes {r : Recipe} {title : String} {p : Value}
    (hp : s.Makes old r title p) : s'.Makes old r title p :=
  hp.leadsTo hover.leadsTo fun _ htold => htold.of_places fun place _ hle cell =>
    hover.kept place cell fun hmem => absurd (hplaces place hmem) (Nat.not_lt.mpr hle)

/-- What is known of a product goes on to hold. -/
theorem Session.Overwritten.records {o : ObjectSketch} {p : Value} (hp : o.Records c I s old p) :
    o.Records c I s' old p := by
  obtain ⟨fields, texts, title, hfields, hmakes, hdescribed⟩ := hp
  exact ⟨fields, texts, title, hfields, hover.makes hplaces hmakes, hdescribed.leadsTo hover.leadsTo⟩

end Changes

namespace Build

/-- **A product does not depend on what becomes of the arguments.**  A call makes a predicate `p`.
Then any containers that were there before the call are changed, any number of times, and somebody
tries to change the read-only mappings in the metadata.  The invariant may be another one than that of
the call, since that may need the containers.  Afterwards

* `p` has the same name, the same facets and the same metadata, with the same arguments, and if they
  tell a recipe they go on to do so,
* `p` gives the same verdict on every value that its inquiry finds unchanged,
* any derived combinators make the same of it. -/
theorem Making.isolated (host : Host) (n : Nat) {inner : Conduct} {I₀ I : Session → Prop} {old : Nat}
    (hI₀ : Session.Enduring I₀) (hI : Session.Enduring I) (hsub : ∀ s, I₀ s → I s)
    (hold : ∀ s, I s → old ≤ s.heap.cells.size) {s : Session} (hs : I₀ s) {m : Run Value}
    (hm : Making (Ask.conduct host (n + 1)) inner I₀ s m) :
    let c := Ask.conduct host (n + 1)
    ∃ p s₁ title args, exec c m s = .ok p s₁ ∧ I s₁ ∧ s₁.Registers title args p ∧
      (Call c inner I₀ s m → ∃ r, s₁.Makes old r title p) ∧
      ∀ places s₂, (∀ place ∈ places, place < old) → Session.Mutated host n I places args s₁ s₂ →
        Session.TellsAlike c I s₁ s₂ title args p ∧
        (∀ r, s₁.Makes old r title p → s₂.Makes old r title p) ∧
        (∀ R x, (∀ t t', R t t' → t.Sound ∧ t'.Sound) → R s₁ s₂ →
          ((Ask.inquiry p x).IsBlind (Ask.conduct host n) R (Ask.answer host)) →
          (exec c (call p [x]) s₁).Alike R (exec c (call p [x]) s₂)) ∧
        ∀ o d ds, o.Records c I s₁ old p → Derivation.AllApply c I (d :: ds) o →
          ∃ q t q' t', exec c (Derivation.applyAll (d :: ds) p) s₁ = .ok q t ∧
            exec c (Derivation.applyAll (d :: ds) p) s₂ = .ok q' t' ∧
            Session.DerivedAlike host c I old t t' q q' := by
  intro c
  obtain ⟨p, s₁, hp, -, hs₁, title, args, hregisters, hmakes⟩ :=
    hm.settles host n hI₀ (fun s hs => hold s (hsub s hs)) hs
  have hs₁ : I s₁ := hsub s₁ hs₁
  refine ⟨p, s₁, title, args, hp, hs₁, hregisters, hmakes, fun places s₂ hplaces hmutated => ?_⟩
  obtain ⟨hs₂, hover⟩ := hmutated.overwritten hI hs₁
  refine ⟨hregisters.tellsAlike hI host n hs₁ hs₂ hover.leadsTo, fun r => hover.makes hplaces,
    fun R x hR hrel hblind => ?_, fun o d ds ho hds => ?_⟩
  · obtain ⟨-, -⟩ := hregisters
    exact blind_call host n hR _ _ _ _ x hblind s₁ s₂ hrel
  · obtain ⟨q, t, hq, -, ht, hdescribes⟩ := Derivation.run_cons host n hI hold hs₁ ho hds
    obtain ⟨q', t', hq', -, ht', hdescribes'⟩ :=
      Derivation.run_cons host n hI hold hs₂ (hover.records hplaces ho) hds
    exact ⟨q, t, q', t', hq, hq', hdescribes.derivedAlike hI host ht ht' hdescribes'⟩

/-- The ways in which somebody tries to change a read-only mapping, with another mapping at hand. -/
def tampering (view other : Value) : List (Run Value) :=
  [setItem view (.keptText "a") .null, callNamed view "update" [other], callNamed view "__ior__" [other],
    callNamed view "__or__" [other], callNamed view "__ror__" [other], compare view other]

/-- Where the other mapping and the one that is shown are texts and callables, each of these ways is
an attempt. -/
theorem attempt_tampering (host : Host) {I : Session → Prop} (hI : Session.Enduring I) {s : Session}
    (hs : I s) {id place place' : Nat} (hplace : HoldsOnly s.heap IsAtomic (.ref place))
    (hplace' : HoldsOnly s.heap IsAtomic (.ref place')) :
    ∀ m ∈ tampering (.view id (.ref place)) (.ref place'), s.Attempt host I id place m := by
  have hquiet : CompareQuietly host I IsAtomic := compareQuietly_atomic host fun s hs =>
    (hI.sound hs).intact
  have hkey : ∀ method, s.heap.slot? .index (.keptText "a") ≠ some (.assigned method) := by
    intro method h
    rw [(hI.sound hs).intact.slot? (k := .text) rfl] at h
    cases h
  simp only [tampering, List.forall_mem_cons, List.not_mem_nil, false_implies, implies_true, and_true]
  exact ⟨.put hkey .null, .change (by decide) _, .merge _, .unite hquiet hplace hplace' (by decide),
    .unite hquiet hplace hplace' (by decide), .compare hquiet hplace hplace'⟩

/-- All of these ways after each other are changes. -/
theorem mutated_tampering (host : Host) (n : Nat) {I : Session → Prop} (hI : Session.Enduring I)
    {places : List Nat} {args : List Value} {s s' : Session} (hs : I s)
    (h : Session.Mutated host n I places args s s') {id place place' : Nat}
    (hview : Value.view id (.ref place) ∈ args) (hkept : place ∉ places)
    {fields own : List (Name × Value)} (hplace : s.heap.HoldsFields place fields)
    (hplace' : ∀ s, I s → s.heap.HoldsFields place' own)
    (hatomic : ∀ field ∈ fields ++ own, IsAtomic (.ofName field.1) ∧ IsAtomic field.2) :
    Session.Mutated host n I places args s ((tampering (.view id (.ref place)) (.ref place')).foldl
      (fun t m => (exec (Ask.conduct host (n + 1)) m t).session) s') := by
  obtain ⟨hfields, hown⟩ := List.forall_mem_append.mp hatomic
  refine h.attempts fun t ht m hm => ⟨id, place, hview, ?_⟩
  obtain ⟨hs', hover⟩ := ht.overwritten hI hs
  exact attempt_tampering host hI hs'
    (.dict (hover.kept place _ hkept hplace) (List.forall_mem_map.mpr hfields))
    (.dict (hplace' t hs') (List.forall_mem_map.mpr hown)) m hm

/-- A leaf tells the same of a text everywhere. -/
theorem isBlind_leaf_text (host : Host) (c : Conduct) {I : Session → Prop} (hI : Session.Enduring I)
    (l : Leaf) (text : String) :
    (Ask.inquiry (.leaf l) (.keptText text)).IsBlind c (fun s s' => I s ∧ I s') (Ask.answer host) := by
  have hstart : Heap.start.IsOrdinary .text (.keptText text) :=
    Heap.start_regular.isOrdinary rfl rfl
  have hasked : ∀ s, I s → Settles c I s (Ask.answer host ⟨.plain, .leaf l⟩ (.keptText text))
      fun b _ => b = l.test Heap.start (.keptText text) := by
    intro s hs
    have hordinary : s.heap.IsOrdinary .text (.keptText text) := (hI.regular hs).isOrdinary rfl rfl
    obtain ⟨hread, hcall⟩ := hordinary.readsAttributes_of_mem (by decide)
    refine .of_exec_self hs (exec_accepts_leaf host c hread hcall l) ?_
    exact Leaf.test_primitive hordinary hstart (by decide) (.inl rfl) l
  exact .ask (.of_settles hasked) fun b _ _ _ _ _ => .done b

/-- The product of a leaf finds a mapping with one text unchanged wherever that holds its field. -/
theorem isBlind_product_text (host : Host) (n : Nat) {I : Session → Prop} (hI : Session.Enduring I)
    (hU : ∀ s, I s → s.Untouched) {place : Nat} {key text : String} {l : Leaf} {title : String}
    {p : Value} (hholds : ∀ s, I s → s.heap.HoldsFields place [(.kept key, .keptText text)])
    (hp : (Recipe.object [(.kept key, .leaf l)] false).Product title p) :
    (Ask.inquiry p (.ref place)).IsBlind (Ask.conduct host (n + 1)) (fun s s' => I s ∧ I s')
      (Ask.answer host) := by
  have hsteady := SteadyFields.of_leaves host n hI hU [(key, l)] (List.pairwise_singleton _ _)
  have hkey : Name.kept key ∈ [((Name.kept key, Value.leaf l) : Name × Value)].map (·.1) :=
    List.mem_cons_self
  have hread : ∀ s, I s → exec (Ask.conduct host (n + 1)) (Glance.get (.ref place) (.kept key)).read s =
      .ok (.keptText text) s := by
    intro s hs
    have hget := exec_getValue hI hholds hsteady.names (List.forall_mem_singleton.mpr hkey) hs hkey
      .undefined
    rwa [List.find?_cons_of_pos (by exact beq_self_eq_true key)] at hget
  obtain ⟨_, -, hdecides⟩ := hp
  cases hdecides
  refine Ask.isBlind_inquiry_loose _ _ _ _ (.of_settles fun s hs => .of_exec_self hs
    (exec_isOfKind_dict _ (hI.regular hs) (hholds s hs) .mapping) rfl) ?_
  refine List.forall_mem_singleton.mpr ⟨.of_settles fun s hs => .of_exec_self hs (hread s hs) rfl, ?_⟩
  intro v s s' t hs hv
  cases (hread s hs.1).symm.trans hv
  exact isBlind_leaf_text host _ hI l text

/-- The descriptor of an `object_of` product is emptied, and somebody tries to change the descriptor that
is recorded in the metadata.  The product stays as it is, accepts and refuses the same mapping as before,
and the same partial product is derived from it. -/
theorem Making.isolated_object :
    let c := Ask.conduct .none 2
    let fields : List (Name × Value) := [(.kept "a", .leaf .string)]
    let own : List (Name × Value) := [(.kept "a", .keptText "b")]
    let I₀ := Session.Keeping Session.Untouched [(0, fields), (1, own)]
    let I := Session.Keeping Session.Untouched [(1, own)]
    let R := fun t t' => I t ∧ I t'
    let s := (Session.start.withDict (keyedFields fields)).withDict (keyedFields own)
    let m := Build.object (.ref 0) (.bool false)
    (Session.Enduring I₀ ∧ Session.Enduring I ∧ (∀ s, I₀ s → I s) ∧
      (∀ s, I s → 2 ≤ s.heap.cells.size) ∧ I₀ s ∧ Making c c I₀ s m) ∧
    ∃ p s₁ title args id place, exec c m s = .ok p s₁ ∧ Value.view id (.ref place) ∈ args ∧
      let s₂ := (tampering (.view id (.ref place)) (.ref 1)).foldl (fun t m => (exec c m t).session)
        (s₁.overwrite 0 (.dict []))
      Session.Mutated .none 1 I [0] args s₁ s₂ ∧ Session.TellsAlike c I s₁ s₂ title args p ∧
      (exec c (call p [.ref 1]) s₁).Alike R (exec c (call p [.ref 1]) s₂) ∧
      ∃ q t q' t', exec c (Derivation.applyAll [.partialOf] p) s₁ = .ok q t ∧
        exec c (Derivation.applyAll [.partialOf] p) s₂ = .ok q' t' ∧
        Session.DerivedAlike .none c I 2 t t' q q' := by
  intro c fields own I₀ I R s m
  have hI₀ : Session.Enduring I₀ := Session.enduring_untouched.keeping _
  have hI : Session.Enduring I := Session.enduring_untouched.keeping _
  have hsub : ∀ s, I₀ s → I s := fun s hs => ⟨hs.1, fun d hd => hs.2 d (List.mem_cons_of_mem _ hd)⟩
  have hown : ∀ s, I s → s.heap.HoldsFields 1 own := fun s hs => hs.2 _ List.mem_cons_self
  have hold : ∀ s, I s → 2 ≤ s.heap.cells.size := fun s hs =>
    (Array.getElem?_eq_some_iff.mp (hown s hs)).1
  have hs : I₀ s := by
    refine ⟨Session.enduring_untouched.withDict (Session.enduring_untouched.withDict .start _) _, ?_⟩
    exact List.forall_mem_cons.mpr ⟨rfl, List.forall_mem_singleton.mpr rfl⟩
  have hfields : SteadyFields c I₀ fields [("'a'", "is_string")] :=
    SteadyFields.of_leaves .none 1 hI₀ (fun _ hs => hs.1) [("a", .string)] (by decide)
  have hread := settles_requireFields_dict hI₀ hfields (by decide)
    (fun _ hs => hs.2 _ List.mem_cons_self) hs Operation.objectOf.name
  have hcall : Call c c I₀ s m := .object false hread (by decide) hfields hfields.names
  have hm : Making c c I₀ s m := .factory hcall
  obtain ⟨p, s₁, title, args, hp, hs₁, hregisters, -, hstays⟩ :=
    Making.isolated .none 1 hI₀ hI hsub hold hs hm
  have hmade : Settles c I₀ s m fun q s' => s'.Makes 2 (.object fields false) _ q :=
    settles_object .none 1 hI₀ (fun s hs => hold s (hsub s hs)) hfields hread
  obtain ⟨_, _, hp', -, -, hmakes⟩ := hmade
  cases hp.symm.trans hp'
  -- The metadata shows a mapping of its own, which holds the fields.
  have htold := hmakes.told_of_registers .none 1 (hI.sound hs₁) hregisters
  cases htold with
  | object id place id' place' hplace _ hshown _ =>
    have hview : Value.view id (.ref place) ∈ [.view id (.ref place), .view id' (.ref place')] :=
      List.mem_cons_self
    have hemptied : I (s₁.overwrite 0 (.dict [])) := hs₁.overwrite (by decide) _
    have hmutated := mutated_tampering .none 1 hI hs₁
      (.step .refl (.overwrite (List.mem_singleton_self 0) _ hemptied)) hview
      (List.mem_singleton.not.mpr (by omega)) hshown hown (by decide)
    obtain ⟨htells, -, hverdict, hderived⟩ := hstays [0] _ (by decide) hmutated
    have hsteady : SteadyFields c I fields [("'a'", "is_string")] :=
      SteadyFields.of_leaves .none 1 hI (fun _ hs => hs.1) [("a", .string)] (by decide)
    have hrecords : (ObjectSketch.ofLeaves [("a", .string)] false).Records c I s₁ 2 p :=
      ⟨fields, _, _, hsteady, hmakes,
        ObjectSketch.fieldsDescribed_leaves .none 1 hI.abiding (fun _ hs => hs.1) _ _ s₁⟩
    refine ⟨⟨hI₀, hI, hsub, hold, hs, hm⟩, p, s₁, title, _, id, place, hp, hview, hmutated, htells,
      ?_, hderived _ .partialOf [] hrecords (.cons .partialOf (.nil _))⟩
    exact hverdict R _ (fun _ _ h => ⟨hI.sound h.1, hI.sound h.2⟩)
      ⟨hs₁, (hmutated.overwritten hI hs₁).1⟩
      (isBlind_product_text .none 0 hI (fun _ hs => hs.1) hown hmakes.product)

/-! ## Arguments of the caller's own

It is different with metadata that a caller makes.  Only the list of the arguments is copied, and
not what is inside of it. -/

/-- A session with a descriptor, its options, and a list of both. -/
def describingSession : Session :=
  { Session.start with heap := { Heap.start with
      cells := #[
        ⟨.kind .dict, .dict (keyedFields [(.kept "a", .leaf .string)])⟩,
        ⟨.kind .dict, .dict (keyedFields (Recipe.strictFields false))⟩,
        ⟨.kind .list, .list [.ref 0, .ref 1]⟩] } }

/-- A caller registers a predicate of his own as an `object_of` product.  The list of the arguments is
copied, but the descriptor in it stays the caller's: after that has changed, the strict form of the
product is another one. -/
theorem custom_descriptor_changes :
    let strictNames : Run (Option String × Option String) := do
      let p ← customProduct (.keptText Operation.objectOf.name) (.ref 2) (.leaf .any) (.keptText "p")
        (.bool false) (.bool false)
      let before ← displayName (← strictObject p)
      overwrite (.ref 0) (.dict (keyedFields [(.kept "b", .leaf .number)]))
      let after ← displayName (← strictObject p)
      return (before.text?, after.text?)
    (exec (Ask.conduct .none 3) strictNames describingSession).result? =
      some (some "object_of(\x7b'a': is_string\x7d, strict=True)",
        some "object_of(\x7b'b': is_number\x7d, strict=True)") := by
  decide +kernel

end Build

end ValueShape
