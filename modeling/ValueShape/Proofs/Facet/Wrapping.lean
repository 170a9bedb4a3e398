import ValueShape.Proofs.Facet.Presents

/-!
# Wrapping and unwrapping

What each modifier does with a callable that presents itself.

* `Session.Wraps s m f w q` says that `w` is a predicate with the facets `f` which the modifier `m`
  has built around `q`, and that the register of `s` tells so.
* `Run.settles_optional` and `Run.settles_readonly` say that a modifier which adds a facet builds
  such a predicate.  `Run.settles_optional_noop`, `Run.settles_readonly_noop` and
  `Run.settles_required_noop` say that it returns what has the facet already.
* `Run.settles_required_optional` and `Run.settles_required_readonly` say what becomes of the two
  kinds of layers when the optional facet is taken off.
-/

set_option autoImplicit false

namespace ValueShape

open Run

/-- What decides for a predicate that a modifier has built around a callable. -/
inductive Modifier.Decides : Modifier → Value → Value → Prop
  | optional (id : Nat) (q : Value) : Decides .optional (.rule id (.optional q)) q
  | readonly (q : Value) : Decides .readonly q q

/-- A predicate was built by a modifier around a callable, and the register tells so. -/
inductive Session.Wraps (s : Session) (m : Modifier) (f : Facets) : Value → Value → Prop
  | mk {id : Nat} {name : Name} {decider q : Value} {id' id'' : Nat} (hid : id ≠ 0)
      (hdecides : m.Decides decider q)
      (hrecords : s.Records (.predicate id name f decider)
        (.metadata (.kind .metadata) id' (.kept m.name) (.tuple (.kind .tuple) id'' [q]))) :
      Wraps s m f (.predicate id name f decider) q

theorem Session.Wraps.leadsTo {s s' : Session} {m : Modifier} {f : Facets} {w q : Value}
    (h : s.Wraps m f w q) (hs : s.LeadsTo s') : s'.Wraps m f w q := by
  obtain ⟨hid, hdecides, hrecords⟩ := h
  exact .mk hid hdecides (hrecords.leadsTo hs)

theorem Session.Wraps.presents {c : Conduct} {I : Session → Prop} (hI : Session.Steadfast I)
    {s : Session} {m : Modifier} {f : Facets} {w q : Value} (h : s.Wraps m f w q) :
    w.Presents c I f := by
  obtain ⟨-, -, -⟩ := h
  exact .predicate hI _ _ _ _

theorem Session.Wraps.identified {s : Session} {m : Modifier} {f : Facets} {w q : Value}
    (h : s.Wraps m f w q) : w.isIdentified = true := by
  obtain ⟨-, -, -⟩ := h
  rfl

/-- Where there is a layer, something is registered. -/
theorem Session.Wraps.register_ne {s : Session} {m : Modifier} {f : Facets} {w q : Value}
    (h : s.Wraps m f w q) : s.register.length ≠ 0 := by
  obtain ⟨-, -, hrecords⟩ := h
  obtain ⟨place, hplace, -⟩ := hrecords.entry
  exact Nat.ne_of_gt (Nat.lt_of_le_of_lt (Nat.zero_le _) (List.getElem?_eq_some_iff.mp hplace).1)

namespace Run

variable (host : Host) (n : Nat) {I : Session → Prop} {s : Session}

/-! ## Building -/

/-- The facets of a new predicate are stored in the value itself. -/
theorem exec_wrap (c : Conduct) (hs : s.heap.Intact) (decider : Value) (name : Name) (o r : Bool) :
    exec c (Build.wrap decider name (.bool o) (.bool r)) s =
      .ok (.predicate s.heap.next name ⟨o, r⟩ decider) (s.withNext (s.heap.next + 1)) := by
  have hs' : (s.withNext (s.heap.next + 1)).heap.Intact := hs.withNext _
  have hstore {name' : String} {sort : Kind} (hfield : (name', sort) ∈ Kind.predicate.fields)
      (value : Value) : exec c (storeField (.predicate s.heap.next name .none decider) name' value)
        (s.withNext (s.heap.next + 1)) = .ok () (s.withNext (s.heap.next + 1)) :=
    exec_storeField c hs' rfl hfield value
  have hcheck : ("_check", Kind.memberField) ∈ Kind.predicate.fields := by decide
  have hname : ("_name", Kind.memberField) ∈ Kind.predicate.fields := by decide
  have hoptional : ("_optional", Kind.memberField) ∈ Kind.predicate.fields := by decide
  have hreadonly : ("_readonly", Kind.memberField) ∈ Kind.predicate.fields := by decide
  simp only [Build.wrap, exec_bind, exec_fresh, Ending.andThen_ok,
    hstore hcheck, hstore hname, hstore hoptional, hstore hreadonly, truth_bool, exec_pure]

/-- A new predicate is registered with new metadata. -/
theorem exec_registered (hs : s.Sound) (factory : Name) (hcls : factory.cls = .kind .text)
    (hfactory : (Value.ofName factory).isIdentified = true) (hne : factory.text ≠ "")
    (hlt : factory.text.length < maxIndex) (idArgs : Nat) {args : List Value}
    (hlength : args.length < maxIndex) (name : Name) (o r : Bool) (decider : Value) :
    ∃ id id' s', exec (Ask.conduct host (n + 1)) (do
        let pred ← Build.wrap decider name (.bool o) (.bool r)
        attach pred (← newMetadata (.kind .metadata) (.ofName factory)
          (.tuple (.kind .tuple) idArgs args))
        return pred) s = .ok (.predicate id name ⟨o, r⟩ decider) s' ∧
      s.Adds s' ∧ id ≠ 0 ∧ s'.Records (.predicate id name ⟨o, r⟩ decider)
        (.metadata (.kind .metadata) id' factory (.tuple (.kind .tuple) idArgs args)) := by
  let i := s.heap.next
  have hnotes : s.Notes (s.withNext (i + 2)) := .withNext (by omega)
  have hnew : ∀ r ∈ (s.withNext (i + 2)).register, r.key.hash.IsBefore i := hs.before
  obtain ⟨s', hattach, hnotes', hrecords, hregister⟩ := exec_attach host n i name ⟨o, r⟩ decider
    (hnotes.sound hs) (Nat.lt_add_of_pos_right (k := 2) (by decide)) hnew (i + 1) hfactory idArgs
    hlength
  have hid : i ≠ 0 := Nat.pos_iff_ne_zero.mp hs.positive
  have hadds : s.Adds s' := by
    refine ⟨hnotes.trans hnotes', fun r hr => ?_⟩
    rw [hregister, List.mem_append, List.mem_singleton] at hr
    exact hr.imp_right fun heq => ⟨i, by rw [heq], Nat.le_refl i⟩
  refine ⟨i, i + 1, s', ?_, hadds, hid, hrecords⟩
  have hmetadata := exec_newMetadata (Ask.conduct host (n + 1)) (s := s.withNext (i + 1))
    (hs.intact.withNext _) hcls hfactory hne hlt idArgs args
  rw [exec_bind, exec_wrap _ hs.intact, Ending.andThen_ok, exec_bind]
  refine (congrArg (Ending.andThen · _) hmetadata).trans ?_
  rw [Ending.andThen_ok, exec_bind]
  refine (congrArg (Ending.andThen · _) hattach).trans ?_
  rw [Ending.andThen_ok, exec_pure]

/-- A product is a new predicate with the given name, and it is registered. -/
theorem exec_productBy (hs : s.Sound) {factory : String} (hne : factory ≠ "")
    (hlt : factory.length < maxIndex) {args : List Value} (hargs : args ≠ [])
    (hlength : args.length < maxIndex) (name : String) (o r : Bool) (decider : Value) :
    ∃ id idName id' id'' s', exec (Ask.conduct host (n + 1))
        (Build.productBy factory args name (.bool o) (.bool r) decider) s =
          .ok (.predicate id ⟨name, .kind .text, idName⟩ ⟨o, r⟩ decider) s' ∧
      s.Adds s' ∧ id ≠ 0 ∧ s'.Records (.predicate id ⟨name, .kind .text, idName⟩ ⟨o, r⟩ decider)
        (.metadata (.kind .metadata) id' (.kept factory) (.tuple (.kind .tuple) id'' args)) := by
  let i := s.heap.next
  have hadds : s.Adds (s.withNext (i + 2)) := .withNext (by omega)
  obtain ⟨id, id', s', hregistered, hadds', hid, hrecords⟩ := exec_registered host n
    (hadds.sound hs) (.kept factory) rfl rfl hne hlt i hlength
    ⟨name, .kind .text, i + 1⟩ o r decider
  refine ⟨id, i + 1, id', i, s', ?_, hadds.trans hadds', hid, hrecords⟩
  have htuple : exec (Ask.conduct host (n + 1)) (Run.tuple args) s =
      .ok (.tuple (.kind .tuple) i args) (s.withNext (i + 1)) := by
    rw [Run.tuple, if_neg (by simpa using hargs)]
    rfl
  have hname : exec (Ask.conduct host (n + 1)) fresh (s.withNext (i + 1)) =
      .ok (i + 1) (s.withNext (i + 2)) := rfl
  rw [Build.productBy, exec_bind, htuple, Ending.andThen_ok, exec_bind, hname, Ending.andThen_ok]
  exact hregistered

/-! ## Asking -/

section Presents

variable {c : Conduct} {q : Value} {f : Facets} (hq : q.Presents c I f) (hs : I s)
include hq hs

theorem exec_requireCallable (factory label : String) :
    exec c (Build.requireCallable factory label q) s = .ok () s :=
  exec_requireCallable_of_isCallable c (hq.callable hs) factory label

theorem settles_truth_optional :
    Settles c I s (do truth (← Build.isOptional q)) fun b _ => b = f.optional :=
  (hq.optional hs).bind fun _ _ _ hs' ha => .of_exec_self hs' (by rw [ha, truth_bool, exec_pure]) rfl

theorem settles_callName (factory : String) :
    Settles c I s (Build.callName factory [q]) fun _ _ => True :=
  (hq.text hs).bind fun _ _ _ hs' _ => .of_exec_self hs' (exec_pure _ _ _) trivial

theorem settles_logDecision (hI : Session.Steadfast I) (m : Modifier) (o : Outcome) :
    Settles c I s (Build.logDecision m o q) fun _ _ => True :=
  (hq.name hs).bind fun _ s' _ hs' _ => .of_exec hI hs' (exec_log _ _ _) (.log s' _) trivial

/-- A modifier returns what has nothing to be modified. -/
theorem settles_noop (hI : Session.Steadfast I) (m : Modifier) :
    Settles c I s (do Build.logDecision m .noop q; return q) fun w _ => w = q :=
  (settles_logDecision hq hs hI m .noop).bind fun _ _ _ hs' _ =>
    .of_exec_self hs' (exec_pure _ _ _) rfl

end Presents

/-! ## Adding a facet -/

section Adding

variable {q : Value} {o r : Bool}

theorem settles_optional_noop (hI : Session.Steadfast I)
    (hq : q.Presents (Ask.conduct host (n + 1)) I ⟨true, r⟩) (hs : I s) :
    Settles (Ask.conduct host (n + 1)) I s (Build.optional q) fun w _ => w = q := by
  rw [Build.optional]
  refine .after (exec_requireCallable hq hs _ _) ((hq.optional hs).bind fun a s' _ hs' ha => ?_)
  subst ha
  rw [truth_bool, pure_bind, if_pos rfl]
  exact settles_noop hq hs' hI .optional

theorem settles_readonly_noop (hI : Session.Steadfast I)
    (hq : q.Presents (Ask.conduct host (n + 1)) I ⟨o, true⟩) (hs : I s) :
    Settles (Ask.conduct host (n + 1)) I s (Build.readonly q) fun w _ => w = q := by
  rw [Build.readonly]
  refine .after (exec_requireCallable hq hs _ _) ((hq.readonly hs).bind fun a s' _ hs' ha => ?_)
  subst ha
  rw [truth_bool, pure_bind, if_pos rfl]
  exact settles_noop hq hs' hI .readonly

/-- What a modifier builds around a callable, once it has put the name together. -/
theorem settles_wrapping (hI : Session.Steadfast I) {f : Facets}
    (hq : q.Presents (Ask.conduct host (n + 1)) I f) (hs : I s) {m : Modifier}
    (hm : m.name.length < maxIndex) (hne : m.name ≠ "") (name : String) {decider : Value}
    (hdecides : m.Decides decider q) :
    Settles (Ask.conduct host (n + 1)) I s (do
      let wrapped ← Build.productBy m.name [q] name (.bool o) (.bool r) decider
      Build.logDecision m .wrap q
      return wrapped) fun w s' => s'.Wraps m ⟨o, r⟩ w q := by
  obtain ⟨id, idName, id', id'', s', hproduct, hadds, hid, hrecords⟩ :=
    exec_productBy host n (hI.sound hs) hne hm (List.cons_ne_nil q [])
      (show 1 < maxIndex by decide) name o r decider
  have hs' := hI.adds hs hadds
  have hwraps : s'.Wraps m ⟨o, r⟩ (.predicate id ⟨name, .kind .text, idName⟩ ⟨o, r⟩ decider) q :=
    .mk hid hdecides hrecords
  obtain ⟨_, s'', hlog, hle, hs'', -⟩ := settles_logDecision hq hs' hI m .wrap
  refine ⟨_, s'', ?_, hadds.leadsTo.trans hle, hs'', hwraps.leadsTo hle⟩
  rw [exec_bind, hproduct, Ending.andThen_ok, exec_bind, hlog, Ending.andThen_ok, exec_pure]

/-- What has not got the optional facet is wrapped. -/
theorem settles_optional (hI : Session.Steadfast I)
    (hq : q.Presents (Ask.conduct host (n + 1)) I ⟨false, r⟩) (hs : I s) :
    Settles (Ask.conduct host (n + 1)) I s (Build.optional q) fun w s' =>
      s'.Wraps .optional ⟨true, r⟩ w q := by
  rw [Build.optional]
  refine .after (exec_requireCallable hq hs _ _) ((hq.optional hs).bind fun a s₁ _ hs₁ ha => ?_)
  subst ha
  rw [truth_bool, pure_bind, if_neg Bool.false_ne_true]
  refine (hq.readonly hs₁).bind fun a s₂ _ hs₂ ha => ?_
  subst ha
  refine (settles_callName hq hs₂ _).bind fun name s₃ _ hs₃ _ => ?_
  refine .bind (P := fun _ _ => True)
    (.of_exec hI hs₃ (exec_fresh _ _) (.withNext (Nat.le_succ _)) trivial) fun id s₄ _ hs₄ _ => ?_
  exact settles_wrapping host n hI hq hs₄ (by decide) (by decide) name (.optional id q)

/-- What has not got the readonly facet is wrapped. -/
theorem settles_readonly (hI : Session.Steadfast I)
    (hq : q.Presents (Ask.conduct host (n + 1)) I ⟨o, false⟩) (hs : I s) :
    Settles (Ask.conduct host (n + 1)) I s (Build.readonly q) fun w s' =>
      s'.Wraps .readonly ⟨o, true⟩ w q := by
  rw [Build.readonly]
  refine .after (exec_requireCallable hq hs _ _) ((hq.readonly hs).bind fun a s₁ _ hs₁ ha => ?_)
  subst ha
  rw [truth_bool, pure_bind, if_neg Bool.false_ne_true]
  refine (hq.optional hs₁).bind fun a s₂ _ hs₂ ha => ?_
  subst ha
  refine (settles_callName hq hs₂ _).bind fun name s₃ _ hs₃ _ => ?_
  exact settles_wrapping host n hI hq hs₃ (by decide) (by decide) name (.readonly q)

end Adding

/-! ## Taking the optional facet off

Layers are opened from the outside in, as the metadata tells.  On the way back, a readonly layer is
built anew around what is left. -/

theorem exec_required (c : Conduct) (v : Value) :
    exec c (Build.required v) s = exec c (Build.requiredUpTo (s.register.length + 1) v) s := by
  rw [Build.required, exec_bind, exec_get, Ending.andThen_ok]

section Removing

variable {q w : Value}

theorem settles_required_noop (hI : Session.Steadfast I) {r : Bool}
    (hq : q.Presents (Ask.conduct host (n + 1)) I ⟨false, r⟩) (hs : I s) (fuel : Nat) :
    Settles (Ask.conduct host (n + 1)) I s (Build.requiredUpTo (fuel + 1) q) fun w _ => w = q := by
  rw [Build.requiredUpTo]
  refine .after (exec_requireCallable hq hs _ _) ((hq.optional hs).bind fun a s' _ hs' ha => ?_)
  subst ha
  rw [truth_bool, pure_bind, Bool.not_false, if_pos rfl]
  exact settles_noop hq hs' hI .required

theorem exec_isNamed (hs : s.heap.Intact) (factory : String) (m : Modifier) (id : Nat)
    (args : Value) :
    exec (Ask.conduct host (n + 1))
      (Build.isNamed (.metadata (.kind .metadata) id (.kept factory) args) m) s =
        .ok (factory == m.name) s := by
  have hfactory : exec (Ask.conduct host (n + 1))
      (factoryOf (.metadata (.kind .metadata) id (.kept factory) args)) s =
        .ok (.keptText factory) s :=
    (exec_readFactory _ hs id _ _).trans (exec_identified_of_isIdentified _ rfl)
  rw [Build.isNamed, exec_bind, hfactory, Ending.andThen_ok]
  exact exec_equal_text host n hs lasting lasting factory m.name

/-- The modifier that has built a layer is told by the metadata. -/
theorem exec_wrapper? (hs : s.heap.Intact) {m : Modifier} (hm : m ≠ .required) (id : Nat)
    (args : Value) :
    exec (Ask.conduct host (n + 1))
      (Build.wrapper? (.metadata (.kind .metadata) id (.kept m.name) args)) s = .ok (some m) s := by
  rw [Build.wrapper?, exec_bind, exec_isNamed host n hs, Ending.andThen_ok]
  cases m with
  | optional => rfl
  | readonly =>
    rw [if_neg (by decide), exec_bind, exec_isNamed host n hs, Ending.andThen_ok]
    rfl
  | required => exact absurd rfl hm

/-- What a layer was built around is told by the metadata. -/
theorem exec_wrappedBy (c : Conduct) (hs : s.heap.Intact) (hq : q.isIdentified = true) (id : Nat)
    (factory : String) (id' : Nat) :
    exec c (Build.wrappedBy
      (.metadata (.kind .metadata) id (.kept factory) (.tuple (.kind .tuple) id' [q]))) s =
        .ok q s := by
  have hitem : exec c (sequenceItem .tuple (.tuple (.kind .tuple) id' [q]) (.int 0)) s = .ok q s :=
    exec_sequenceItem c s .tuple rfl unidentified (i := 0) rfl (by decide)
  rw [Build.wrappedBy, exec_bind, exec_readArguments c hs, exec_identified_of_isIdentified c rfl,
    Ending.andThen_ok]
  simp only [item, exec_bind, exec_heap, Ending.andThen_ok,
    hs.slot? (v := .tuple (.kind .tuple) id' [q]) rfl]
  change exec c (do identified (← sequenceItem .tuple _ _)) s = _
  rw [exec_bind, hitem, Ending.andThen_ok, exec_identified_of_isIdentified c hq]

/-- The decision about a predicate is logged, and nothing is registered. -/
theorem exec_logDecision (c : Conduct) (hs : s.heap.Intact) (m : Modifier) (o : Outcome) (id : Nat)
    (name : Name) (f : Facets) (decider : Value) :
    ∃ s', exec c (Build.logDecision m o (.predicate id name f decider)) s = .ok () s' ∧ s.Adds s' ∧
      s'.register = s.register := by
  obtain ⟨w, i, hi, hw, -⟩ := exec_identified c s (.ofName name)
  refine ⟨_, ?_, (Session.Adds.withNext hi).trans (.log _ (.modified m o w)), rfl⟩
  rw [Build.logDecision, exec_bind, exec_displayName c hs, hw, Ending.andThen_ok, exec_log]

/-- A layer with the optional facet is opened, and what is inside decides how it goes on.  Until then
nothing is registered. -/
theorem exec_requiredUpTo_layer (hI : Session.Steadfast I) (hs : I s) {m : Modifier}
    (hm : m ≠ .required) {r : Bool} (hw : s.Wraps m ⟨true, r⟩ w q) (hq : q.isIdentified = true)
    (fuel : Nat) :
    ∃ s', s.LeadsTo s' ∧ I s' ∧ s'.register = s.register ∧
      exec (Ask.conduct host (n + 1)) (Build.requiredUpTo (fuel + 1) w) s =
        exec (Ask.conduct host (n + 1))
          (if m == .optional then return q else do Build.readonly (← Build.requiredUpTo fuel q)) s' := by
  have hpresents := hw.presents (c := Ask.conduct host (n + 1)) hI
  obtain ⟨hid, -, hrecords⟩ := hw
  have hi := hI.sound hs
  obtain ⟨s', hlog, hadds, hregister⟩ :=
    exec_logDecision (Ask.conduct host (n + 1)) hi.intact .required .unwrap _ _ _ _
  have hs' := hI.adds hs hadds
  refine ⟨s', hadds.leadsTo, hs', hregister, ?_⟩
  rw [Build.requiredUpTo, exec_bind, exec_requireCallable hpresents hs, Ending.andThen_ok, exec_bind,
    exec_isOptional _ hi.intact, Ending.andThen_ok, truth_bool, pure_bind, Bool.not_true,
    if_neg Bool.false_ne_true, exec_bind, exec_metadata?_some host n _ _ _ _ hi hid hrecords,
    Ending.andThen_ok]
  dsimp only
  rw [exec_bind, exec_wrapper? host n hi.intact hm, Ending.andThen_ok]
  dsimp only
  rw [exec_bind, hlog, Ending.andThen_ok, exec_bind, exec_wrappedBy _ (hI.sound hs').intact hq,
    Ending.andThen_ok]

theorem settles_requiredUpTo (hI : Session.Steadfast I) (hs : I s) {m : Modifier}
    (hm : m ≠ .required) {r : Bool} (hw : s.Wraps m ⟨true, r⟩ w q) (hq : q.isIdentified = true)
    (fuel : Nat) {P : Value → Session → Prop}
    (hinner : ∀ s', s.LeadsTo s' → I s' → Settles (Ask.conduct host (n + 1)) I s'
      (if m == .optional then return q else do Build.readonly (← Build.requiredUpTo fuel q)) P) :
    Settles (Ask.conduct host (n + 1)) I s (Build.requiredUpTo (fuel + 1) w) P := by
  obtain ⟨s', hle, hs', -, hexec⟩ := exec_requiredUpTo_layer host n hI hs hm hw hq fuel
  obtain ⟨v, s'', hv, hle', hrest⟩ := hinner s' hle hs'
  exact ⟨v, s'', hexec.trans hv, hle.trans hle', hrest⟩

/-- An optional layer gives what it was built around. -/
theorem settles_required_optional (hI : Session.Steadfast I) (hs : I s) {r : Bool}
    (hw : s.Wraps .optional ⟨true, r⟩ w q) (hq : q.isIdentified = true) (fuel : Nat) :
    Settles (Ask.conduct host (n + 1)) I s (Build.requiredUpTo (fuel + 1) w) fun v _ => v = q :=
  settles_requiredUpTo host n hI hs (by decide) hw hq fuel fun _ _ hs' =>
    .of_exec_self hs' (exec_pure _ _ _) rfl

/-- A readonly layer gives what the modifier for it builds around the rest. -/
theorem settles_required_readonly (hI : Session.Steadfast I) (hs : I s) {r : Bool}
    (hw : s.Wraps .readonly ⟨true, r⟩ w q) (hq : q.isIdentified = true) (fuel : Nat)
    {P : Value → Session → Prop}
    (hinner : ∀ s', s.LeadsTo s' → I s' → Settles (Ask.conduct host (n + 1)) I s'
      (do Build.readonly (← Build.requiredUpTo fuel q)) P) :
    Settles (Ask.conduct host (n + 1)) I s (Build.requiredUpTo (fuel + 1) w) P :=
  settles_requiredUpTo host n hI hs (by decide) hw hq fuel hinner

/-- A readonly layer is refused if the rest is. -/
theorem refused_required_readonly (hI : Session.Steadfast I) (hs : I s) {r : Bool}
    (hw : s.Wraps .readonly ⟨true, r⟩ w q) (hq : q.isIdentified = true) (fuel : Nat)
    {factory : String} (hinner : ∀ s', s.LeadsTo s' → I s' →
      Refused (Ask.conduct host (n + 1)) s' factory (Build.requiredUpTo fuel q)) :
    Refused (Ask.conduct host (n + 1)) s factory (Build.requiredUpTo (fuel + 1) w) := by
  obtain ⟨s', hle, hs', -, hexec⟩ := exec_requiredUpTo_layer host n hI hs (by decide) hw hq fuel
  obtain ⟨detail, s'', hdetail⟩ := (hinner s' hle hs').bind Build.readonly
  exact ⟨detail, s'', hexec.trans hdetail⟩

end Removing

end Run

end ValueShape
