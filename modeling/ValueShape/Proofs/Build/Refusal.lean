import ValueShape.Proofs.Build.Partial

/-!
# What a refusal leaves behind

What has become of the register and the log after `make_required` or `required_of` has refused its
argument.

* `Sketch.Describes.error_of_required` says that `make_required` fails by refusing a callable whose optional
  facet no modifier has added, and registers nothing.
* `ObjectSketch.error_of_requiredObject` says that `required_of` fails at such a field, and that it leaves
  what becomes of the session when `make_required` is called with the fields before it, one after the other.
* `Value.Discreet.refused_requiredObject` and `Value.refused_required` are the refusals of values that were
  not made by `object_of`, and of values that cannot be called.
* `Build.required_refusals` is the main result.
* What has been done for other fields stays, and a readonly layer is told to be unwrapped before it is known
  whether what is inside can be: `Build.required_refusal_leaves`.
-/

set_option autoImplicit false

namespace ValueShape

open Run

variable {I : Session → Prop} {s s' : Session}

/-! ## One callable -/

/-- What cannot be called is refused. -/
theorem Value.refused_required {c : Conduct} {v : Value} (hv : s.heap.isCallable v = false)
    (hclass : Quietly c I s (shownClass v) fun _ => True) :
    RefusedQuietly c s Modifier.required.name (Build.required v) := by
  have hrequire : RefusedQuietly c s Modifier.required.name
      (Build.requireCallable Modifier.required.name "pred" v) := by
    have hrefused := hclass.refused (k := fun text => (throw (.refusal Modifier.required.name
      ("pred" ++ " must be a predicate, got " ++ text)) : Run Unit))
        fun _ _ _ _ => refusedQuietly_throw _ _
    rw [RefusedQuietly, Build.requireCallable, exec_bind, exec_heap, Ending.andThen_ok, hv]
    exact hrefused
  rw [RefusedQuietly, exec_required, Build.requiredUpTo]
  exact hrequire.bind _

namespace Sketch

variable (host : Host) (n : Nat) (hI : Session.Abiding I) {k : Sketch} {v w : Value}
include hI

/-- The refusal of a callable whose optional facet no modifier has added, under a readonly layer or not. -/
theorem Describes.refusal_of_required (hv : k.Describes (Ask.conduct host (n + 1)) I s v)
    (hk : k.handBuilt? = some w) (hw : w.OptionalByHand (Ask.conduct host (n + 1)) I)
    (hle : s.LeadsTo s') (hs' : I s') :
    ∃ detail t, exec (Ask.conduct host (n + 1)) (Build.required v) s' =
        .error (.refusal Modifier.required.name detail) t ∧
      t.register = s'.register ∧ ((∀ k', k ≠ .readonly k') → t.events = s'.events) := by
  rw [exec_required]
  cases hv with
  | @given v f text hv =>
    rcases f with ⟨_ | _, r⟩
    · cases hk
    · cases hk
      obtain ⟨detail, t, hrefused, hquiet⟩ := hw.refused hs' s'.register.length
      exact ⟨detail, t, hrefused, hquiet.register, fun _ => hquiet.events⟩
  | optional => cases hk
  | @readonly k v _ hv hnot hmade =>
    cases hv with
    | optional => cases hk
    | readonly => cases hnot
    | @given v f text hv =>
      rcases f with ⟨_ | _, r⟩
      · cases hk
      · cases hk
        have hwraps := (Describes.wraps_readonly hmade).leadsTo hle
        obtain ⟨fuel, hfuel⟩ := Nat.exists_eq_succ_of_ne_zero hwraps.register_ne
        obtain ⟨s₁, -, hs₁, hregister, hlayer⟩ := exec_requiredUpTo_layer host n hI.toSteadfast hs'
          (by decide) hwraps hv.presents_self.identified s'.register.length
        rw [hfuel] at hlayer
        obtain ⟨detail, t, hrefused, hquiet⟩ := (hw.refused hs₁ fuel).bind Build.readonly
        rw [hfuel]
        exact ⟨detail, t, hlayer.trans hrefused, hquiet.register.trans hregister,
          fun hlayer => absurd rfl (hlayer _)⟩

/-- A failure to take the optional facet off is such a refusal. -/
theorem Describes.error_of_required (hv : k.Describes (Ask.conduct host (n + 1)) I s v) (hs : I s)
    (hhand : ∀ w ∈ k.handBuilt?, w.OptionalByHand (Ask.conduct host (n + 1)) I) {e : Failure}
    (he : exec (Ask.conduct host (n + 1)) (Build.required v) s = .error e s') :
    (∃ detail, e = .refusal Modifier.required.name detail) ∧ s'.register = s.register ∧
      ((∀ k', k ≠ .readonly k') → s'.events = s.events) := by
  rcases hk : k.handBuilt? with - | w
  · obtain ⟨k', hk'⟩ := exists_makeRequired? hk
    have hs₀ : Session.Keeping I [] s := by rwa [Session.keeping_nil]
    obtain ⟨_, _, hok, -⟩ := (settlesFrom_required host n hI hv hk').settles [] (.refl s) hs₀
    cases hok.symm.trans he
  · obtain ⟨detail, t, hrefused, hregister, hevents⟩ :=
      hv.refusal_of_required host n hI hk (hhand w hk) (.refl s) hs
    cases hrefused.symm.trans he
    exact ⟨⟨detail, rfl⟩, hregister, hevents⟩

end Sketch

/-! ## All fields of a product

A refusal in the middle takes nothing back: what was built for the fields before it stays
registered.  How much this is can be read off the sketches. -/

/-- Metadata does not name `object_of`, and this can be asked quietly. -/
def Value.NamesOther (c : Conduct) (I : Session → Prop) (m : Value) : Prop :=
  ∀ s, I s → Quietly c I s (do differ (← factoryOf m) (.keptText Operation.objectOf.name)) (· = true)

/-- What was not made by `object_of` is refused. -/
theorem Value.Discreet.refused_requiredObject {c : Conduct} {v : Value}
    (hv : v.Discreet c I (Value.NamesOther c I)) (hs : I s) :
    RefusedQuietly c s Operation.requiredOf.name (Build.requiredObject v) := by
  have hrefuse {s : Session} (hs : I s) : RefusedQuietly c s Operation.requiredOf.name
      (do throw (.refusal Operation.requiredOf.name ((← shown (← displayName v)) ++
        " was not produced by " ++ Operation.objectOf.name)) : Run Value) := by
    have h := (hv.named hs).refused (k := fun text => (throw (.refusal Operation.requiredOf.name
      (text ++ " was not produced by " ++ Operation.objectOf.name)) : Run Value))
        fun _ _ _ _ => refusedQuietly_throw _ _
    rwa [bind_assoc] at h
  have hmetadata : RefusedQuietly c s Operation.requiredOf.name
      (Build.objectMetadata Operation.requiredOf.name v) := by
    rw [Build.objectMetadata]
    refine (hv.metadata hs).refused fun m? s₁ hs₁ hm? => ?_
    cases m? with
    | none => exact hrefuse hs₁
    | some m =>
      have hother := (hm? m rfl s₁ hs₁).refused (k := fun b => if b then (do
        throw (.refusal Operation.requiredOf.name ((← shown (← displayName v)) ++
          " was not produced by " ++ Operation.objectOf.name))) else (return m : Run Value))
        fun b s₂ hs₂ hb => by
          subst hb
          exact hrefuse hs₂
      rwa [bind_assoc] at hother
  rw [Build.requiredObject, Build.modifiedObject, Build.objectParts, bind_assoc]
  exact hmetadata.bind _

namespace ObjectSketch

/-- A failure to require the fields of a product comes from one that cannot be required, after those before
it have been. -/
theorem error_of_requiredObject (host : Host) (n : Nat) (hI : Session.Abiding I) {o : ObjectSketch}
    {fields : List (Name × Value)} {texts : List (String × String)} {title : String} {old : Nat}
    {p : Value} (hfields : SteadyFields (Ask.conduct host (n + 1)) I fields texts)
    (hp : s.Makes old (.object fields o.strict) title p)
    (hdescribed : FieldsDescribed (Ask.conduct host (n + 1)) I s o.fields (distinctFields fields))
    (hhand : ∀ k ∈ o.fields, ∀ v ∈ k.value.handBuilt?,
      v.OptionalByHand (Ask.conduct host (n + 1)) I) (hs : I s) {e : Failure}
    (he : exec (Ask.conduct host (n + 1)) (Build.requiredObject p) s = .error e s') :
    ∃ done field rest t, distinctFields fields = done ++ field :: rest ∧
      InTurn (Ask.conduct host (n + 1)) Build.required s (done.map (·.2)) t ∧
      exec (Ask.conduct host (n + 1)) (Build.required field.2) t = .error e s' ∧
      (∃ detail, e = .refusal Modifier.required.name detail) ∧ s'.register = t.register ∧
      ∃ k ∈ o.fields, k.value.Describes (Ask.conduct host (n + 1)) I s field.2 ∧
        ((∀ k', k.value ≠ .readonly k') → s'.events = t.events) := by
  have hsome : ¬∀ k ∈ o.fields, k.value.handBuilt? = none := fun hnone => by
    have hold : ∀ s, I s → 0 ≤ s.heap.cells.size := fun _ _ => Nat.zero_le _
    obtain ⟨_, _, hok, -⟩ := Derivation.step host n hI hold hs ⟨fields, texts, title, hfields, hp, hdescribed⟩
      (Derivation.applies_requiredOf hnone)
    cases hok.symm.trans he
  obtain ⟨done, field, rest, t, hsplit, hturn, hle, ht, ⟨k, hk, hstuck, hvalue⟩, herror⟩ :=
    exec_requiredObject_interrupted host n hI hs hfields hp hdescribed hsome
  obtain ⟨v, hv⟩ := Option.isSome_iff_exists.mp hstuck
  obtain ⟨detail, t', hrefused, hregister, hevents⟩ :=
    hvalue.refusal_of_required host n hI hv (hhand k hk v hv) hle ht
  cases (herror _ t' hrefused).symm.trans he
  exact ⟨done, field, rest, t, hsplit, hturn, hrefused, ⟨detail, rfl⟩, hregister, k, hk, hvalue, hevents⟩

end ObjectSketch

/-- How much a computation that ends with the refusal of an argument has added to the register and to the
log. -/
def Run.addedByRefusal (m : Run Value) : Run (Option (Nat × Nat)) := do
  let before ← get
  match ← recovering (· matches .construction ..) m with
  | some _ => return none
  | none =>
    let after ← get
    return some (after.register.length - before.register.length,
      after.events.length - before.events.length)

namespace Build

/-- **What refusals leave behind.**  Where the asking of values runs no code of the caller,

* `make_required` only fails by refusing a callable whose optional facet no modifier has added.  Nothing is
  registered then, and nothing is written to the log either, unless the callable is a readonly layer,
* what cannot be called is refused by `make_required` without a trace,
* if `required_of` fails for a product of `object_of`, then `make_required` refuses one of the fields.  It
  has been called with the fields before that one, one after the other, and the refusal adds nothing to
  what this has registered.  It adds nothing to the log either, unless the field is a readonly layer,
* what was not made by `object_of` is refused by `required_of` without a trace. -/
theorem required_refusals (host : Host) (n : Nat) {I : Session → Prop} (hI : Session.Abiding I)
    {s : Session} (hs : I s) :
    let c := Ask.conduct host (n + 1)
    (∀ (k : Sketch) v, k.Describes c I s v → (∀ w ∈ k.handBuilt?, w.OptionalByHand c I) →
      ∀ e s', exec c (required v) s = .error e s' →
        (∃ detail, e = .refusal Modifier.required.name detail) ∧ s'.register = s.register ∧
          ((∀ k', k ≠ .readonly k') → s'.events = s.events)) ∧
    (∀ v : Value, s.heap.isCallable v = false → Quietly c I s (shownClass v) (fun _ => True) →
      RefusedQuietly c s Modifier.required.name (required v)) ∧
    (∀ (o : ObjectSketch) fields texts title old p, SteadyFields c I fields texts →
      s.Makes old (.object fields o.strict) title p →
      FieldsDescribed c I s o.fields (distinctFields fields) →
      (∀ k ∈ o.fields, ∀ w ∈ k.value.handBuilt?, w.OptionalByHand c I) →
      ∀ e s', exec c (requiredObject p) s = .error e s' →
        ∃ done field rest t, distinctFields fields = done ++ field :: rest ∧
          InTurn c required s (done.map (·.2)) t ∧ exec c (required field.2) t = .error e s' ∧
          (∃ detail, e = .refusal Modifier.required.name detail) ∧ s'.register = t.register ∧
          ∃ k ∈ o.fields, k.value.Describes c I s field.2 ∧
            ((∀ k', k.value ≠ .readonly k') → s'.events = t.events)) ∧
    ∀ v : Value, v.Discreet c I (Value.NamesOther c I) →
      RefusedQuietly c s Operation.requiredOf.name (requiredObject v) := by
  intro c
  refine ⟨fun k v hv hhand e s' he => hv.error_of_required host n hI hs hhand he,
    fun v hv hclass => Value.refused_required hv hclass,
    fun o fields texts title old p hfields hp hdescribed hhand e s' he =>
      ObjectSketch.error_of_requiredObject host n hI hfields hp hdescribed hhand hs he,
    fun v hv => hv.refused_requiredObject hs⟩

/-- A product of a leaf and of a predicate that its caller has made optional himself, the predicate alone, and
a text, which cannot be called. -/
theorem required_refusals_custom :
    let c := Ask.conduct .none 3
    let custom := Value.predicate 5 ⟨"custom", .kind .text, 6⟩ ⟨true, false⟩ (.leaf .string)
    let fields : List (Name × Value) := [(.kept "a", .leaf .string), (.kept "b", custom)]
    let s := (Session.start.withDict (keyedFields fields)).withNext 7
    ∃ p s₁ e s₂ t e' s₃ done, exec c (object (.ref 0) (.bool false)) s = .ok p s₁ ∧
      exec c (required custom) s₁ = .error e s₂ ∧ s₂.register = s₁.register ∧ s₂.events = s₁.events ∧
      exec c (requiredObject p) s₁ = .error e' s₃ ∧ InTurn c required s₁ (done.map (·.2)) t ∧
      done <+: fields ∧ s₃.register = t.register ∧
      RefusedQuietly c s₁ Modifier.required.name (required (.keptText "custom")) ∧
      RefusedQuietly c s₁ Operation.requiredOf.name (requiredObject custom) := by
  intro c custom fields s
  let I := fun s : Session => Session.Keeping Session.Untouched [(0, fields)] s ∧
    5 < s.heap.next ∧ ∀ r ∈ s.register, r.key.hash.same (.token (.id 5)) = false
  have hI : Session.Abiding I := (Session.enduring_untouched.keeping _).abiding.unregistered 5
  have hs : I s := by
    refine ⟨⟨⟨rfl, rfl, rfl, by decide, nofun⟩, ?_⟩, by decide, nofun⟩
    exact List.forall_mem_singleton.mpr rfl
  let o : ObjectSketch := ⟨[⟨.kept "a", "'a'", .given (.leaf .string) .none "is_string"⟩,
    ⟨.kept "b", "'b'", .given custom ⟨true, false⟩ "custom"⟩], false⟩
  have hnames : Name.ServeAsKeys c I (fields.map (·.1)) :=
    Name.serveAsKeys_of_text .none 2 (fun _ hs => (hI.sound hs).intact) (by decide) (by decide)
  have hcustom : custom.Steady c I ⟨true, false⟩ "custom" :=
    steady_predicate hI (by decide) "custom" 6 ⟨true, false⟩ (.leaf .string)
  have hdescribed (s : Session) : FieldsDescribed c I s o.fields fields :=
    .cons ⟨rfl, shown_text hI .none 2 lasting "a", .given (steady_leaf hI (fun _ hs => hs.1.1) .string)⟩
      (.cons ⟨rfl, shown_text hI .none 2 lasting "b", .given hcustom⟩ .nil)
  have hnodup : (fieldTexts fields).Nodup := by decide
  have hfields : SteadyFields c I fields o.texts := (hdescribed s).steadyFields hI hnames hnodup
  have hoptional : custom.OptionalByHand c I :=
    .of_unregistered .none 2 hI.toSteadfast (fun _ hs => hs.2.2) "custom" 6 false (.leaf .string)
  have hhand : ∀ k ∈ o.fields, ∀ v ∈ k.value.handBuilt?, v.OptionalByHand c I := by
    refine List.forall_mem_cons.mpr ⟨nofun, List.forall_mem_singleton.mpr fun v hv => ?_⟩
    obtain rfl : custom = v := Option.some.inj hv
    exact hoptional
  obtain ⟨p, s₁, hp, -, hs₁, hmade⟩ := settles_object .none 2 hI (fun _ _ => Nat.zero_le _) hfields
    (settles_requireFields_dict hI hfields hnodup (fun _ hs => hs.1.2 _ List.mem_cons_self) hs _)
  have hi := (hI.sound hs₁).intact
  have hdistinct : distinctFields fields = fields := distinctFields_of_nodup hnodup
  obtain ⟨hcallable, hother, hproduct, hforeign⟩ := required_refusals .none 2 hI hs₁
  have hsome : ¬∀ k ∈ o.fields, k.value.handBuilt? = none := fun hnone =>
    nomatch hnone _ (List.mem_cons_of_mem _ List.mem_cons_self)
  have hrecords : o.Records c I s₁ 0 p :=
    ⟨fields, o.texts, _, hfields, hmade, by rw [hdistinct]; exact hdescribed s₁⟩
  obtain ⟨_, s₂, hrefused⟩ := (Sketch.Describes.given hcustom).refused .none 2 hI rfl
    (.of_discreet hoptional.toDiscreet) (.refl s₁) hs₁
  obtain ⟨_, s₃, hrefused'⟩ := hrecords.refused_required .none 2 hI hs₁
    (fun k hk v hv => .of_discreet (hhand k hk v hv).toDiscreet) hsome
  obtain ⟨-, hregister, hevents⟩ := hcallable _ custom (.given hcustom)
    (fun w hw => by obtain rfl : custom = w := Option.some.inj hw; exact hoptional) _ s₂ hrefused
  obtain ⟨done, field, rest, t, hsplit, hturn, -, -, hregister', -⟩ := hproduct o fields o.texts _ 0 p hfields
    hmade (by rw [hdistinct]; exact hdescribed s₁) hhand _ s₃ hrefused'
  refine ⟨p, s₁, _, s₂, t, _, s₃, done, hp, hrefused, hregister, hevents (fun _ => nofun), hrefused', hturn,
    ⟨field :: rest, by rw [← hsplit, hdistinct]⟩, hregister', hother _ ?_ ?_, hforeign custom ?_⟩
  · rw [Heap.isCallable, hi.slot? (v := .keptText "custom") rfl]
    rfl
  · have hname : s₁.heap.typeNameValue (.keptText "custom") = .text Kind.text.name := by
      rw [Heap.typeNameValue, hi.classOf (v := .keptText "custom") rfl, Heap.classNameValue,
        hi.members .text rfl Heap.nameField (by decide)]
      rfl
    exact .of_exec_self hs₁ (by rw [shownClass, exec_bind, exec_heap, Ending.andThen_ok, hname]; rfl) trivial
  · exact .of_unregistered .none 2 hI.toSteadfast (fun _ hs => hs.2.2) "custom" 6 ⟨true, false⟩
      (.leaf .string) _

/-- The fields of a product are required one after the other, and a refusal does not take back what has been
done for those before: a predicate was registered, and this and three decisions were written to the log.
And the readonly layer around a predicate is told to be unwrapped although it is not. -/
theorem required_refusal_leaves :
    let custom := Value.predicate 5 ⟨"h", .kind .text, 6⟩ ⟨true, false⟩ (.leaf .any)
    (exec (Ask.conduct .none 6) (do
        let a ← readonly (← optional (.leaf .string))
        let d ← alloc (.kind .dict) (.dict (keyedFields [(.kept "a", a), (.kept "h", custom)]))
        let p ← object d (.bool false)
        addedByRefusal (requiredObject p)) (Session.start.withNext 7)).result? = some (some (1, 4)) ∧
    (exec (Ask.conduct .none 6) (do
        let r ← readonly custom
        addedByRefusal (required r)) (Session.start.withNext 7)).result? = some (some (0, 1)) := by
  decide +kernel

end Build

end ValueShape
