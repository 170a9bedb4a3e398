import ValueShape.Proofs.Build.Split

/-!
# Derivations that commute

The derived combinators may be applied to an `object_of` product in one order or in another one.  What is
built on the way differs, and so do the callables that the fields have in the end.

* `Session.Corresponds c I s s' q q'` says that two predicates are products which cannot be told apart but
  by the identities of their callables.  Products of one sketch correspond
  (`ObjectSketch.Describes.corresponds`).
* `ObjectSketch.modified` and `ObjectSketch.chosen` are what becomes of sketches, and commute
  (`ObjectSketch.chosen_modified`).
* `Value.Requires c I s v k?` says that it is always the same that `make_required` does about a callable.
  This is so for all callables whose layers are known (`Sketch.Describes.requires`).
* `Build.object_derivations_commute` is the main result.
* Names are put together when a product is made, so a function that is given another name in between makes
  a difference: `Build.derivations_differ`.
-/

set_option autoImplicit false

namespace ValueShape

open Run

/-! ## Products that correspond

The two orders of application register different predicates on the way, so their results are
different values.  They correspond if nobody who asks them can tell which is which. -/

/-- Two predicates are products of fields with the same names in the same order.  The callables in them
have the same facets and are shown by the same texts.  Both products are strict, or both are loose.  They
have the same name and give the same verdicts. -/
def Session.Corresponds (c : Conduct) (I : Session → Prop) (s s' : Session) (q q' : Value) : Prop :=
  (∃ fields fields' strict title, s.Makes 0 (.object fields strict) title q ∧
    s'.Makes 0 (.object fields' strict) title q' ∧
    List.Forall₂ (fun field field' => field.1 = field'.1 ∧
      ∃ f text, field.2.Steady c I f text ∧ field'.2.Steady c I f text) fields fields') ∧
  q.SameVerdicts c q'

/-- A later session in which a predicate is still registered with the same fields. -/
structure Session.Keeps (I : Session → Prop) (p : Value) (s s' : Session) : Prop where
  /-- The session comes later. -/
  leadsTo : s.LeadsTo s'
  /-- The invariant holds. -/
  invariant : I s'
  /-- The predicate is still the product that it was. -/
  makes {fields : List (Name × Value)} {strict : Bool} {title : String}
    (hp : s.Makes 0 (.object fields strict) title p) : s'.Makes 0 (.object fields strict) title p

theorem Session.Keeps.refl {I : Session → Prop} {s : Session} (hs : I s) (p : Value) : s.Keeps I p s :=
  ⟨.refl s, hs, id⟩

namespace ObjectSketch

variable {c : Conduct} {I : Session → Prop} {s s' : Session} {o : ObjectSketch} {p q : Value}

/-- **Products of one sketch correspond.** -/
theorem Describes.corresponds (host : Host) (n : Nat) (hI : Session.Abiding I)
    (hp : o.Describes (Ask.conduct host (n + 1)) I s 0 p)
    (hq : o.Describes (Ask.conduct host (n + 1)) I s' 0 q) :
    Session.Corresponds (Ask.conduct host (n + 1)) I s s' p q := by
  refine ⟨?_, hp.sameVerdicts host n hq fun _ => rfl⟩
  obtain ⟨fields, -, -, hmade, hfields⟩ := hp
  obtain ⟨fields', -, -, hmade', hfields'⟩ := hq
  refine ⟨fields, fields', o.strict, _, hmade, hmade', ?_⟩
  clear hmade hmade'
  generalize o.fields = ks at hfields hfields'
  induction hfields generalizing fields' with
  | nil => cases hfields'; exact .nil
  | cons hk _ ih =>
    cases hfields' with
    | cons hk' hrest' =>
      refine .cons ⟨hk.name.symm.trans hk'.name, _, _, hk.value.steady hI, hk'.value.steady hI⟩ ?_
      exact ih _ hrest'

theorem Records.keeps (hp : o.Records c I s 0 p) (hs : s.Keeps I p s') : o.Records c I s' 0 p := by
  obtain ⟨fields, texts, title, hsteady, hmade, hfields⟩ := hp
  exact ⟨fields, texts, title, hsteady, hs.makes hmade, hfields.leadsTo hs.leadsTo⟩

/-! ### What becomes of sketches -/

/-- Every callable is modified, and the product may become strict. -/
def modified (g : Sketch → Sketch) (strict : Bool) (o : ObjectSketch) : ObjectSketch where
  fields := o.fields.map fun k => { k with value := g k.value }
  strict := o.strict || strict

/-- The fields of certain names are kept, or the others. -/
def chosen (K : Finset String) (keep : Bool) (o : ObjectSketch) : ObjectSketch :=
  { o with fields := o.fields.filter fun k => decide (k.name.text ∈ K) == keep }

variable (g : Sketch → Sketch) (strict : Bool) (K : Finset String) (keep : Bool) (o : ObjectSketch)

theorem names_modified : (o.modified g strict).fields.map (·.name) = o.fields.map (·.name) := by
  rw [modified, List.map_map]
  rfl

theorem fields_modified_id : (o.modified id strict).fields = o.fields := List.map_id _

/-- It does not matter whether fields are chosen before the callables are modified, or after that. -/
theorem chosen_modified :
    (o.modified g strict).chosen K keep = (o.chosen K keep).modified g strict :=
  congrArg (ObjectSketch.mk · (o.strict || strict)) List.filter_map

theorem modified_strict : (o.modified g strict).modified id true =
    (o.modified id true).modified g strict := by
  simp only [modified, List.map_map, Bool.or_true, Bool.true_or]
  rfl

end ObjectSketch

/-! ## What derived combinators do

A combinator is taken for what it does to sketches.  Then it does not matter any more in which
session it is called, and that two of them commute is a fact about sketches. -/

/-- What becomes of the optional facet of a callable is always the same: `make_required` makes a callable as
sketched, or refuses it. -/
inductive Value.Requires (c : Conduct) (I : Session → Prop) (s : Session) (v : Value) :
    Option Sketch → Prop
  | settles {k : Sketch} (h : SettlesFrom c I s (Build.required v) fun w s' => k.Describes c I s' w) :
      Requires c I s v (some k)
  | refused (h : ∀ ds s', s.LeadsTo s' → Session.Keeping I ds s' →
      Refused c s' Modifier.required.name (Build.required v)) : Requires c I s v none

/-- The optional facet of a callable is taken off if its layers are known, or else it is refused if no
modifier is known to have built it. -/
theorem Sketch.Describes.requires (host : Host) (n : Nat) {I : Session → Prop} {s : Session}
    (hI : Session.Abiding I) {k : Sketch} {v : Value} (hv : k.Describes (Ask.conduct host (n + 1)) I s v)
    (hhand : ∀ w ∈ k.handBuilt?, w.HandBuilt (Ask.conduct host (n + 1)) I) :
    v.Requires (Ask.conduct host (n + 1)) I s k.makeRequired? := by
  rcases hk : k.handBuilt? with - | w
  · obtain ⟨k', hk'⟩ := exists_makeRequired? hk
    rw [hk']
    exact .settles (settlesFrom_required host n hI hv hk')
  · have hnone : k.makeRequired? = none := by
      rw [← Option.isNone_iff_eq_none, ← Option.not_isSome, isSome_makeRequired?, hk]
      rfl
    rw [hnone]
    exact .refused fun _ _ hle hs' => hv.refused host n hI hk (hhand w hk) hle hs'.1

/-- A callable that is known itself is replaced. -/
def Sketch.replaced (sketched : Value → Sketch) : Sketch → Sketch
  | given v _ _ => sketched v
  | k => k

/-- Steady fields are described by the callables themselves. -/
theorem SteadyFields.exists_given {c : Conduct} {I : Session → Prop} {fields : List (Name × Value)}
    {texts : List (String × String)} (h : SteadyFields c I fields texts)
    (hnodup : (fieldTexts fields).Nodup) :
    ∃ ks : List FieldSketch, (∀ s, FieldsDescribed c I s ks fields) ∧
      ∀ k ∈ ks, ∃ field ∈ fields, ∃ f text, k.value = .given field.2 f text := by
  have hshown := h.shown
  rw [distinctFields_of_nodup hnodup] at hshown
  have hvalues := h.values
  clear h hnodup
  induction hshown with
  | nil => exact ⟨[], fun _ => .nil, fun _ hk => absurd hk List.not_mem_nil⟩
  | @cons field text fields texts hfield _ ih =>
    obtain ⟨⟨valueText, f, hvalue⟩, hvalues⟩ := List.forall_mem_cons.mp hvalues
    obtain ⟨ks, hks, hgiven⟩ := ih hvalues
    refine ⟨⟨field.1, text.1, .given field.2 f valueText⟩ :: ks,
      fun s => .cons ⟨rfl, hfield.1, .given hvalue⟩ (hks s), List.forall_mem_cons.mpr ⟨?_, ?_⟩⟩
    · exact ⟨field, List.mem_cons_self, f, valueText, rfl⟩
    · intro k hk
      obtain ⟨field', hfield', hk⟩ := hgiven k hk
      exact ⟨field', List.mem_cons_of_mem _ hfield', hk⟩

namespace Run

/-- A derived combinator makes of the products of certain fields what becomes of their sketches. -/
def Derives (c : Conduct) (I : Session → Prop) (s : Session) (ks : List FieldSketch)
    (D : Value → Run Value) (g : Sketch → Sketch) (strict : Bool) : Prop :=
  ∀ (s' : Session) (o : ObjectSketch) (p : Value), s.LeadsTo s' → I s' → (∀ k ∈ o.fields, k ∈ ks) →
    o.Records c I s' 0 p →
    Settles c I s' (D p) fun q s'' => (o.modified g strict).Describes c I s'' 0 q

section Derives

variable (host : Host) (n : Nat) {I : Session → Prop} (hI : Session.Abiding I) (s : Session)
  (ks : List FieldSketch)
include hI

theorem derives_strict :
    Derives (Ask.conduct host (n + 1)) I s ks Build.strictObject id true := by
  intro s' o p _ hs' _ hp
  have hsame : Derivation.strictOf.sketch o = o.modified id true :=
    congrArg₂ ObjectSketch.mk (List.filterMap_some.trans (List.map_id _).symm) (Bool.or_true _).symm
  rw [← hsame]
  exact Derivation.step host n hI (fun _ _ => Nat.zero_le _) hs' hp .strictOf

theorem derives_partial :
    Derives (Ask.conduct host (n + 1)) I s ks Build.partialObject Sketch.makeOptional false := by
  intro s' o p _ hs' _ hp
  have hsame : Derivation.partialOf.sketch o = o.modified Sketch.makeOptional false :=
    congrArg₂ ObjectSketch.mk (Derivation.fields_partialOf o) (Bool.or_false _).symm
  rw [← hsame]
  exact Derivation.step host n hI (fun _ _ => Nat.zero_le _) hs' hp .partialOf

variable {s ks} (sketched : Value → Sketch)

theorem derives_required (hks : ∀ k ∈ ks, ∃ v f text, k.value = .given v f text ∧
      SettlesFrom (Ask.conduct host (n + 1)) I s (Build.required v)
        fun w s' => (sketched v).Describes (Ask.conduct host (n + 1)) I s' w) :
    Derives (Ask.conduct host (n + 1)) I s ks Build.requiredObject (Sketch.replaced sketched) false := by
  intro s' o p hle hs' hfields hp
  have hsame : o.modified (Sketch.replaced sketched) false = ⟨o.fields.filterMap fun k =>
      (some (k.value.replaced sketched)).map fun value => { k with value }, o.strict⟩ := by
    refine congrArg₂ ObjectSketch.mk ?_ (Bool.or_false _)
    exact (congrFun List.filterMap_eq_map' o.fields).symm
  rw [hsame]
  refine Derivation.step_modified host n hI (fun _ _ => Nat.zero_le _) hs' hp
    (fun k => some (k.replaced sketched)) (fun k hk v hv => ?_) _
  obtain ⟨u, f, text, hgiven, hsettles⟩ := hks k (hfields k hk)
  rw [hgiven] at hv ⊢
  cases hv
  exact ⟨_, rfl, fun ds _ hle' hs'' => hsettles.settles ds (hle.trans hle') hs'',
    fun hw hle' => hsettles.lasts hw hle'⟩

/-- If a product is made of the required fields, none of them was refused. -/
theorem isSome_of_requiredObject {fields : List (Name × Value)} {texts : List (String × String)}
    {strict : Bool} {title : String} {p p₁ : Value} {s₁ : Session} (hs : I s)
    (hfields : SteadyFields (Ask.conduct host (n + 1)) I fields texts)
    (hnodup : (fieldTexts fields).Nodup) (hp : s.Makes 0 (.object fields strict) title p)
    {required? : Value → Option Sketch} (hrequires : ∀ field ∈ fields,
      field.2.Requires (Ask.conduct host (n + 1)) I s (required? field.2))
    (h : exec (Ask.conduct host (n + 1)) (Build.requiredObject p) s = .ok p₁ s₁) :
    ∀ field ∈ fields, (required? field.2).isSome = true := by
  by_contra hsome
  -- The first such field is the one that is refused.
  have hsome : (fields.find? fun field => (required? field.2).isNone).isSome = true := by
    simpa using hsome
  obtain ⟨field, hfield⟩ := Option.isSome_iff_exists.mp hsome
  obtain ⟨hnone, done, rest, hsplit, hdone⟩ := List.find?_eq_some_iff_append.mp hfield
  have hsettled : ∀ field ∈ done,
      SettlesFrom (Ask.conduct host (n + 1)) I s (Build.required field.2) fun _ _ => True := by
    intro field hmem
    have hrequired := hrequires field (by rw [hsplit]; exact List.mem_append_left _ hmem)
    have hkept := hdone field hmem
    rcases hk : required? field.2 with - | k <;> rw [hk] at hrequired hkept
    · cases hkept
    · cases hrequired with
      | settles hsettles =>
        exact ⟨fun ds _ hle hs' => (hsettles.settles ds hle hs').mono fun _ _ _ _ _ => trivial,
          fun _ _ => trivial⟩
  have hrefused := hrequires field (by rw [hsplit]; simp)
  rw [Option.isNone_iff_eq_none.mp hnone] at hrefused
  cases hrefused with
  | refused hrefused =>
    rw [← distinctFields_of_nodup hnodup] at hsplit
    obtain ⟨_, _, herror⟩ := refused_modifiedObject host n hI hs hfields hp hsplit hsettled
      (fun s' hle hs' => hrefused [] s' hle (by rwa [Session.keeping_nil])) Operation.requiredOf.name
    cases herror.symm.trans h

/-- If a product is made of the required fields, it is derived from any such fields in the same way. -/
theorem exists_derives_required {fields : List (Name × Value)} {texts : List (String × String)}
    {strict : Bool} {title : String} {p p₁ : Value} {s₁ : Session} (hs : I s)
    (hfields : SteadyFields (Ask.conduct host (n + 1)) I fields texts)
    (hnodup : (fieldTexts fields).Nodup) (hp : s.Makes 0 (.object fields strict) title p)
    (hgiven : ∀ k ∈ ks, ∃ field ∈ fields, ∃ f text, k.value = .given field.2 f text)
    (hrequires : ∀ field ∈ fields, ∃ k?, field.2.Requires (Ask.conduct host (n + 1)) I s k?)
    (h : exec (Ask.conduct host (n + 1)) (Build.requiredObject p) s = .ok p₁ s₁) :
    ∃ g, Derives (Ask.conduct host (n + 1)) I s ks Build.requiredObject g false := by
  have hvalues : ∀ v ∈ fields.map (·.2), ∃ k?, v.Requires (Ask.conduct host (n + 1)) I s k? :=
    List.forall_mem_map.mpr hrequires
  choose! required? hrequired using hvalues
  have hsome := isSome_of_requiredObject host n hI hs hfields hnodup hp
    (fun field hfield => hrequired field.2 (List.mem_map_of_mem hfield)) h
  let sketched (v : Value) : Sketch := (required? v).getD (.given v .none "")
  refine ⟨_, derives_required host n hI sketched fun k hk => ?_⟩
  obtain ⟨field, hfield, f, text, hvalue⟩ := hgiven k hk
  obtain ⟨k', hk'⟩ := Option.isSome_iff_exists.mp (hsome field hfield)
  have hfieldRequires := hrequired field.2 (List.mem_map_of_mem hfield)
  rw [hk'] at hfieldRequires
  cases hfieldRequires with
  | settles hsettles =>
    refine ⟨field.2, f, text, hvalue, ?_⟩
    have hsketched : sketched field.2 = k' := by simp only [sketched, hk', Option.getD_some]
    rwa [hsketched]

/-- A combinator may be applied after a computation that makes a product, if that computation corresponds to
another one which makes what becomes of the sketch. -/
theorem Derives.corresponds {D : Value → Run Value} {g : Sketch → Sketch} {strict : Bool}
    (hD : Derives (Ask.conduct host (n + 1)) I s ks D g strict) {s' s'' : Session}
    (hle : s.LeadsTo s') {o : ObjectSketch} (ho : ∀ k ∈ o.fields, k ∈ ks) {m m' : Run Value}
    (hm : Settles (Ask.conduct host (n + 1)) I s' m fun q t =>
      o.Describes (Ask.conduct host (n + 1)) I t 0 q)
    (hm' : Settles (Ask.conduct host (n + 1)) I s'' m' fun q t =>
      (o.modified g strict).Describes (Ask.conduct host (n + 1)) I t 0 q) :
    Settles (Ask.conduct host (n + 1)) I s' (do D (← m)) fun q₁ s₁ =>
      Settles (Ask.conduct host (n + 1)) I s'' m' fun q₂ s₂ =>
        Session.Corresponds (Ask.conduct host (n + 1)) I s₁ s₂ q₁ q₂ := by
  have hderived := hm.bind fun q t hle' ht hq => hD t o q (hle.trans hle') ht ho hq.records
  exact hderived.mono fun q₁ s₁ _ _ hq₁ => hm'.mono fun q₂ s₂ _ _ hq₂ =>
    hq₁.corresponds host n hI hq₂

end Derives

/-- The product of the fields that keys name, or of the others, as sketched. -/
theorem settles_chosen (host : Host) (n : Nat) {I : Session → Prop} (hI : Session.Abiding I)
    {s : Session} (hs : I s) {o : ObjectSketch} {p : Value}
    (hp : o.Records (Ask.conduct host (n + 1)) I s 0 p) {names : List Name}
    (hnames : Name.ServeAsKeys (Ask.conduct host (n + 1)) I names)
    (hmem : ∀ k ∈ o.fields.map (·.name), k ∈ names)
    (hknown : ∀ k ∈ names, k.text ∈ (o.fields.map (·.name)).map Name.text) {keys : Value}
    {K : Finset String} (hkeys : keys.GivesNames (Ask.conduct host (n + 1)) I s names K)
    (hK : ∀ t ∈ K, t ∈ (o.fields.map (·.name)).map Name.text) (factory : String) (keep : Bool) :
    Settles (Ask.conduct host (n + 1)) I s (Build.selectedObject factory keep p keys) fun q s' =>
      (o.chosen K keep).Describes (Ask.conduct host (n + 1)) I s' 0 q := by
  obtain ⟨fields, texts, title, hsteady, hmade, hfields⟩ := hp
  have htexts : (o.fields.map (·.name)).map Name.text = fieldTexts (distinctFields fields) := by
    rw [hfields.names, List.map_map]
    rfl
  rw [hfields.names] at hmem
  rw [htexts] at hknown hK
  -- All names are known, so none of them is written.
  have hplain : Name.WrittenPlainly (Ask.conduct host (n + 1)) I
      (unknownOf (distinctFields fields) names) := by
    intro k hk
    obtain ⟨hk, hunknown⟩ := List.mem_filter.mp hk
    exact absurd (hknown k hk) (of_decide_eq_true hunknown)
  have hselects := selects_of_givesNames hI hnames (List.forall_mem_map.mp hmem) hplain hkeys hK hs
    factory
  refine (settles_selectedObject host n hI (fun _ _ => Nat.zero_le _) hs hsteady hmade hselects
    keep).mono fun q s' hle hs' ⟨fields', texts', hchanged, hsteady', hq⟩ =>
      .of_changed hI hs' (hfields.leadsTo hle) hchanged hsteady' hq
        (congrFun List.filterMap_eq_filter o.fields).symm ?_
  rintro k - field v? hdescribes rfl
  rw [Option.guard, hdescribes.name]
  split
  · exact .some ⟨hdescribes.name, hdescribes.shown, hdescribes.value⟩
  · exact .none

end Run

namespace Build

/-- **Derived combinators commute.**  The product `p` was made by `object_of` from fields that list no name
twice.  One of `partial_of`, `required_of` and `strict_of` makes a product of it.  Then

* `pick_of` and `omit_of` may as well be applied to `p` before that as to the product afterwards, with keys
  that give the same names of fields,
* and so may `strict_of`.

What is made in one order corresponds to what is made in the other one.  To `required_of`, it is always the
same that `make_required` does about the fields.  What `strict_of` makes of `p` corresponds to what it makes
of that again. -/
theorem object_derivations_commute (host : Host) (n : Nat) {I : Session → Prop}
    (hI : Session.Abiding I) {s : Session} (hs : I s) {names : List Name}
    {fields : List (Name × Value)} {texts : List (String × String)} {strict : Bool} {title : String}
    {p : Value} (hnames : Name.ServeAsKeys (Ask.conduct host (n + 1)) I names)
    (hmem : ∀ field ∈ fields, field.1 ∈ names) (hknown : ∀ k ∈ names, k.text ∈ fieldTexts fields)
    (hfields : SteadyFields (Ask.conduct host (n + 1)) I fields texts)
    (hnodup : (fieldTexts fields).Nodup) (hp : s.Makes 0 (.object fields strict) title p) :
    let c := Ask.conduct host (n + 1)
    let Same (s s' : Session) (m m' : Run Value) : Prop := Settles c I s m fun q s₁ =>
      Settles c I s' m' fun q' s₂ => Session.Corresponds c I s₁ s₂ q q'
    let Commutes (D : Value → Run Value) : Prop := ∀ p₁ s₁, exec c (D p) s = .ok p₁ s₁ →
      ∀ s' s'', s.Keeps I p s' → s₁.Keeps I p₁ s'' →
        (∀ K ⊆ (fieldTexts fields).toFinset, ∀ keys keys', keys.GivesNames c I s' names K →
          keys'.GivesNames c I s'' names K →
            Same s' s'' (do D (← pickFields p keys)) (pickFields p₁ keys') ∧
            Same s' s'' (do D (← omitFields p keys)) (omitFields p₁ keys')) ∧
        Same s' s'' (do D (← strictObject p)) (strictObject p₁)
    Commutes strictObject ∧ Commutes partialObject ∧
      ((∀ field ∈ fields, ∃ k?, field.2.Requires c I s k?) → Commutes requiredObject) ∧
      Settles c I s (strictObject p) fun p₁ s₁ => ∀ s', s₁.Keeps I p₁ s' →
        Settles c I s' (strictObject p₁) fun p₂ s₂ => Session.Corresponds c I s₁ s₂ p₁ p₂ := by
  intro c Same Commutes
  obtain ⟨ks, hks, hgiven⟩ := hfields.exists_given hnodup
  let o : ObjectSketch := ⟨ks, strict⟩
  have hrecords : o.Records c I s 0 p := by
    refine ⟨fields, texts, title, hfields, hp, ?_⟩
    rw [distinctFields_of_nodup hnodup]
    exact hks s
  have hsketched : o.fields.map (·.name) = fields.map (·.1) := (hks s).names
  -- Whatever is sketched with these names, keys choose from it.
  have hchosen {s : Session} (hs : I s) {o' : ObjectSketch} {q : Value} (hq : o'.Records c I s 0 q)
      (ho' : o'.fields.map (·.name) = fields.map (·.1)) {keys : Value} {K : Finset String}
      (hkeys : keys.GivesNames c I s names K) (hK : K ⊆ (fieldTexts fields).toFinset)
      (factory : String) (keep : Bool) :
      Settles c I s (selectedObject factory keep q keys) fun q s' =>
        (o'.chosen K keep).Describes c I s' 0 q := by
    have htexts : (o'.fields.map (·.name)).map Name.text = fieldTexts fields := by
      rw [ho', List.map_map]
      rfl
    refine settles_chosen host n hI hs hq hnames ?_ ?_ hkeys ?_ factory keep
    · rw [ho']
      exact List.forall_mem_map.mpr hmem
    · rwa [htexts]
    · rw [htexts]
      exact fun t ht => List.mem_toFinset.mp (hK ht)
  -- What a derived combinator makes of `p` is modified in the same way as what it makes of these products.
  have hcommutes {D : Value → Run Value} {g : Sketch → Sketch} {b : Bool}
      (hD : Derives c I s ks D g b) : Commutes D := by
    intro p₁ s₁ hp₁ s' s'' hs' hs''
    obtain ⟨q, t, hq, -, -, hdescribes⟩ := hD s o p (.refl s) hs (fun _ hk => hk) hrecords
    cases hq.symm.trans hp₁
    have hrecords' := hrecords.keeps hs'
    have hrecords₁ := hdescribes.records.keeps hs''
    have hselected {K : Finset String} (hK : K ⊆ (fieldTexts fields).toFinset) {keys keys' : Value}
        (hkeys : keys.GivesNames c I s' names K) (hkeys' : keys'.GivesNames c I s'' names K)
        (factory : String) (keep : Bool) :
        Same s' s'' (do D (← selectedObject factory keep p keys))
          (selectedObject factory keep p₁ keys') := by
      have hafter := hchosen hs''.invariant hrecords₁ ((o.names_modified g b).trans hsketched) hkeys'
        hK factory keep
      rw [ObjectSketch.chosen_modified] at hafter
      exact hD.corresponds host n hI hs'.leadsTo (fun _ hk => List.mem_of_mem_filter hk)
        (hchosen hs'.invariant hrecords' hsketched hkeys hK factory keep) hafter
    refine ⟨fun K hK keys keys' hkeys hkeys' => ⟨hselected hK hkeys hkeys' _ true,
      hselected hK hkeys hkeys' _ false⟩, ?_⟩
    have hafter := derives_strict host n hI s'' _ s'' _ p₁ (.refl s'') hs''.invariant (fun _ hk => hk)
      hrecords₁
    rw [ObjectSketch.modified_strict] at hafter
    exact hD.corresponds host n hI hs'.leadsTo (fun _ hk => by rwa [o.fields_modified_id] at hk)
      (derives_strict host n hI s ks s' o p hs'.leadsTo hs'.invariant (fun _ hk => hk) hrecords') hafter
  refine ⟨hcommutes (derives_strict host n hI s ks), hcommutes (derives_partial host n hI s ks),
    fun hrequires p₁ s₁ hp₁ => ?_, ?_⟩
  · obtain ⟨g, hD⟩ := exists_derives_required host n hI hs hfields hnodup hp hgiven hrequires hp₁
    exact hcommutes hD p₁ s₁ hp₁
  · refine (derives_strict host n hI s ks s o p (.refl s) hs (fun _ hk => hk) hrecords).mono
      fun p₁ s₁ _ _ hdescribes s' hs' => ?_
    refine (derives_strict host n hI s' _ s' _ p₁ (.refl s') hs'.invariant (fun _ hk => hk)
      (hdescribes.records.keeps hs')).mono fun p₂ s₂ _ _ hagain => ?_
    have hsame : (o.modified id true).modified id true = o.modified id true := by
      simp only [ObjectSketch.modified, List.map_map, Bool.or_true]
      rfl
    rw [hsame] at hagain
    exact hdescribes.corresponds host n hI hagain

/-- A product of two optional fields.  One of them is picked before or after the facets are taken off. -/
theorem object_derivations_commute_pair :
    let c := Ask.conduct .none 3
    let leaves : List (String × Leaf) := [("a", .any), ("b", .any)]
    let fields : List (Name × Value) := leaves.map fun leaf => (.kept leaf.1, .leaf leaf.2)
    let I := Session.Keeping Session.Untouched [(0, fields)]
    let s := Session.start.withDict (keyedFields fields)
    let keys := Value.tuple (.kind .tuple) 2 [.keptText "a"]
    ∃ p₀ s₀ p s₁ r s₂ q s₃ q' s₄, I s ∧ exec c (object (.ref 0) (.bool true)) s = .ok p₀ s₀ ∧
      exec c (partialObject p₀) s₀ = .ok p s₁ ∧ exec c (requiredObject p) s₁ = .ok r s₂ ∧
      exec c (do requiredObject (← pickFields p keys)) s₁ = .ok q s₃ ∧
      exec c (pickFields r keys) s₂ = .ok q' s₄ ∧ Session.Corresponds c I s₃ s₄ q q' := by
  intro c leaves fields I s keys
  have hI : Session.Enduring I := Session.enduring_untouched.keeping _
  have hs : I s := by
    refine ⟨Session.enduring_untouched.withDict .start _, ?_⟩
    exact List.forall_mem_singleton.mpr rfl
  obtain ⟨p₀, s₀, hp₀, -, hs₀, hmade₀⟩ := ObjectSketch.settles_ofLeaves .none 2 hI.abiding
    (fun _ hs => hs.1) leaves (by decide) (fun s hs => hs.2 _ List.mem_cons_self) hs true
  obtain ⟨p, s₁, hp, -, hs₁, hmade⟩ := Derivation.step .none 2 hI.abiding (fun _ _ => Nat.zero_le _)
    hs₀ hmade₀.records .partialOf
  let o := Derivation.partialOf.sketch (ObjectSketch.ofLeaves leaves true)
  have hnone : ∀ k ∈ o.fields, k.value.handBuilt? = none :=
    (Derivation.forall_handBuilt?_partialOf _ (· = none)).mpr (List.forall_mem_map.mpr fun _ _ => rfl)
  obtain ⟨r, s₂, hr, -, hs₂, -⟩ := Derivation.step .none 2 hI.abiding (fun _ _ => Nat.zero_le _) hs₁
    hmade.records (Derivation.applies_requiredOf hnone)
  obtain ⟨fields₁, hfields₁, hnodup₁, hproduct, hdescribed₁⟩ := hmade
  have hnamed : fields₁.map (·.1) = [.kept "a", .kept "b"] := hdescribed₁.names.symm
  have hnames : Name.ServeAsKeys c I [.kept "a", .kept "b"] := hnamed ▸ hfields₁.names
  have hrequires : ∀ field ∈ fields₁, ∃ k?, field.2.Requires c I s₁ k? := fun field hfield => by
    obtain ⟨k, hk, hdescribes⟩ := hdescribed₁.exists_sketch field hfield
    exact ⟨_, hdescribes.value.requires .none 2 hI.abiding fun w hw => by rw [hnone k hk] at hw; cases hw⟩
  have htexts : fieldTexts fields₁ = ["a", "b"] := by
    have hmap := congrArg (List.map Name.text) hnamed
    rwa [List.map_map] at hmap
  have hkeys (s : Session) : keys.GivesNames c I s [.kept "a", .kept "b"] {"a"} :=
    givesNames_tuple hI.abiding hnames
      (show ∀ k ∈ [Name.kept "a"], k ∈ [Name.kept "a", .kept "b"] by decide) 2
  obtain ⟨-, -, hrequired, -⟩ := object_derivations_commute .none 2 hI.abiding hs₁ hnames
    (fun field hfield => hnamed ▸ List.mem_map_of_mem hfield) (by rw [htexts]; decide) hfields₁ hnodup₁
    hproduct
  obtain ⟨hchosen, -⟩ := hrequired hrequires r s₂ hr s₁ s₂ (.refl hs₁ p) (.refl hs₂ r)
  obtain ⟨⟨q, s₃, hq, -, -, q', s₄, hq', -, -, hcorresponds⟩, -⟩ := hchosen {"a"}
    (by rw [htexts]; decide) keys keys (hkeys s₁) (hkeys s₂)
  exact ⟨p₀, s₀, p, s₁, r, s₂, q, s₃, q', s₄, hs, hp₀, hp, hr, hq, hq', hcorresponds⟩

/-! ## Names that change -/

/-- A function goes by another name after the fields have been made optional.  That shows if they are made
optional once more from the beginning, but not in the optional fields that are there already. -/
theorem derivations_differ :
    let f := Value.function 2 (.kept "f") false (.returns (.bool true))
    (exec (Ask.conduct .none 5) (do
        let p ← object (.ref 1) (.bool false)
        let p₁ ← partialObject p
        assignAttribute f (.keptText Heap.nameField) Heap.nameField (.keptText "g")
        let keys := Value.tuple (.kind .tuple) 3 [.keptText "a"]
        let q ← partialObject (← pickFields p keys)
        let q' ← pickFields p₁ keys
        return ((← displayName q).text?, (← displayName q').text?))
      (describingTwoSession f (.leaf .any))).result? =
      some (some "object_of(\x7b'a': optional(g)\x7d)", some "object_of(\x7b'a': optional(f)\x7d)") := by
  decide +kernel

end Build

end ValueShape
