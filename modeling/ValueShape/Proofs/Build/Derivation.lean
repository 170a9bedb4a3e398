import ValueShape.Proofs.Build.Sketch

/-!
# What is derived

What the derived combinators make of an `object_of` product when they are applied one after the
other, in any order and any number.

* An `ObjectSketch` is what is known of an `object_of` product: a `FieldSketch` for each name, and
  whether it is strict.
* `ObjectSketch.Records` says that a product is registered with a descriptor as sketched, and
  `ObjectSketch.Describes` that it is named by the sketch and asks its fields as well.
* A `Derivation` is a call of a derived combinator.  It makes a product which is as sketched
  (`Derivation.step`), and so do any number of them after each other (`Derivation.run`).
-/

set_option autoImplicit false

namespace ValueShape

open Run

/-! ## Sketches of products

A sketch is known before any combinator is called, so what comes of it can be computed. -/

/-- What is known of a field: its name, how that is shown, and the callable. -/
structure FieldSketch where
  name : Name
  shown : String
  value : Sketch

/-- What is known of an `object_of` product. -/
structure ObjectSketch where
  fields : List FieldSketch
  strict : Bool

/-- A field is as sketched. -/
structure FieldSketch.Describes (c : Conduct) (I : Session → Prop) (s : Session) (k : FieldSketch)
    (field : Name × Value) : Prop where
  /-- It has the name. -/
  name : k.name = field.1
  /-- The name is shown by the text. -/
  shown : (Value.ofName k.name).Shown c I k.shown
  /-- The callable is as sketched. -/
  value : k.value.Describes c I s field.2

/-- Fields are as sketched, one by one. -/
def FieldsDescribed (c : Conduct) (I : Session → Prop) (s : Session) :
    List FieldSketch → List (Name × Value) → Prop :=
  List.Forall₂ fun k field => k.Describes c I s field

namespace FieldsDescribed

variable {c : Conduct} {I : Session → Prop} {s s' : Session} {ks : List FieldSketch}
  {fields : List (Name × Value)}

theorem leadsTo (h : FieldsDescribed c I s ks fields) (hle : s.LeadsTo s') :
    FieldsDescribed c I s' ks fields :=
  h.imp fun _ _ hk => ⟨hk.name, hk.shown, hk.value.leadsTo hle⟩

theorem names (h : FieldsDescribed c I s ks fields) : ks.map (·.name) = fields.map (·.1) := by
  induction h with
  | nil => rfl
  | cons hk _ ih => rw [List.map_cons, List.map_cons, hk.name, ih]

theorem exists_sketch (h : FieldsDescribed c I s ks fields) :
    ∀ field ∈ fields, ∃ k ∈ ks, k.Describes c I s field := by
  induction h with
  | nil => exact fun _ h => absurd h List.not_mem_nil
  | @cons k field ks fields hk _ ih =>
    refine List.forall_mem_cons.mpr ⟨⟨k, List.mem_cons_self, hk⟩, fun f hf => ?_⟩
    obtain ⟨k', hk', hdescribes⟩ := ih f hf
    exact ⟨k', List.mem_cons_of_mem k hk', hdescribes⟩

/-- Sketches settle the texts that fields are shown by. -/
theorem texts_eq (hI : Session.Abiding I) (hs : I s) (h : FieldsDescribed c I s ks fields)
    {texts : List (String × String)} (hshown : FieldsShown c I fields texts) :
    texts = ks.map fun k => (k.shown, k.value.text) := by
  induction h generalizing texts with
  | nil => cases hshown; rfl
  | @cons k field ks fields hk _ ih =>
    cases hshown with
    | @cons _ text _ texts hfield hrest =>
      have hname : text.1 = k.shown := hfield.1.unique (hk.name ▸ hk.shown) hs
      have hvalue : text.2 = k.value.text := hfield.2.unique (hk.value.steady hI).shown hs
      rw [List.map_cons, ih hrest, ← hname, ← hvalue]

/-- Sketches settle what asking the fields does. -/
theorem asked_eq (host : Host) (h : FieldsDescribed c I s ks fields) :
    fields.map (fun field => (field.1, Ask.asked host field.2)) =
      ks.map fun k => (k.name, k.value.asked host) := by
  induction h with
  | nil => rfl
  | cons hk _ ih => rw [List.map_cons, List.map_cons, ih, hk.name, hk.value.asked_eq host]

/-- What is left of fields is as sketched, if each field that is left is. -/
theorem changed (h : FieldsDescribed c I s ks fields) {Q : Name × Value → Option Value → Prop}
    {fields' : List (Name × Value)} (hchanged : Changed Q fields fields')
    {change : FieldSketch → Option FieldSketch}
    (hQ : ∀ k ∈ ks, ∀ field v?, k.Describes c I s field → Q field v? →
      Option.Rel (fun k' v => k'.Describes c I s' (field.1, v)) (change k) v?) :
    FieldsDescribed c I s' (ks.filterMap change) fields' := by
  induction hchanged generalizing ks with
  | nil =>
    cases h
    exact .nil
  | kept hv _ ih =>
    cases h with
    | @cons k _ ks _ hk hrest =>
      obtain ⟨hfield, hQ⟩ := List.forall_mem_cons.mp hQ
      have hrel := hfield _ _ hk hv
      rcases hk' : change k with - | k' <;> rw [hk'] at hrel <;> cases hrel
      rw [List.filterMap_cons_some hk']
      exact .cons ‹_› (ih hrest hQ)
  | dropped hv _ ih =>
    cases h with
    | @cons k _ ks _ hk hrest =>
      obtain ⟨hfield, hQ⟩ := List.forall_mem_cons.mp hQ
      have hrel := hfield _ _ hk hv
      rcases hk' : change k with - | k' <;> rw [hk'] at hrel <;> cases hrel
      rw [List.filterMap_cons_none hk']
      exact ih hrest hQ

end FieldsDescribed

namespace ObjectSketch

/-- The texts that names and callables are shown by. -/
def texts (o : ObjectSketch) : List (String × String) := o.fields.map fun k => (k.shown, k.value.text)

/-- What a product asks. -/
def asks (host : Host) (o : ObjectSketch) (x : Value) : Run Value := do
  let known := if o.strict then some (o.fields.map (·.name.key)) else none
  return .bool (← (Check.object (o.fields.map fun k => (k.name, k.value.asked host)) known).run x)

/-- A product is registered with a descriptor as sketched. -/
def Records (c : Conduct) (I : Session → Prop) (s : Session) (old : Nat) (o : ObjectSketch)
    (p : Value) : Prop :=
  ∃ fields texts title, SteadyFields c I fields texts ∧
    s.Makes old (.object fields o.strict) title p ∧
    FieldsDescribed c I s o.fields (distinctFields fields)

/-- A product is as sketched: it has been made of the fields that it is registered with. -/
def Describes (c : Conduct) (I : Session → Prop) (s : Session) (old : Nat) (o : ObjectSketch)
    (p : Value) : Prop :=
  ∃ fields, SteadyFields c I fields o.texts ∧ (fieldTexts fields).Nodup ∧
    s.Makes old (.object fields o.strict) (objectTitle o.texts o.strict) p ∧
    FieldsDescribed c I s o.fields fields

variable {c : Conduct} {I : Session → Prop} {s s' : Session} {old : Nat} {o : ObjectSketch}
  {p : Value}

theorem Describes.records (h : o.Describes c I s old p) : o.Records c I s old p := by
  obtain ⟨fields, hsteady, hnodup, hp, hfields⟩ := h
  refine ⟨fields, _, _, hsteady, hp, ?_⟩
  rwa [distinctFields_of_nodup hnodup]

/-- Sketches settle what the product of their fields asks. -/
theorem callWith_eq_asks (host : Host) {fields : List (Name × Value)} {title : String}
    (hp : s'.Makes old (.object fields o.strict) title p) (hnodup : (fieldTexts fields).Nodup)
    (hfields : FieldsDescribed c I s o.fields fields) (x : Value) :
    Ask.callWith host p [x] = o.asks host x := by
  have hkeys : (o.fields.map (·.name.key)) = fields.map (·.1.key) := by
    have hnames := congrArg (List.map Name.key) hfields.names
    rwa [List.map_map, List.map_map] at hnames
  rw [hp.product.callWith_object host x, distinctFields_of_nodup hnodup, asks, hkeys,
    ← hfields.asked_eq host]
  rfl

theorem Describes.callWith_eq (host : Host) (h : o.Describes c I s old p) (x : Value) :
    Ask.callWith host p [x] = o.asks host x := by
  obtain ⟨fields, -, hnodup, hp, hfields⟩ := h
  exact callWith_eq_asks host hp hnodup hfields x

/-- What is left of the fields of a product makes a product as sketched. -/
theorem Describes.of_changed (hI : Session.Abiding I) (hs' : I s') {o' : ObjectSketch}
    {ks : List FieldSketch} {fields fields' : List (Name × Value)} {texts' : List (String × String)}
    {Q : Name × Value → Option Value → Prop} {change : FieldSketch → Option FieldSketch}
    (hfields : FieldsDescribed c I s ks (distinctFields fields))
    (hchanged : Changed Q (distinctFields fields) fields')
    (hsteady : SteadyFields c I fields' texts')
    (hp : s'.Makes old (.object fields' o'.strict) (objectTitle texts' o'.strict) p)
    (ho' : o'.fields = ks.filterMap change)
    (hQ : ∀ k ∈ ks, ∀ field v?, k.Describes c I s field → Q field v? →
      Option.Rel (fun k' v => k'.Describes c I s' (field.1, v)) (change k) v?) :
    o'.Describes c I s' old p := by
  have hnodup := hchanged.fieldTexts_nodup (nodup_distinctFields fields)
  have hfields' : FieldsDescribed c I s' o'.fields fields' := ho' ▸ hfields.changed hchanged hQ
  have hshown := hsteady.shown
  rw [distinctFields_of_nodup hnodup] at hshown
  obtain rfl : texts' = o'.texts := hfields'.texts_eq hI hs' hshown
  exact ⟨fields', hsteady, hnodup, hp, hfields'⟩

end ObjectSketch

/-! ## Derivations

`Derivation.sketch` is the specification, a function without sessions.  `Derivation.step` says that
calling a combinator does the same to a product. -/

/-- Keys, and the names that they are read as. -/
structure PickedNames where
  keys : Value
  names : List Name

/-- Whether a name is among picked ones. -/
def PickedNames.has (picked : PickedNames) (k : Name) : Bool :=
  picked.names.any fun k' => k'.text == k.text

/-- What becomes of a field, if the picked ones are kept, or the others. -/
def PickedNames.select (picked : PickedNames) (keep : Bool) (k : FieldSketch) : Option FieldSketch :=
  if picked.has k.name == keep then some k else none

/-- Keys are read as names that are there. -/
structure PickedNames.AreKnown (c : Conduct) (I : Session → Prop) (names : List Name)
    (picked : PickedNames) : Prop where
  /-- They are not taken for a text. -/
  textual : Steadily c I (isOfAnyKind picked.keys [.text, .bytes]) (· = false)
  /-- They are read as the names. -/
  read : Steadily c I (toMembers picked.keys) (· = picked.names.map Name.key)
  /-- The names are there. -/
  known : ∀ k ∈ picked.names, k ∈ names

/-- A call of a derived combinator. -/
inductive Derivation
  | partialOf
  | requiredOf
  | pickOf (picked : PickedNames)
  | omitOf (picked : PickedNames)
  | strictOf

namespace Derivation

/-- Calls a derived combinator. -/
def apply : Derivation → Value → Run Value
  | partialOf, p => Build.partialObject p
  | requiredOf, p => Build.requiredObject p
  | pickOf picked, p => Build.pickFields p picked.keys
  | omitOf picked, p => Build.omitFields p picked.keys
  | strictOf, p => Build.strictObject p

/-- Calls derived combinators one after the other, each with what the one before has returned. -/
def applyAll (ds : List Derivation) (p : Value) : Run Value := ds.foldlM (fun p d => d.apply p) p

/-- What becomes of a field. -/
def change : Derivation → FieldSketch → Option FieldSketch
  | partialOf, k => some { k with value := k.value.makeOptional }
  | requiredOf, k => k.value.makeRequired?.map fun value => { k with value }
  | pickOf picked, k => picked.select true k
  | omitOf picked, k => picked.select false k
  | strictOf, k => some k

/-- What becomes of a product. -/
def sketch (d : Derivation) (o : ObjectSketch) : ObjectSketch where
  fields := o.fields.filterMap d.change
  strict := match d with
    | strictOf => true
    | _ => o.strict

/-- A derived combinator accepts a product. -/
inductive Applies (c : Conduct) (I : Session → Prop) (o : ObjectSketch) : Derivation → Prop
  | partialOf : Applies c I o partialOf
  | requiredOf (h : ∀ k ∈ o.fields, k.value.makeRequired?.isSome = true) : Applies c I o requiredOf
  | pickOf {picked : PickedNames} (h : picked.AreKnown c I (o.fields.map (·.name))) :
      Applies c I o (pickOf picked)
  | omitOf {picked : PickedNames} (h : picked.AreKnown c I (o.fields.map (·.name))) :
      Applies c I o (omitOf picked)
  | strictOf : Applies c I o strictOf

/-- What becomes of a product in the end. -/
def sketchAll (ds : List Derivation) (o : ObjectSketch) : ObjectSketch :=
  ds.foldl (fun o d => d.sketch o) o

/-- Each derived combinator accepts what the one before has made. -/
inductive AllApply (c : Conduct) (I : Session → Prop) : List Derivation → ObjectSketch → Prop
  | nil (o : ObjectSketch) : AllApply c I [] o
  | cons {d : Derivation} {ds : List Derivation} {o : ObjectSketch} (hd : d.Applies c I o)
      (hds : AllApply c I ds (d.sketch o)) : AllApply c I (d :: ds) o

section Step

variable (host : Host) (n : Nat) {I : Session → Prop} {s : Session} {old old' : Nat}
  {o : ObjectSketch} {p : Value} (hI : Session.Abiding I)
  (hold : ∀ s, I s → old ≤ s.heap.cells.size) (hs : I s)
  (hp : o.Records (Ask.conduct host (n + 1)) I s old' p)
include hI hold hs hp

/-- A product with every field modified. -/
theorem step_modified (change : Sketch → Option Sketch) {modify : Value → Run Value}
    (hmodify : ∀ k ∈ o.fields, ∀ v, k.value.Describes (Ask.conduct host (n + 1)) I s v →
      ∃ k', change k.value = some k' ∧ SettlesFrom (Ask.conduct host (n + 1)) I s (modify v)
        fun w s' => k'.Describes (Ask.conduct host (n + 1)) I s' w) (factory : String) :
    Settles (Ask.conduct host (n + 1)) I s (Build.modifiedObject factory modify p) fun q s' =>
      ObjectSketch.Describes (Ask.conduct host (n + 1)) I s' old
        { o with fields := o.fields.filterMap fun k => (change k.value).map fun value =>
          { k with value } } q := by
  obtain ⟨fields, texts, title, hsteady, hmade, hfields⟩ := hp
  -- A callable may stand in several fields, so what becomes of it is said for all its sketches.
  refine (settles_modifiedObject host n hI hold hs hsteady hmade
    (R := fun v w s' => ∀ k : { k // k ∈ o.fields ∧
      k.value.Describes (Ask.conduct host (n + 1)) I s v }, ∃ k', change k.1.value = some k' ∧
        k'.Describes (Ask.conduct host (n + 1)) I s' w) ?_ ?_ factory).mono ?_
  · intro field hfield
    obtain ⟨k, hk, hdescribes⟩ := hfields.exists_sketch field hfield
    have : Nonempty { k // k ∈ o.fields ∧
      k.value.Describes (Ask.conduct host (n + 1)) I s field.2 } := ⟨k, hk, hdescribes.value⟩
    refine SettlesFrom.forall fun k => ?_
    obtain ⟨k', hk', hsettles⟩ := hmodify k.1 k.2.1 field.2 k.2.2
    exact ⟨fun ds _ hle hs' => (hsettles.settles ds hle hs').mono fun _ _ _ _ hw => ⟨k', hk', hw⟩,
      fun ⟨k', hk', hw⟩ hle => ⟨k', hk', hw.leadsTo hle⟩⟩
  · intro field hfield w s' hw
    obtain ⟨k, hk, hdescribes⟩ := hfields.exists_sketch field hfield
    obtain ⟨k', -, hk'⟩ := hw ⟨k, hk, hdescribes.value⟩
    exact ⟨_, _, hk'.steady hI⟩
  · rintro q s' - hs' ⟨fields', texts', hchanged, hsteady', hq⟩
    refine .of_changed hI hs' hfields hchanged hsteady' hq rfl ?_
    rintro k hk field v? hdescribes ⟨w, rfl, hw⟩
    obtain ⟨k', hk', hw⟩ := hw ⟨k, hk, hdescribes.value⟩
    rw [hk']
    exact .some ⟨hdescribes.name, hdescribes.shown, hw⟩

/-- A product with the picked fields, or with the others. -/
theorem step_selected {picked : PickedNames}
    (hpicked : picked.AreKnown (Ask.conduct host (n + 1)) I (o.fields.map (·.name)))
    (factory : String) (keep : Bool) :
    Settles (Ask.conduct host (n + 1)) I s (Build.selectedObject factory keep p picked.keys)
      fun q s' => ObjectSketch.Describes (Ask.conduct host (n + 1)) I s' old
        { o with fields := o.fields.filterMap (picked.select keep) } q := by
  obtain ⟨fields, texts, title, hsteady, hmade, hfields⟩ := hp
  have hnames := hfields.names
  have hmem : ∀ k ∈ picked.names, k ∈ (distinctFields fields).map (·.1) :=
    fun k hk => hnames ▸ hpicked.known k hk
  have hselects : Selects (Ask.conduct host (n + 1)) I s factory (distinctFields fields) picked.keys
      picked.has := by
    refine selects_of_names hI hsteady.distinct.names (fun _ h => List.mem_map_of_mem h) hmem
      (fun k hk => ?_) hpicked.textual hpicked.read hs factory
    obtain ⟨field, hfield, rfl⟩ := List.mem_map.mp (hmem k hk)
    exact List.mem_map_of_mem hfield
  refine (settles_selectedObject host n hI hold hs hsteady hmade hselects keep).mono
    fun q s' hle hs' ⟨fields', texts', hchanged, hsteady', hq⟩ =>
      .of_changed hI hs' (hfields.leadsTo hle) hchanged hsteady' hq rfl ?_
  rintro k - field v? hdescribes rfl
  rw [PickedNames.select, hdescribes.name]
  split
  · exact .some ⟨hdescribes.name, hdescribes.shown, hdescribes.value⟩
  · exact .none

/-- The product in strict form. -/
theorem step_strict :
    Settles (Ask.conduct host (n + 1)) I s (Build.strictObject p) fun q s' =>
      ObjectSketch.Describes (Ask.conduct host (n + 1)) I s' old { o with strict := true } q := by
  obtain ⟨fields, texts, title, hsteady, hmade, hfields⟩ := hp
  obtain rfl : texts = o.texts := hfields.texts_eq hI hs hsteady.shown
  exact (settles_strictObject host n hI hold hs hsteady hmade).mono fun q s' hle _ hq =>
    ⟨_, hsteady.distinct, nodup_distinctFields fields, hq, hfields.leadsTo hle⟩

/-- **A derived combinator makes a product as sketched.** -/
theorem step {d : Derivation} (hd : d.Applies (Ask.conduct host (n + 1)) I o) :
    Settles (Ask.conduct host (n + 1)) I s (d.apply p) fun q s' =>
      (d.sketch o).Describes (Ask.conduct host (n + 1)) I s' old q := by
  cases hd with
  | partialOf =>
    exact step_modified host n hI hold hs hp (fun k => some k.makeOptional)
      (fun k _ v hv => ⟨_, rfl, Sketch.settlesFrom_optional host n hI hv⟩) _
  | requiredOf h =>
    refine step_modified host n hI hold hs hp Sketch.makeRequired? (fun k hk v hv => ?_) _
    obtain ⟨k', hk'⟩ := Option.isSome_iff_exists.mp (h k hk)
    exact ⟨k', hk', Sketch.settlesFrom_required host n hI hv hk'⟩
  | pickOf h => exact step_selected host n hI hold hs hp h _ true
  | omitOf h => exact step_selected host n hI hold hs hp h _ false
  | strictOf =>
    have hsame : Derivation.strictOf.sketch o = { o with strict := true } :=
      congrArg (ObjectSketch.mk · true) List.filterMap_some
    exact hsame ▸ step_strict host n hI hold hs hp

end Step

/-- **Any number of derived combinators make a product as sketched.** -/
theorem run (host : Host) (n : Nat) {I : Session → Prop} {s : Session} {old : Nat}
    {o : ObjectSketch} {p : Value} {ds : List Derivation} (hI : Session.Abiding I)
    (hold : ∀ s, I s → old ≤ s.heap.cells.size) (hs : I s)
    (hp : o.Describes (Ask.conduct host (n + 1)) I s old p)
    (hds : AllApply (Ask.conduct host (n + 1)) I ds o) :
    Settles (Ask.conduct host (n + 1)) I s (applyAll ds p) fun q s' =>
      (sketchAll ds o).Describes (Ask.conduct host (n + 1)) I s' old q := by
  induction hds generalizing s p with
  | nil o => exact .of_exec_self hs rfl hp
  | cons hd _ ih =>
    exact (step host n hI hold hs hp.records hd).bind fun q s' _ hs' hq => ih hs' hq

/-- Any number of derived combinators, the first of which may be given a product that lists a name
more than once. -/
theorem run_cons (host : Host) (n : Nat) {I : Session → Prop} {s : Session} {old old' : Nat}
    {o : ObjectSketch} {p : Value} {d : Derivation} {ds : List Derivation} (hI : Session.Abiding I)
    (hold : ∀ s, I s → old ≤ s.heap.cells.size) (hs : I s)
    (hp : o.Records (Ask.conduct host (n + 1)) I s old' p)
    (hds : AllApply (Ask.conduct host (n + 1)) I (d :: ds) o) :
    Settles (Ask.conduct host (n + 1)) I s (applyAll (d :: ds) p) fun q s' =>
      (sketchAll (d :: ds) o).Describes (Ask.conduct host (n + 1)) I s' old q := by
  cases hds with
  | cons hd hds =>
    exact (step host n hI hold hs hp hd).bind fun q s' _ hs' hq => run host n hI hold hs' hq hds

end Derivation

end ValueShape
