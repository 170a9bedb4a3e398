import ValueShape.Build.Derived
import ValueShape.Proofs.Build.Factory

/-!
# What `object_of` makes

Products with one predicate per name, and those that are derived from them by their metadata.

* `Run.settles_object` says that `object_of` makes a product of the fields that reading the
  descriptor gives, in the order in which they are listed, and records what they amount to.
* `Run.settles_requireFields` says that the recorded mapping, read as a descriptor, gives the
  recorded fields.
* `Changed Q fields fields'` relates fields to what is left of them.  `Run.settles_changedObject` is
  the product of what is left of the recorded fields, and the lemmas after it are its cases: every
  field modified, the fields of some names, and all fields in a strict product.
* `Run.InTurn` says what a computation has made of a session, run on values one after the other.  A
  modifier that fails for one of the fields leaves this of those before it
  (`Run.exec_modifiedObject_interrupted`), and there is no product (`Run.refused_modifiedObject`).
-/

set_option autoImplicit false

namespace ValueShape

open Run

/-! ## What is left of fields

The derived combinators have one thing in common.  They go through the fields of a product and leave
some of them out, or put other predicates in their places. -/

/-- What is left of fields: for each of them there is another value for its name, or nothing. -/
inductive Changed (Q : Name × Value → Option Value → Prop) :
    List (Name × Value) → List (Name × Value) → Prop
  | nil : Changed Q [] []
  | kept {field : Name × Value} {v : Value} {fields fields' : List (Name × Value)}
      (hv : Q field (some v)) (hrest : Changed Q fields fields') :
      Changed Q (field :: fields) ((field.1, v) :: fields')
  | dropped {field : Name × Value} {fields fields' : List (Name × Value)} (hv : Q field none)
      (hrest : Changed Q fields fields') : Changed Q (field :: fields) fields'

namespace Changed

variable {Q : Name × Value → Option Value → Prop} {fields fields' : List (Name × Value)}

theorem snoc (h : Changed Q fields fields') {field : Name × Value} {v? : Option Value}
    (hv : Q field v?) :
    Changed Q (fields ++ [field]) (fields' ++ (v?.map fun v => (field.1, v)).toList) := by
  induction h with
  | nil =>
    cases v? with
    | none => exact .dropped hv .nil
    | some v => exact .kept hv .nil
  | kept hv' _ ih => exact .kept hv' ih
  | dropped hv' _ ih => exact .dropped hv' ih

theorem mono {Q' : Name × Value → Option Value → Prop} (h : Changed Q fields fields')
    (hQ : ∀ field ∈ fields, ∀ v?, Q field v? → Q' field v?) : Changed Q' fields fields' := by
  induction h with
  | nil => exact .nil
  | kept hv _ ih =>
    obtain ⟨hfield, hQ⟩ := List.forall_mem_cons.mp hQ
    exact .kept (hfield _ hv) (ih hQ)
  | dropped hv _ ih =>
    obtain ⟨hfield, hQ⟩ := List.forall_mem_cons.mp hQ
    exact .dropped (hfield _ hv) (ih hQ)

/-- The names are those of the fields, in the same order. -/
theorem sublist (h : Changed Q fields fields') :
    (fields'.map (·.1)).Sublist (fields.map (·.1)) := by
  induction h with
  | nil => exact .slnil
  | kept _ _ ih => exact ih.cons_cons _
  | dropped _ _ ih => exact ih.cons _

theorem fieldTexts_nodup (h : Changed Q fields fields') (hnodup : (fieldTexts fields).Nodup) :
    (fieldTexts fields').Nodup := by
  have hsub := h.sublist.map Name.text
  rw [List.map_map, List.map_map] at hsub
  exact hnodup.sublist hsub

theorem forall_value {P : Value → Prop} (h : Changed Q fields fields')
    (hP : ∀ field ∈ fields, ∀ v, Q field (some v) → P v) : ∀ field ∈ fields', P field.2 := by
  induction h with
  | nil => exact fun _ h => absurd h List.not_mem_nil
  | kept hv _ ih =>
    obtain ⟨hfield, hP⟩ := List.forall_mem_cons.mp hP
    exact List.forall_mem_cons.mpr ⟨hfield _ hv, ih hP⟩
  | dropped _ _ ih => exact ih (List.forall_mem_cons.mp hP).2

end Changed

/-- What is left of steady fields is steady, if the new values are. -/
theorem SteadyFields.changed {c : Conduct} {I : Session → Prop} {fields : List (Name × Value)}
    {texts : List (String × String)} (h : SteadyFields c I fields texts)
    {Q : Name × Value → Option Value → Prop} {fields' : List (Name × Value)}
    (hchanged : Changed Q (distinctFields fields) fields')
    (hsteady : ∀ field ∈ distinctFields fields, ∀ v, Q field (some v) →
      ∃ text, v.SteadyBy c I text) :
    ∃ texts', SteadyFields c I fields' texts' := by
  have hshown : ∀ {fields fields' texts}, Changed Q fields fields' → FieldsShown c I fields texts →
      (∀ field ∈ fields, ∀ v, Q field (some v) → ∃ text, v.SteadyBy c I text) →
      ∃ texts', FieldsShown c I fields' texts' := by
    intro fields fields' texts hchanged hshown hsteady
    induction hchanged generalizing texts with
    | nil => exact ⟨[], .nil⟩
    | kept hv _ ih =>
      obtain ⟨hfield, hsteady⟩ := List.forall_mem_cons.mp hsteady
      cases hshown with
      | cons hshown hrest =>
        obtain ⟨text, ht⟩ := hfield _ hv
        obtain ⟨texts', htexts'⟩ := ih hrest hsteady
        exact ⟨(_, text) :: texts', .cons ⟨hshown.1, ht.shown⟩ htexts'⟩
    | dropped _ _ ih =>
      cases hshown with
      | cons _ hrest => exact ih hrest (List.forall_mem_cons.mp hsteady).2
  obtain ⟨texts', htexts'⟩ := hshown hchanged h.shown hsteady
  refine ⟨texts', ?_, hchanged.forall_value hsteady, ?_⟩
  · refine h.names.mono fun k hk => ?_
    obtain ⟨field, hfield, rfl⟩ := List.mem_map.mp (hchanged.sublist.subset hk)
    exact SteadyFields.mem_names field hfield
  · rwa [distinctFields_of_nodup (hchanged.fieldTexts_nodup (nodup_distinctFields fields))]

/-- Entries are what is left of the fields that have been gone through, some time later. -/
structure LeftOf (Q : Name × Value → Option Value → Session → Prop) (known : List (Name × Value))
    (s : Session) (done : List (Name × Value)) (es : List Entry) (s' : Session) : Prop where
  /-- Some time has passed. -/
  later : s.LeadsTo s'
  /-- The fields are among those of which is known what becomes of them. -/
  mem : ∀ field ∈ done, field ∈ known
  /-- The entries are those of what is left. -/
  entries : ∃ fields', Changed (fun field v? => Q field v? s') done fields' ∧ es = keyedFields fields'

theorem LeftOf.leadsTo {Q : Name × Value → Option Value → Session → Prop}
    {known done : List (Name × Value)} {s s₁ s₂ : Session} {es : List Entry}
    (h : LeftOf Q known s done es s₁)
    (hQ : ∀ field ∈ known, ∀ v?, Q field v? s₁ → s₁.LeadsTo s₂ → Q field v? s₂)
    (hle : s₁.LeadsTo s₂) : LeftOf Q known s done es s₂ := by
  obtain ⟨hle₁, hdone, fields', hchanged, hes⟩ := h
  exact ⟨hle₁.trans hle, hdone, fields',
    hchanged.mono fun field hfield v? hv => hQ field (hdone field hfield) v? hv hle, hes⟩

/-- Keys select names of fields: they are all known, and each name is either chosen or not. -/
def Selects (c : Conduct) (I : Session → Prop) (s : Session) (factory : String)
    (fields : List (Name × Value)) (keys : Value) (chosen : Name → Bool) : Prop :=
  ∀ id place, s.heap.HoldsFields place fields →
    Settles c I s (Build.requireKnown factory (.view id (.ref place)) keys) fun selected s' =>
      s'.heap.HoldsFields place fields ∧ ∀ field ∈ fields,
        Steadily c I (containsMember selected (.ofName field.1)) (· = chosen field.1)

namespace Run

/-! ## Making -/

section Making

variable (host : Host) (n : Nat) {I : Session → Prop} {s : Session}
  {fields : List (Name × Value)} {texts : List (String × String)} {strict : Bool} {old : Nat}

theorem serveAsKeys_strict (hI : Session.Steadfast I) :
    Name.ServeAsKeys (Ask.conduct host (n + 1)) I [.kept strictKey] :=
  Name.serveAsKeys_of_text host n (fun _ hs => (hI.sound hs).intact)
    (fun _ hk => by rw [List.mem_singleton.mp hk]; rfl)
    (fun _ hk => by rw [List.mem_singleton.mp hk]; rfl)

theorem distinctFields_strictFields (strict : Bool) :
    distinctFields (Recipe.strictFields strict) = Recipe.strictFields strict :=
  distinctFields_of_nodup (List.pairwise_singleton _ _)

/-- Fields become a product with one predicate per name. -/
theorem settles_objectOfFields (hI : Session.Abiding I)
    (hold : ∀ s, I s → old ≤ s.heap.cells.size) (hs : I s)
    (hfields : SteadyFields (Ask.conduct host (n + 1)) I fields texts) :
    Settles (Ask.conduct host (n + 1)) I s (Build.objectOfFields fields strict)
      fun q s' => s'.Makes old (.object fields strict) (objectTitle texts strict) q := by
  rw [Build.objectOfFields]
  refine (settles_newView (Ask.conduct host (n + 1)) hI hs hfields.names
    fun _ hfield => List.mem_map_of_mem hfield).bind fun w s₁ _ hs₁ ⟨id, place, hw, hplace, hd⟩ => ?_
  subst hw
  -- From now on the first mapping is kept, and then both of them are.
  have hI₁ := hI.keeping [(place, distinctFields fields)]
  have hsize := hold s₁ hs₁
  have hs₁ : Session.Keeping I [(place, distinctFields fields)] s₁ := ⟨hs₁, by simpa using hd⟩
  refine (Settles.of_keeping [(place, distinctFields fields)] ?_).mono
    fun _ _ _ _ h => h.1
  have hstrict : ∀ field ∈ Recipe.strictFields strict, field.1 ∈ [Name.kept strictKey] :=
    fun _ hfield => by rw [List.mem_singleton.mp hfield]; exact List.mem_singleton_self _
  have hoptions := settles_newView (Ask.conduct host (n + 1)) hI₁ hs₁
    (serveAsKeys_strict host n hI₁.toSteadfast) hstrict
  rw [distinctFields_strictFields] at hoptions
  refine hoptions.bind fun w s₂ _ hs₂ ⟨id', place', hw, hplace', hd'⟩ => ?_
  subst hw
  let ds := [(place, distinctFields fields), (place', Recipe.strictFields strict)]
  have hJ : Session.Abiding (Session.Keeping I ds) := hI.keeping ds
  have hholds : ∀ s, Session.Keeping I ds s → s.heap.HoldsFields place (distinctFields fields) :=
    fun s hs => hs.2 _ List.mem_cons_self
  have hJs : Session.Keeping I ds s₂ := ⟨hs₂.1, by simpa [ds] using ⟨hs₂.2 _ List.mem_cons_self, hd'⟩⟩
  have hfields := hfields.keeping ds
  suffices h : Settles (Ask.conduct host (n + 1)) (Session.Keeping I ds) s₂ (do
      let allowed ← toMembers (.view id (.ref place))
      let shown ← Build.embeddedText (← Build.rendering (.view id (.ref place)))
      let name :=
        Operation.objectOf.name ++ "(" ++ shown ++ (if strict then ", strict=True" else "") ++ ")"
      Build.product Operation.objectOf.name [.view id (.ref place), .view id' (.ref place')] name
        (.object fields (if strict then some allowed else none)))
      fun q s' => s'.Makes old (.object fields strict) (objectTitle texts strict) q by
    obtain ⟨q, s', hexec, hle, hs', hq⟩ := h
    exact ⟨q, s', hexec, hle, ⟨hs'.1, fun d hd => hs'.2 d (by
      rw [List.mem_singleton.mp hd]; exact List.mem_cons_self)⟩, hq⟩
  refine (settles_toMembers hJ hholds hfields.names SteadyFields.mem_names hJs id hfields.identified
    (nodup_distinctFields fields)).bind fun allowed s₃ _ hs₃ hallowed => ?_
  subst hallowed
  refine (settles_rendering_view hJ hholds hfields.identified_name hfields.identified hfields.shown
    id hs₃).bind fun r s₄ _ hs₄ hr => ?_
  subst hr
  have htold : (Recipe.object fields strict).Told old s₄.heap
      [.view id (.ref place), .view id' (.ref place')] :=
    .object id place id' place' (Nat.le_trans (hold s hs) hplace) (Nat.le_trans hsize hplace')
      (hholds s₄ hs₄) (hs₄.2 _ (List.mem_cons_of_mem _ List.mem_cons_self))
  exact settles_product host n hJ.toSteadfast hs₄ htold _ rfl rfl

theorem settles_object (hI : Session.Abiding I) (hold : ∀ s, I s → old ≤ s.heap.cells.size)
    (hfields : SteadyFields (Ask.conduct host (n + 1)) I fields texts) {descriptor : Value}
    (hread : Settles (Ask.conduct host (n + 1)) I s
      (Build.requireFields Operation.objectOf.name descriptor) fun fs _ => fs = fields) :
    Settles (Ask.conduct host (n + 1)) I s (Build.object descriptor (.bool strict))
      fun q s' => s'.Makes old (.object fields strict) (objectTitle texts strict) q := by
  rw [Build.object]
  refine hread.bind fun fs s₁ _ hs₁ hfs => ?_
  subst hfs
  have hregular := hI.regular hs₁
  have hkind : exec (Ask.conduct host (n + 1)) (isOfKind (.bool strict) .bool) s₁ =
      .ok (Heap.start.hasKind (.kind .bool) .bool) s₁ := by
    rw [exec_isOfKind _ (hregular.readsAttributes (k := .bool) rfl rfl rfl),
      hregular.isOfKind (k := .bool) rfl rfl]
  exact .after hkind (settles_objectOfFields host n hI hold hs₁ hfields)

end Making

/-! ## Reading the recorded fields -/

section Reading

variable {c : Conduct} {I : Session → Prop} {s : Session} {place : Nat}
  {fields : List (Name × Value)}

/-- The written form of a primitive value can stand inside a longer text. -/
theorem settles_shown {v : Value} (happearance : exec c (appearance v) s = .ok .primitive s)
    {text : String} (hshown : v.Shown c I text) (hs : I s) :
    Settles c I s (shown v) fun _ _ => True := by
  have hshown := hshown []
  rw [Session.keeping_nil] at hshown
  obtain ⟨r, s₁, hr, hle, hs₁, w, rfl, -, hformatted⟩ := hshown s hs (.upTo 0) 0 []
  have hunfold : exec c (unfold (.upTo 0) 0 [] v) s = (exec c (write v) s).map .value := by
    rw [unfold, unfoldWith.eq_def, exec_bind, happearance, Ending.andThen_ok]
    exact exec_bind c s (write v) _
  have hwrite : exec c (write v) s = .ok w s₁ := by
    rw [hunfold] at hr
    rcases hm : exec c (write v) s with ⟨w', s'⟩ | ⟨e, s'⟩
    · rw [hm] at hr
      cases hr
      rfl
    · rw [hm] at hr
      cases hr
  obtain ⟨t, s₂, ht, hle₂, hs₂, -⟩ := hformatted s₁ hs₁
  refine ⟨t, s₂, ?_, hle.trans hle₂, hs₂, trivial⟩
  rw [shown, exec_bind, hwrite, Ending.andThen_ok, ht]

variable (hI : Session.Abiding I) {names : List Name} (hnames : Name.ServeAsKeys c I names)
include hI hnames

theorem settles_requireField {field : Name × Value} (hname : field.1 ∈ names) {text text' : String}
    (hshown : (Value.ofName field.1).Shown c I text) (hvalue : field.2.SteadyBy c I text')
    {w : Value} (hw : Yields .items field w) (hs : I s) (factory : String) :
    Settles c I s (Build.requireField factory w) fun r _ => r = field := by
  obtain ⟨id, rfl⟩ := hw
  obtain ⟨f, hsteady⟩ := hvalue
  rw [Build.requireField]
  refine .after (exec_unpackTwo c (hI.sound hs).intact id (hnames.identified hname)
    hsteady.presents_self.identified) ?_
  refine .after (hnames.isText hname hs) ?_
  rw [Value.name?_ofName, Option.filter_some, if_pos rfl]
  refine (settles_shown (hnames.appearance hname hs) hshown hs).bind fun _ s₁ _ hs₁ _ => ?_
  exact .after (exec_requireCallable hsteady.presents_self hs₁ factory _) (.of_exec_self hs₁ rfl rfl)

variable (hholds : ∀ s, I s → s.heap.HoldsFields place fields)
  (hfields : ∀ field ∈ fields, field.1 ∈ names) {texts : List (String × String)}
  (hsteady : ∀ field ∈ fields, ∃ text, field.2.SteadyBy c I text)
  (hshown : FieldsShown c I fields texts)
include hholds hfields hsteady hshown

/-- Reading a mapping as a descriptor gives its fields. -/
theorem settles_requireFields {d : Value} (hmapping : exec c (isOfKind d .mapping) s = .ok true s)
    (hlisting : exec c (listing .items d) s =
      .ok (.parts (.entries .items false (.ref place) 0 fields.length false) none) s)
    (hs : I s) (factory : String) :
    Settles c I s (Build.requireFields factory d) fun fs _ => fs = fields := by
  have hidentified : ∀ field ∈ fields, field.2.isIdentified = true := fun field hfield =>
    let ⟨_, h⟩ := hsteady field hfield
    h.identified
  have hname : ∀ field ∈ fields, ∃ text, (Value.ofName field.1).Shown c I text := by
    clear hholds hfields hsteady hidentified hlisting
    induction hshown with
    | nil => exact fun _ h => absurd h List.not_mem_nil
    | cons h _ ih => exact List.forall_mem_cons.mpr ⟨⟨_, h.1⟩, ih⟩
  rw [Build.requireFields]
  refine .after hmapping (.after hlisting (.after (exec_pure c s _) ?_))
  refine (settles_each (iterates_entries hI hholds (fun field hfield =>
    hnames.identified (hfields field hfield)) hidentified .items) (hasRoom_entries hholds .items 0)
    Eq ?_ hs).mono fun fs _ _ _ hfs => (List.forall₂_eq_eq_eq ▸ hfs : fields = fs).symm
  intro field hfield _ w s hw hs
  obtain ⟨text, ht⟩ := hname field hfield
  obtain ⟨text', hv⟩ := hsteady field hfield
  exact (settles_requireField hI hnames (hfields field hfield) ht hv hw hs factory).mono
    fun _ _ _ _ h => h.symm

end Reading

/-- Reading a dict as a descriptor gives its fields. -/
theorem settles_requireFields_dict {c : Conduct} {I : Session → Prop} {s : Session}
    (hI : Session.Abiding I) {fields : List (Name × Value)} {texts : List (String × String)}
    (hfields : SteadyFields c I fields texts) (hnodup : (fieldTexts fields).Nodup) {place : Nat}
    (hholds : ∀ s, I s → s.heap.HoldsFields place fields) (hs : I s) (factory : String) :
    Settles c I s (Build.requireFields factory (.ref place)) fun fs _ => fs = fields := by
  have hshown := hfields.shown
  rw [distinctFields_of_nodup hnodup] at hshown
  exact settles_requireFields hI hfields.names hholds (fun _ h => List.mem_map_of_mem h)
    hfields.values hshown (exec_isOfKind_dict _ (hI.regular hs) (hholds s hs) .mapping)
    (exec_listing _ (hI.regular hs) (hholds s hs) .items) hs _

/-! ## Deriving

A modifier is called for one field after the other, and each call may register something.  So what
is known of the first fields must survive the calls for the others. -/

section Deriving

variable (host : Host) (n : Nat) {I : Session → Prop} {s : Session}
  {fields : List (Name × Value)} {texts : List (String × String)} {strict : Bool} {p : Value}
  {title : String} {old old' : Nat}

/-- Whether a product is strict is found among its options. -/
theorem exec_item_strict (hI : Session.Abiding I) (hs : I s) {id place : Nat}
    (hstrict : s.heap.HoldsFields place (Recipe.strictFields strict)) :
    exec (Ask.conduct host (n + 1)) (item (.view id (.ref place)) (.keptText strictKey)) s =
      .ok (.bool strict) s := by
  refine exec_item_view (I := Session.Keeping I [(place, Recipe.strictFields strict)])
    (hI.keeping _) (fun s hs => hs.2 _ (List.mem_singleton_self _))
    (serveAsKeys_strict host n (hI.keeping _).toSteadfast) ?_ ⟨hs, by simpa using hstrict⟩ id
    (List.mem_singleton_self (Name.kept strictKey)) ?_
  · exact fun _ hfield => by rw [List.mem_singleton.mp hfield]; exact List.mem_singleton_self _
  · simp [Recipe.strictFields]

/-- The mapping that an `object_of` product is registered with, and whether it is strict, are found
through the metadata. -/
theorem exec_objectParts (hI : Session.Abiding I) (hs : I s)
    (hp : s.Makes old (.object fields strict) title p) (factory : String) :
    ∃ id place, exec (Ask.conduct host (n + 1)) (Build.objectParts factory p) s =
        .ok (.view id (.ref place), strict) s ∧
      s.heap.HoldsFields place (distinctFields fields) := by
  have hs' := hI.sound hs
  obtain ⟨metadata, _, _, args, -, htold, hmetadata, hfactory, harguments, -⟩ :=
    exec_metadata_makes host n hs' hp
  cases htold with
  | object id place id' place' _ _ hfields hstrict =>
    refine ⟨id, place, ?_, hfields⟩
    have hfound : exec (Ask.conduct host (n + 1)) (Build.objectMetadata factory p) s =
        .ok metadata s := by
      rw [Build.objectMetadata, exec_bind, hmetadata, Ending.andThen_ok]
      dsimp only
      rw [exec_bind, hfactory, Ending.andThen_ok, exec_bind]
      refine (congrArg (Ending.andThen · _) (exec_differ_text _ hs'.intact _ _ _ _)).trans ?_
      rw [Ending.andThen_ok, Recipe.factory, beq_self_eq_true, Bool.not_true,
        if_neg Bool.false_ne_true, exec_pure]
    rw [Build.objectParts, exec_bind, hfound, Ending.andThen_ok, exec_bind, harguments,
      Ending.andThen_ok, exec_bind, exec_unpackTwo _ hs'.intact _ rfl rfl, Ending.andThen_ok]
    dsimp only
    rw [exec_bind, exec_item_strict host n hI hs hstrict, Ending.andThen_ok, truth_bool]
    rfl

section Changing

variable {c : Conduct} {known : List (Name × Value)}
  {Q : Name × Value → Option Value → Session → Prop} {change : Value → Value → Run (Option Value)}
  (hfields : SteadyFields c I fields texts)
  (hchange : ∀ field ∈ known, SettlesFrom c I s (change (.ofName field.1) field.2) (Q field))

include hfields hchange

/-- Each entry adds a field to what is left, or adds nothing. -/
theorem settles_changedEntry (hI : Session.Abiding I) {done rest : List (Name × Value)}
    {field : Name × Value} (hsplit : distinctFields fields = done ++ field :: rest)
    (hfield : field ∈ known) {w : Value} (hw : Yields .items field w) {es : List Entry}
    {ds : List (Nat × List (Name × Value))} {s₁ : Session} (hs₁ : Session.Keeping I ds s₁)
    (hleft : LeftOf Q known s done es s₁) :
    Settles c (Session.Keeping I ds) s₁ (do
      let (key, pred) ← unpackTwo w
      match ← change key pred with
      | some pred => do insertEntry (← keyed key) pred es
      | none => return es) fun es s' => LeftOf Q known s (done ++ [field]) es s' := by
  obtain ⟨i, rfl⟩ := hw
  have hnames := hfields.names.keeping ds
  have hmem : field ∈ distinctFields fields := by rw [hsplit]; simp
  refine .after (exec_unpackTwo _ (hI.sound hs₁.1).intact i (hfields.identified_name field hmem)
    (hfields.identified field hmem)) ?_
  refine ((hchange field hfield).settles ds hleft.later hs₁).bind fun v? s₂ hle₂ hs₂ hv => ?_
  obtain ⟨hle, hdone, fields', hchanged, rfl⟩ := hleft.leadsTo (fun f hf _ => (hchange f hf).lasts) hle₂
  have hdone' : ∀ field' ∈ done ++ [field], field' ∈ known :=
    List.forall_mem_append.mpr ⟨hdone, List.forall_mem_singleton.mpr hfield⟩
  have hnew : field.1.text ∉ fieldTexts fields' := by
    have hnodup := nodup_distinctFields fields
    rw [hsplit, fieldTexts, List.map_append, List.map_cons] at hnodup
    intro hmem'
    have hdone := (hchanged.sublist.map Name.text).subset (by rwa [List.map_map])
    rw [List.map_map] at hdone
    exact (List.nodup_append.mp hnodup).2.2 _ hdone _ List.mem_cons_self rfl
  have hin : ∀ field' ∈ fields', field'.1 ∈ fields.map (·.1) := by
    intro field' hfield'
    obtain ⟨f, hf, heq⟩ := List.mem_map.mp (hchanged.sublist.subset (List.mem_map_of_mem hfield'))
    rw [← heq]
    exact SteadyFields.mem_names f (by rw [hsplit]; simp [hf])
  cases v? with
  | none =>
    exact .of_exec_self hs₂ (exec_pure _ s₂ _)
      ⟨hle, hdone', fields', by simpa using hchanged.snoc hv, rfl⟩
  | some v =>
    refine .after (hnames.exec_keyed hs₂ (SteadyFields.mem_names field hmem)) ?_
    refine .of_exec_self hs₂ (hnames.exec_insertEntry hs₂ (SteadyFields.mem_names field hmem) v hin)
      ⟨hle, hdone', _, hchanged.snoc hv, ?_⟩
    rw [insertField_of_notMem hnew]
    rfl

end Changing

/-- A computation has been run on values one after the other, and new identities may have been handed out
before each of them and after the last one. -/
inductive InTurn (c : Conduct) (m : Value → Run Value) (s : Session) : List Value → Session → Prop
  | start {i : Nat} (hi : s.heap.next ≤ i) : InTurn c m s [] (s.withNext i)
  | call {vs : List Value} {v w : Value} {t t' : Session} {i : Nat} (hturn : InTurn c m s vs t)
      (hv : exec c (m v) t = .ok w t') (hi : t'.heap.next ≤ i) :
      InTurn c m s (vs ++ [v]) (t'.withNext i)

theorem InTurn.withNext {c : Conduct} {m : Value → Run Value} {vs : List Value} {t : Session} {i : Nat}
    (h : InTurn c m s vs t) (hi : t.heap.next ≤ i) : InTurn c m s vs (t.withNext i) := by
  cases h with
  | start hj => exact .start (Nat.le_trans hj hi)
  | call hturn hv hj =>
    have hcall := InTurn.call hturn hv (Nat.le_trans hj hi)
    exact hcall

/-- A modifier has been called with the values of some fields in turn, and the names of the entries that have
come of it are among given ones. -/
structure ModifiedInTurn (c : Conduct) (I : Session → Prop) (modify : Value → Run Value) (s : Session)
    (names : List Name) (done : List (Name × Value)) (es : List Entry) (t : Session) : Prop where
  /-- The modifier has been called. -/
  turn : InTurn c modify s (done.map (·.2)) t
  /-- The session is a later one. -/
  later : s.LeadsTo t
  /-- The invariant holds. -/
  holds : I t
  /-- The entries have such names. -/
  entries : ∃ fields', es = keyedFields fields' ∧ ∀ field ∈ fields', field.1 ∈ names

theorem ModifiedInTurn.withNext {c : Conduct} {modify : Value → Run Value} {names : List Name}
    {done : List (Name × Value)} {es : List Entry} {t : Session} {i : Nat} (hI : Session.Steadfast I)
    (h : ModifiedInTurn c I modify s names done es t) (hi : t.heap.next ≤ i) :
    ModifiedInTurn c I modify s names done es (t.withNext i) :=
  have hadds : t.Adds (t.withNext i) := .withNext hi
  ⟨h.turn.withNext hi, h.later.trans hadds.leadsTo, hI.adds h.holds hadds, h.entries⟩

section Modifying

variable {c : Conduct} {modify : Value → Run Value} {done rest : List (Name × Value)}
  {field : Name × Value} (hfields : SteadyFields c I fields texts)
include hfields

theorem exec_unpackTwo_field (hI : Session.Steadfast I) (hs : I s)
    (hfield : field ∈ distinctFields fields) (i : Nat) :
    exec c (unpackTwo (.tuple (.kind .tuple) i [.ofName field.1, field.2])) s =
      .ok (.ofName field.1, field.2) s :=
  exec_unpackTwo _ (hI.sound hs).intact i (hfields.identified_name field hfield)
    (hfields.identified field hfield)

/-- A field is modified after others. -/
theorem exec_modifiedEntry (hI : Session.Steadfast I) (hfield : field ∈ distinctFields fields)
    {w : Value} (hw : Yields .items field w) {es : List Entry} {t : Session}
    (ht : ModifiedInTurn c I modify s (fields.map (·.1)) done es t)
    (hmodify : Settles c I t (modify field.2) fun _ _ => True) :
    ∃ es' t', exec c (do
        let (key, pred) ← unpackTwo w
        match ← some <$> modify pred with
        | some pred => do insertEntry (← keyed key) pred es
        | none => return es) t = .ok es' t' ∧
      ModifiedInTurn c I modify s (fields.map (·.1)) (done ++ [field]) es' t' := by
  obtain ⟨hturn, hle, hs, fields', rfl, hin⟩ := ht
  obtain ⟨i, rfl⟩ := hw
  have hname := SteadyFields.mem_names field hfield
  obtain ⟨v, t', hv, hle', ht', -⟩ := hmodify
  refine ⟨keyedFields (insertField field.1 v fields'), t', ?_, ?_, hle.trans hle', ht', _, rfl,
    forall_mem_insertField hname hin⟩
  · rw [exec_bind, exec_unpackTwo_field hfields hI hs hfield, Ending.andThen_ok]
    dsimp only
    rw [exec_bind, exec_map, hv, Ending.map, Ending.andThen_ok, Ending.andThen_ok]
    dsimp only
    rw [exec_bind, hfields.names.exec_keyed ht' hname, Ending.andThen_ok,
      hfields.names.exec_insertEntry ht' hname v hin]
  · rw [List.map_append]
    exact .call hturn hv (Nat.le_refl _)

/-- The fields before one are modified one after the other, if this settles.  If the modifier fails for that
one then, this is the end of it. -/
theorem exec_changedObject_interrupted (hI : Session.Abiding I)
    (hsplit : distinctFields fields = done ++ field :: rest)
    (hmodify : ∀ field ∈ done, SettlesFrom c I s (modify field.2) fun _ _ => True) (hs : I s)
    {place : Nat} (hd : s.heap.HoldsFields place (distinctFields fields)) (id : Nat) :
    ∃ t, InTurn c modify s (done.map (·.2)) t ∧ s.LeadsTo t ∧ I t ∧
      ∀ e t', exec c (modify field.2) t = .error e t' →
        exec c (Build.changedObject (fun _ v => some <$> modify v) (.view id (.ref place)) strict) s =
          .error e t' := by
  let ds := [(place, distinctFields fields)]
  have hJ : Session.Abiding (Session.Keeping I ds) := hI.keeping ds
  have hholds : ∀ s, Session.Keeping I ds s → s.heap.HoldsFields place (distinctFields fields) :=
    fun s hs => hs.2 _ List.mem_cons_self
  have hs : Session.Keeping I ds s := ⟨hs, by simpa [ds] using hd⟩
  have hfieldsJ := hfields.keeping ds
  obtain ⟨room, hlimit⟩ : ∃ room, exec c (limit (.entries .items false (.ref place) 0
      (distinctFields fields).length false)) s = .ok (room + 1 + done.length) s := by
    have hroom := hasRoom_entries hholds .items 0 s hs
    obtain ⟨room, hroom⟩ := Nat.exists_eq_add_of_lt hroom
    refine ⟨rest.length + 1 + room, (exec_limit c _).trans ?_⟩
    rw [hroom, hsplit, List.length_append, List.length_cons]
    congr 1
    omega
  obtain ⟨es, t, ht, hexec⟩ := exec_foldUpTo_entries (c := c)
    (P := ModifiedInTurn c (Session.Keeping I ds) modify s (fields.map (·.1)))
    (fun _ _ t ht => hholds t ht.holds) (fun _ _ _ _ hi ht => ht.withNext hJ.toSteadfast hi)
    hfields.identified_name hfields.identified hsplit
    (fun done' field' rest' hdone es w t hw ht => exec_modifiedEntry hfieldsJ hJ.toSteadfast
      (by rw [hsplit, hdone]; simp) hw ht
      ((hmodify field' (by rw [hdone]; simp)).settles ds ht.later ht.holds))
    (room + 1) ⟨.start (Nat.le_refl _), .refl s, hs, [], rfl, nofun⟩
  obtain ⟨w, i, hi, hw, j, rfl⟩ := exec_next_field (c := c) (hholds t ht.holds) hfields.identified_name
    hfields.identified .items (show (distinctFields fields)[done.length]? = some field by simp [hsplit])
  have ht' := ht.withNext hJ.toSteadfast hi
  refine ⟨t.withNext i, ht'.turn, ht'.later, ht'.holds.1, fun e t' he => ?_⟩
  rw [Build.changedObject, exec_bind, exec_listing_view _ (hJ.regular hs) hd, Ending.andThen_ok, exec_bind,
    openListing, exec_pure, Ending.andThen_ok, exec_bind, fold, exec_bind, hlimit, Ending.andThen_ok]
  refine (congrArg (Ending.andThen · _) hexec).trans ?_
  rw [foldUpTo, exec_bind, hw, Ending.andThen_ok]
  dsimp only
  rw [exec_bind, exec_bind, exec_unpackTwo_field hfieldsJ hJ.toSteadfast ht'.holds (by rw [hsplit]; simp),
    Ending.andThen_ok, exec_bind, exec_map, he]
  rfl

end Modifying

/-- The product of what is left of the recorded fields. -/
theorem settles_changedObject (hI : Session.Abiding I)
    (hold : ∀ s, I s → old ≤ s.heap.cells.size) (hs : I s)
    (hfields : SteadyFields (Ask.conduct host (n + 1)) I fields texts) {place : Nat}
    (hd : s.heap.HoldsFields place (distinctFields fields)) (id : Nat)
    {Q : Name × Value → Option Value → Session → Prop}
    {change : Value → Value → Run (Option Value)}
    (hchange : ∀ field ∈ distinctFields fields,
      SettlesFrom (Ask.conduct host (n + 1)) I s (change (.ofName field.1) field.2) (Q field))
    (hsteady : ∀ field ∈ distinctFields fields, ∀ v s', Q field (some v) s' →
      ∃ text, v.SteadyBy (Ask.conduct host (n + 1)) I text) :
    Settles (Ask.conduct host (n + 1)) I s
      (Build.changedObject change (.view id (.ref place)) strict) fun q s' =>
        ∃ fields' texts', Changed (fun field v? => Q field v? s') (distinctFields fields) fields' ∧
          SteadyFields (Ask.conduct host (n + 1)) I fields' texts' ∧
          s'.Makes old (.object fields' strict) (objectTitle texts' strict) q := by
  let ds := [(place, distinctFields fields)]
  have hJ : Session.Abiding (Session.Keeping I ds) := hI.keeping ds
  have hholds : ∀ s, Session.Keeping I ds s → s.heap.HoldsFields place (distinctFields fields) :=
    fun s hs => hs.2 _ List.mem_cons_self
  have hs : Session.Keeping I ds s := ⟨hs, by simpa [ds] using hd⟩
  refine (Settles.of_keeping ds ?_).mono fun _ _ _ _ h => h.1
  rw [Build.changedObject]
  refine .after (exec_listing_view _ (hJ.regular hs) (hholds s hs) .items id) ?_
  refine .after (exec_pure _ s _) ?_
  refine (settles_fold (iterates_entries hJ hholds hfields.identified_name hfields.identified .items)
    (hasRoom_entries hholds .items 0) (LeftOf Q (distinctFields fields) s)
    (fun _ _ _ _ hle _ hleft => hleft.leadsTo (fun f hf _ => (hchange f hf).lasts) hle) ?_ hs
    ⟨.refl s, fun _ h => absurd h List.not_mem_nil, [], .nil, rfl⟩).bind fun es s₁ _ hs₁ hleft => ?_
  · exact fun done field rest hsplit es w s₁ hw hs₁ hleft =>
      settles_changedEntry hfields hchange hI hsplit (by rw [hsplit]; simp) hw hs₁ hleft
  obtain ⟨_, _, fields', hchanged, rfl⟩ := hleft
  obtain ⟨texts', hfields'⟩ := hfields.changed hchanged fun field hfield v => hsteady field hfield v s₁
  -- What is left is put into a mapping, which is read as a descriptor again.
  refine .bind (P := fun v s' => ∃ place', v = .ref place' ∧ s'.heap.HoldsFields place' fields')
    ⟨.ref s₁.heap.cells.size, s₁.withDict (keyedFields fields'), rfl, s₁.leadsTo_withDict _,
      hJ.withDict hs₁ _, _, rfl, s₁.holdsFields_withDict fields'⟩
    fun v s₂ hle₂ hs₂ hv => ?_
  obtain ⟨place', rfl, hd'⟩ := hv
  let ds' := [(place', fields')]
  have hK : Session.Abiding (Session.Keeping (Session.Keeping I ds) ds') := hJ.keeping ds'
  have hs₂ : Session.Keeping (Session.Keeping I ds) ds' s₂ := ⟨hs₂, by simpa [ds'] using hd'⟩
  have hfieldsK := (hfields'.keeping ds).keeping ds'
  refine (Settles.of_keeping ds' ?_).mono fun _ _ _ _ h => h.1
  have hnodup := hchanged.fieldTexts_nodup (nodup_distinctFields fields)
  refine (settles_object host n hK (fun s hs => hold s hs.1.1) hfieldsK
    (settles_requireFields_dict hK hfieldsK hnodup (fun s hs => hs.2 _ List.mem_cons_self) hs₂
      _)).mono fun q s' hle' _ hq => ⟨fields', texts', hchanged.mono fun field hfield _ hv => ?_,
        hfields', hq⟩
  exact (hchange field hfield).lasts hv (hle₂.trans hle')

/-- The recorded mapping, taken as a descriptor. -/
theorem settles_object_view (hI : Session.Abiding I)
    (hold : ∀ s, I s → old ≤ s.heap.cells.size) (hs : I s)
    (hfields : SteadyFields (Ask.conduct host (n + 1)) I fields texts) {place : Nat}
    (hd : s.heap.HoldsFields place (distinctFields fields)) (id : Nat) :
    Settles (Ask.conduct host (n + 1)) I s (Build.object (.view id (.ref place)) (.bool strict))
      fun q s' => s'.Makes old (.object (distinctFields fields) strict) (objectTitle texts strict) q := by
  let ds := [(place, distinctFields fields)]
  have hJ : Session.Abiding (Session.Keeping I ds) := hI.keeping ds
  have hs : Session.Keeping I ds s := ⟨hs, by simpa [ds] using hd⟩
  have hfields := hfields.keeping ds
  refine (Settles.of_keeping ds ?_).mono fun _ _ _ _ h => h.1
  exact settles_object host n hJ (fun s hs => hold s hs.1) hfields.distinct (settles_requireFields hJ hfields.names
    (fun s hs => hs.2 _ List.mem_cons_self) SteadyFields.mem_names hfields.steady hfields.shown
    (exec_isOfKind_view _ (hJ.regular hs) id .mapping)
    (exec_listing_view _ (hJ.regular hs) hd .items id) hs _)

section Product

variable (hI : Session.Abiding I) (hold : ∀ s, I s → old ≤ s.heap.cells.size) (hs : I s)
  (hfields : SteadyFields (Ask.conduct host (n + 1)) I fields texts)
  (hp : s.Makes old' (.object fields strict) title p)
include hI hold hs hfields hp

/-- The product with every field modified. -/
theorem settles_modifiedObject {R : Value → Value → Session → Prop} {modify : Value → Run Value}
    (hmodify : ∀ field ∈ distinctFields fields,
      SettlesFrom (Ask.conduct host (n + 1)) I s (modify field.2) (R field.2))
    (hsteady : ∀ field ∈ distinctFields fields, ∀ v s', R field.2 v s' →
      ∃ text, v.SteadyBy (Ask.conduct host (n + 1)) I text) (factory : String) :
    Settles (Ask.conduct host (n + 1)) I s (Build.modifiedObject factory modify p) fun q s' =>
      ∃ fields' texts',
        Changed (fun field v? => ∃ v, v? = some v ∧ R field.2 v s') (distinctFields fields)
          fields' ∧
        SteadyFields (Ask.conduct host (n + 1)) I fields' texts' ∧
        s'.Makes old (.object fields' strict) (objectTitle texts' strict) q := by
  obtain ⟨id, place, hparts, hd⟩ := exec_objectParts host n hI hs hp factory
  rw [Build.modifiedObject]
  refine .after hparts (settles_changedObject host n hI hold hs hfields hd id
    (Q := fun field v? s' => ∃ v, v? = some v ∧ R field.2 v s') (fun field hfield => ⟨?_, ?_⟩) ?_)
  · intro ds s' hle hs'
    rw [map_eq_pure_bind]
    exact ((hmodify field hfield).settles ds hle hs').bind fun v s₁ _ hs₁ hv =>
      .of_exec_self hs₁ (exec_pure _ s₁ _) ⟨v, rfl, hv⟩
  · rintro v? s' s'' ⟨v, hv?, hv⟩ hle
    exact ⟨v, hv?, (hmodify field hfield).lasts hv hle⟩
  · rintro field hfield v s' ⟨_, heq, hv⟩
    cases heq
    exact hsteady field hfield v s' hv

omit hold in
/-- A field that a modifier fails for is the end of it, if those before can be modified. -/
theorem exec_modifiedObject_interrupted {done rest : List (Name × Value)} {field : Name × Value}
    (hsplit : distinctFields fields = done ++ field :: rest) {modify : Value → Run Value}
    (hmodify : ∀ field ∈ done,
      SettlesFrom (Ask.conduct host (n + 1)) I s (modify field.2) fun _ _ => True) (factory : String) :
    ∃ t, InTurn (Ask.conduct host (n + 1)) modify s (done.map (·.2)) t ∧ s.LeadsTo t ∧ I t ∧
      ∀ e t', exec (Ask.conduct host (n + 1)) (modify field.2) t = .error e t' →
        exec (Ask.conduct host (n + 1)) (Build.modifiedObject factory modify p) s = .error e t' := by
  obtain ⟨id, place, hparts, hd⟩ := exec_objectParts host n hI hs hp factory
  obtain ⟨t, hturn, hle, ht, herror⟩ :=
    exec_changedObject_interrupted hfields hI hsplit hmodify hs hd id
  refine ⟨t, hturn, hle, ht, fun e t' he => ?_⟩
  rw [Build.modifiedObject, exec_bind, hparts, Ending.andThen_ok]
  exact herror e t' he

omit hold in
/-- The product is refused with a field that is, if those before can be modified. -/
theorem refused_modifiedObject {done rest : List (Name × Value)} {field : Name × Value}
    (hsplit : distinctFields fields = done ++ field :: rest) {modify : Value → Run Value}
    (hmodify : ∀ field ∈ done,
      SettlesFrom (Ask.conduct host (n + 1)) I s (modify field.2) fun _ _ => True)
    {factory' : String}
    (hrefused : ∀ s', s.LeadsTo s' → I s' →
      Refused (Ask.conduct host (n + 1)) s' factory' (modify field.2)) (factory : String) :
    Refused (Ask.conduct host (n + 1)) s factory' (Build.modifiedObject factory modify p) := by
  obtain ⟨t, -, hle, ht, herror⟩ :=
    exec_modifiedObject_interrupted host n hI hs hfields hp hsplit hmodify factory
  obtain ⟨detail, t', he⟩ := hrefused t hle ht
  exact ⟨detail, t', herror _ t' he⟩

/-- The product with the selected fields, or with the others. -/
theorem settles_selectedObject {factory : String} {keys : Value} {chosen : Name → Bool}
    (hselect : Selects (Ask.conduct host (n + 1)) I s factory (distinctFields fields) keys chosen)
    (keep : Bool) :
    Settles (Ask.conduct host (n + 1)) I s (Build.selectedObject factory keep p keys) fun q s' =>
      ∃ fields' texts',
        Changed (fun field v? => v? = if chosen field.1 == keep then some field.2 else none)
          (distinctFields fields) fields' ∧
        SteadyFields (Ask.conduct host (n + 1)) I fields' texts' ∧
        s'.Makes old (.object fields' strict) (objectTitle texts' strict) q := by
  obtain ⟨id, place, hparts, hd⟩ := exec_objectParts host n hI hs hp factory
  rw [Build.selectedObject]
  refine .after hparts ((hselect id place hd).bind fun selected s₁ _ hs₁ ⟨hd₁, hchosen⟩ => ?_)
  refine settles_changedObject host n hI hold hs₁ hfields hd₁ id
    (Q := fun field v? _ => v? = if chosen field.1 == keep then some field.2 else none)
    (fun field hfield => Steadily.from ?_ s₁) ?_
  · intro ds s hs
    exact (hchosen field hfield ds s hs).bind fun b s₁ _ hs₁ hb =>
      .of_exec_self hs₁ (exec_pure _ s₁ _) (by rw [hb])
  · intro field hfield v _ hv
    split at hv
    · cases hv
      exact hfields.steady field hfield
    · cases hv

/-- The product in strict form. -/
theorem settles_strictObject :
    Settles (Ask.conduct host (n + 1)) I s (Build.strictObject p)
      fun q s' => s'.Makes old (.object (distinctFields fields) true) (objectTitle texts true) q := by
  obtain ⟨id, place, hparts, hd⟩ := exec_objectParts host n hI hs hp Operation.strictOf.name
  rw [Build.strictObject]
  exact .after hparts (settles_object_view host n hI hold hs hfields hd id)

end Product

end Deriving

end Run

end ValueShape
