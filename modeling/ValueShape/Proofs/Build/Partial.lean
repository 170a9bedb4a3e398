import ValueShape.Proofs.Build.Derivation
import ValueShape.Proofs.Build.Quiet

/-!
# Optional fields and back

`partial_of` makes every field of a product optional, and `required_of` takes the optional facet off
again.  How far these two undo each other depends on where the facets of the fields come from.

* `Value.HandBuilt` are callables that no modifier has built, as far as the register tells.  Such a
  callable keeps its optional facet: `Value.HandBuilt.refused`.
* `Sketch.handBuilt?` is the callable that the optional facet of a field comes from in this way.  If
  there is none, the facet can be taken off (`Sketch.isSome_makeRequired?`), and adding it first makes no
  difference (`Sketch.makeRequired?_makeOptional`).
* `ObjectSketch.pinned` puts callables themselves in the place of what is known about how they were
  built.  Products of one sketch have the same callables there (`FieldsDescribed.getElem?_pin`).
* `Build.object_partial_required` is the main result.
* Names are put together when a product is made, and a caller can register predicates of his own as
  products of a modifier.  Either makes a difference: `Build.partial_required_differ`.
-/

set_option autoImplicit false

namespace ValueShape

open Run

/-! ## Callables that no modifier has built

`make_required` goes by the register.  A callable that nobody has registered is left as it is, or it
is refused if it has the optional facet. -/

/-- Wherever an invariant holds, what the register tells of a callable names no modifier, and the name
of the callable can be shown. -/
structure Value.HandBuilt (c : Conduct) (I : Session → Prop) (v : Value) : Prop where
  /-- It has no metadata, or metadata that names no modifier. -/
  metadata {s : Session} (hs : I s) : Settles c I s (metadata? v) fun m? s' =>
    ∀ m ∈ m?, Settles c I s' (Build.wrapper? m) fun modifier? _ => modifier? = none
  /-- Its name can be shown. -/
  named {s : Session} (hs : I s) : Settles c I s (do shown (← displayName v)) fun _ _ => True

namespace Value.HandBuilt

variable (host : Host) (n : Nat) {I : Session → Prop}

/-- The optional facet of such a callable cannot be taken off. -/
theorem refused {v : Value} {r : Bool} (hv : v.HandBuilt (Ask.conduct host (n + 1)) I)
    (hpresents : v.Presents (Ask.conduct host (n + 1)) I ⟨true, r⟩) {s : Session} (hs : I s)
    (fuel : Nat) :
    Refused (Ask.conduct host (n + 1)) s Modifier.required.name (Build.requiredUpTo (fuel + 1) v) := by
  have hrefuse {s : Session} (hs : I s) : Refused (Ask.conduct host (n + 1)) s Modifier.required.name
      (do throw (.refusal Modifier.required.name ("cannot unwrap optional predicate " ++
        (← shown (← displayName v)) ++ ": it was not produced by make_optional")) : Run Value) := by
    have h := (hv.named hs).refused (k := fun text => (throw (.refusal Modifier.required.name
      ("cannot unwrap optional predicate " ++ text ++ ": it was not produced by make_optional")) :
        Run Value)) fun text s' _ _ _ => ⟨_, s', rfl⟩
    rwa [bind_assoc] at h
  rw [Build.requiredUpTo]
  refine .after (exec_requireCallable hpresents hs _ _)
    ((hpresents.optional hs).refused fun a s₁ _ hs₁ ha => ?_)
  subst ha
  rw [truth_bool, pure_bind, Bool.not_true, if_neg Bool.false_ne_true]
  refine (hv.metadata hs₁).refused fun m? s₂ _ hs₂ hm? => ?_
  cases m? with
  | none => exact hrefuse hs₂
  | some m =>
    refine (hm? m rfl).refused fun modifier? s₃ _ hs₃ hmodifier => ?_
    subst hmodifier
    exact hrefuse hs₃

/-- A discreet callable is one, if no modifier is told to have built it. -/
theorem of_discreet {c : Conduct} {v : Value} (hv : v.Discreet c I (Value.NamesNoModifier c I)) :
    v.HandBuilt c I where
  metadata hs := (hv.metadata hs).mono fun _ s' _ hs' ⟨_, hm⟩ m hmem =>
    (hm m hmem s' hs').mono fun _ _ _ _ h => h.2
  named hs := (hv.named hs).mono fun _ _ _ _ _ => trivial

/-- A predicate that is not registered is such a callable. -/
theorem of_unregistered (hI : Session.Abiding I) {id : Nat}
    (hid : ∀ s, I s → ∀ r ∈ s.register, r.key.hash.same (.token (.id id)) = false) (text : String)
    (idName : Nat) (f : Facets) (decider : Value) :
    (Value.predicate id ⟨text, .kind .text, idName⟩ f decider).HandBuilt (Ask.conduct host (n + 1)) I :=
  of_discreet (.of_unregistered host n hI.toSteadfast hid text idName f decider _)

end Value.HandBuilt

/-! ## The optional facet of a sketch -/

namespace Sketch

/-- The callable that the optional facet comes from, if no modifier has added it. -/
def handBuilt? : Sketch → Option Value
  | given v f _ => if f.optional then some v else none
  | optional _ => none
  | readonly k => k.handBuilt?

/-- The optional facet can be taken off, if it does not come from such a callable. -/
theorem isSome_makeRequired? (k : Sketch) : k.makeRequired?.isSome = k.handBuilt?.isNone := by
  induction k with
  | given v f text => rcases f with ⟨_ | _, r⟩ <;> rfl
  | optional k => rfl
  | readonly k ih =>
    cases hk : k.facets.optional with
    | true => rw [makeRequired?_readonly hk, Option.isSome_map, ih, handBuilt?]
    | false =>
      rw [makeRequired?_of_not (show k.readonly.facets.optional = false from hk), handBuilt?, ← ih,
        makeRequired?_of_not hk]
      rfl

theorem exists_makeRequired? {k : Sketch} (h : k.handBuilt? = none) :
    ∃ k', k.makeRequired? = some k' :=
  Option.isSome_iff_exists.mp (by rw [isSome_makeRequired?, h]; rfl)

theorem makeOptional_of_optional {k : Sketch} (h : k.facets.optional = true) :
    k.makeOptional = k := if_pos h

theorem makeOptional_of_not {k : Sketch} (h : k.facets.optional = false) :
    k.makeOptional = k.optional := by
  rw [makeOptional, h, if_neg Bool.false_ne_true]

theorem optional_makeOptional (k : Sketch) : k.makeOptional.facets.optional = true := by
  cases h : k.facets.optional with
  | true => rw [makeOptional_of_optional h, h]
  | false => rw [makeOptional_of_not h]; rfl

theorem handBuilt?_of_not {k : Sketch} (h : k.facets.optional = false) : k.handBuilt? = none := by
  have hsome := isSome_makeRequired? k
  rw [makeRequired?_of_not h] at hsome
  exact Option.isNone_iff_eq_none.mp hsome.symm

/-- To add the optional facet first makes no difference, once it is taken off. -/
theorem makeRequired?_makeOptional (k : Sketch) : k.makeOptional.makeRequired? = k.makeRequired? := by
  cases h : k.facets.optional with
  | true => rw [makeOptional_of_optional h]
  | false => rw [makeOptional_of_not h, makeRequired?_optional, makeRequired?_of_not h]

theorem handBuilt?_makeOptional (k : Sketch) : k.makeOptional.handBuilt? = k.handBuilt? := by
  cases h : k.facets.optional with
  | true => rw [makeOptional_of_optional h]
  | false => rw [makeOptional_of_not h, handBuilt?, handBuilt?_of_not h]

variable {c : Conduct} {I : Session → Prop} {s : Session} {k k' : Sketch} {v : Value}

/-- If the optional facet is taken off and added again, this does not show when the callable is asked. -/
theorem Describes.asked_makeOptional (host : Host) (hv : k.Describes c I s v)
    (hk' : k.makeRequired? = some k') : k'.makeOptional.asked host = k.makeOptional.asked host := by
  cases hfacets : k.facets.optional with
  | false =>
    rw [makeRequired?_of_not hfacets] at hk'
    rw [Option.some.inj hk']
  | true =>
    rw [makeOptional_of_optional hfacets]
    cases hv with
    | given => rw [makeRequired?_given hfacets] at hk'; cases hk'
    | optional _ hnot =>
      cases hk'
      rw [makeOptional_of_not hnot]
    | @readonly k v _ hv hnot =>
      have hfacets : k.facets.optional = true := hfacets
      rw [makeRequired?_readonly hfacets] at hk'
      cases hv with
      | given => rw [makeRequired?_given hfacets] at hk'; cases hk'
      | readonly => cases hnot
      | @optional k _ _ _ hk =>
        -- The layers change places.
        obtain rfl : k.makeReadonly = k' := Option.some.inj hk'
        have hreadonly : k.makeReadonly = k.readonly := by
          rw [makeReadonly, show k.facets.readonly = false from hnot, if_neg Bool.false_ne_true]
        rw [hreadonly, makeOptional_of_not (show k.readonly.facets.optional = false from hk)]
        funext x
        simp only [asked, Asked.accepts, Check.run, Check.yielding, Check.consult, bind_assoc, pure_bind, truth_bool, bind_pure]

/-- The optional facet of a callable that no modifier has built cannot be taken off, and neither can it
under a readonly layer. -/
theorem Describes.refused (host : Host) (n : Nat) (hI : Session.Abiding I)
    (hv : k.Describes (Ask.conduct host (n + 1)) I s v) {w : Value} (hk : k.handBuilt? = some w)
    (hw : w.HandBuilt (Ask.conduct host (n + 1)) I) {s' : Session} (hle : s.LeadsTo s') (hs' : I s') :
    Refused (Ask.conduct host (n + 1)) s' Modifier.required.name (Build.required v) := by
  rw [Build.required]
  refine .after (exec_get _ s') ?_
  cases hv with
  | @given v f text hv =>
    rcases f with ⟨_ | _, r⟩
    · cases hk
    · cases hk
      exact hw.refused host n hv.presents_self hs' _
  | optional => cases hk
  | @readonly k v _ hv hnot hmade =>
    cases hv with
    | optional => cases hk
    | readonly => cases hnot
    | @given v f text hv =>
      rcases f with ⟨_ | _, r⟩
      · cases hk
      · cases hk
        have hwraps := (wraps_readonly hmade).leadsTo hle
        obtain ⟨fuel, hfuel⟩ := Nat.exists_eq_succ_of_ne_zero hwraps.register_ne
        rw [hfuel]
        exact refused_required_readonly host n hI.toSteadfast hs' hwraps hv.presents_self.identified _
          fun s₁ _ hs₁ => hw.refused host n hv.presents_self hs₁ _

end Sketch

/-! ## Fields that are known themselves

A sketch tells how a field was built, but not which predicate it is.  Where the same predicate has
to come back, the callable itself takes the place of its sketch. -/

/-- The callable of a field itself, in the place of what is known about how it was built. -/
def FieldSketch.pin (k : FieldSketch) (v : Value) : FieldSketch :=
  { k with value := .given v k.value.facets k.value.text }

/-- Some of the fields with the callables themselves. -/
def pinnedFields (which : FieldSketch → Bool) (ks : List FieldSketch) (fields : List (Name × Value)) :
    List FieldSketch :=
  List.zipWith (fun k field => if which k then k.pin field.2 else k) ks fields

namespace FieldsDescribed

variable {c : Conduct} {I : Session → Prop} {s s' : Session} {ks : List FieldSketch}
  {fields fields' : List (Name × Value)}

theorem pinned (hI : Session.Abiding I) (h : FieldsDescribed c I s ks fields)
    (which : FieldSketch → Bool) :
    FieldsDescribed c I s (pinnedFields which ks fields) fields := by
  induction h with
  | nil => exact .nil
  | @cons k field ks fields hk _ ih =>
    refine .cons ?_ ih
    dsimp only
    split
    · exact ⟨hk.name, hk.shown, .given (hk.value.steady hI)⟩
    · exact hk

/-- A field keeps whatever is known of it both ways. -/
theorem map_pinned {α : Type} (h : FieldsDescribed c I s ks fields) (which : FieldSketch → Bool)
    {f : FieldSketch → α} (hf : ∀ k ∈ ks, ∀ v, which k = true → k.value.Describes c I s v →
      f (k.pin v) = f k) : (pinnedFields which ks fields).map f = ks.map f := by
  induction h with
  | nil => rfl
  | @cons k field ks fields hk _ ih =>
    obtain ⟨hhead, htail⟩ := List.forall_mem_cons.mp hf
    rw [pinnedFields, List.zipWith_cons_cons, List.map_cons, List.map_cons]
    refine congrArg₂ _ ?_ (ih htail)
    split
    · exact hhead _ ‹_› hk.value
    · rfl

theorem getElem? (h : FieldsDescribed c I s ks fields) {i : Nat} {k : FieldSketch}
    (hi : ks[i]? = some k) : ∃ field, fields[i]? = some field ∧ k.Describes c I s field := by
  induction h generalizing i with
  | nil => cases hi
  | @cons _ field _ _ hk _ ih =>
    cases i with
    | succ i => exact ih hi
    | zero =>
      cases hi
      exact ⟨field, rfl, hk⟩

/-- Fields that are not optional may be known themselves. -/
theorem forall_handBuilt?_pinned (h : FieldsDescribed c I s ks fields) (P : Option Value → Prop) :
    (∀ k ∈ pinnedFields (!·.value.facets.optional) ks fields, P k.value.handBuilt?) ↔
      ∀ k ∈ ks, P k.value.handBuilt? := by
  have hpinned := h.map_pinned (!·.value.facets.optional) (f := (·.value.handBuilt?))
    fun k _ v hk _ => by
      have hnot : k.value.facets.optional = false := by simpa using hk
      rw [Sketch.handBuilt?_of_not hnot]
      exact Sketch.handBuilt?_of_not (k := (k.pin v).value) hnot
  rw [← List.forall_mem_map (P := P), hpinned, List.forall_mem_map]

theorem forall_optional_pinned (h : FieldsDescribed c I s ks fields) (which : FieldSketch → Bool)
    (P : Bool → Prop) :
    (∀ k ∈ pinnedFields which ks fields, P k.value.facets.optional) ↔
      ∀ k ∈ ks, P k.value.facets.optional := by
  rw [← List.forall_mem_map (P := P),
    h.map_pinned which (f := (·.value.facets.optional)) fun _ _ _ _ _ => rfl, List.forall_mem_map]

/-- A field that is known itself is the same one in all products of a sketch. -/
theorem getElem?_pin (h : FieldsDescribed c I s ks fields) {i : Nat} {k : FieldSketch} {v : Value}
    (hi : ks[i]? = some (k.pin v)) : fields[i]? = some (k.name, v) := by
  obtain ⟨⟨name, w⟩, hfield, hname, -, hvalue⟩ := h.getElem? hi
  cases hvalue
  rw [hfield, ← (show k.name = name from hname)]

/-- If all fields are known themselves, there is only one such list. -/
theorem eq_of_pinned (h : FieldsDescribed c I s ks fields)
    (h' : FieldsDescribed c I s' (pinnedFields (fun _ => true) ks fields) fields') :
    fields' = fields := by
  induction h generalizing fields' with
  | nil => cases h'; rfl
  | @cons k field ks fields hk _ ih =>
    cases h' with
    | @cons _ field' _ fields' hk' hrest =>
      rcases field' with ⟨name, v⟩
      obtain ⟨hname, -, hvalue⟩ := hk'
      cases hvalue
      rw [ih hrest, ← (show k.name = name from hname), hk.name]

/-- Fields that are as sketched are steady, if their names serve as keys. -/
theorem steadyFields (hI : Session.Abiding I) (h : FieldsDescribed c I s ks fields)
    (hnames : Name.ServeAsKeys c I (fields.map (·.1))) (hnodup : (fieldTexts fields).Nodup) :
    SteadyFields c I fields (ks.map fun k => (k.shown, k.value.text)) where
  names := hnames
  values field hfield := by
    obtain ⟨k, -, hk⟩ := h.exists_sketch field hfield
    exact ⟨_, _, hk.value.steady hI⟩
  shown := by
    rw [distinctFields_of_nodup hnodup]
    exact List.forall₂_map_right_iff.mpr
      (h.flip.imp fun _ _ hk => ⟨hk.name ▸ hk.shown, (hk.value.steady hI).shown⟩)

theorem append_cons {done rest : List FieldSketch} {k : FieldSketch}
    (h : FieldsDescribed c I s (done ++ k :: rest) fields) :
    ∃ done' field rest', fields = done' ++ field :: rest' ∧ FieldsDescribed c I s done done' ∧
      k.Describes c I s field := by
  induction done generalizing fields with
  | nil =>
    cases h with
    | cons hk _ => exact ⟨[], _, _, rfl, .nil, hk⟩
  | cons k' done ih =>
    cases h with
    | @cons _ field' _ _ hk' hrest =>
      obtain ⟨done', field, rest', rfl, hdone, hk⟩ := ih hrest
      exact ⟨field' :: done', field, rest', rfl, .cons hk' hdone, hk⟩

end FieldsDescribed

/-! ## Products -/

namespace Derivation

theorem fields_partialOf (o : ObjectSketch) : (partialOf.sketch o).fields =
    o.fields.map fun k => { k with value := k.value.makeOptional } :=
  congrFun List.filterMap_eq_map' o.fields

theorem fields_requiredOf {o : ObjectSketch} (h : ∀ k ∈ o.fields, k.value.handBuilt? = none) :
    (requiredOf.sketch o).fields =
      o.fields.map fun k => { k with value := k.value.makeRequired?.getD k.value } := by
  refine List.filterMap_eq_map_iff_forall_eq_some.mpr fun k hk => ?_
  obtain ⟨value, hvalue⟩ := Sketch.exists_makeRequired? (h k hk)
  rw [change, hvalue]
  rfl

/-- Making the fields optional first makes no difference, once they are required again. -/
theorem requiredOf_partialOf (o : ObjectSketch) :
    requiredOf.sketch (partialOf.sketch o) = requiredOf.sketch o := by
  refine congrArg (ObjectSketch.mk · o.strict) ?_
  rw [fields_partialOf, List.filterMap_map]
  refine List.filterMap_congr fun k _ => ?_
  simp only [Function.comp, change, Sketch.makeRequired?_makeOptional]

/-- What is optional already is left as it is. -/
theorem partialOf_of_optional {o : ObjectSketch}
    (h : ∀ k ∈ o.fields, k.value.facets.optional = true) : partialOf.sketch o = o := by
  refine congrArg (ObjectSketch.mk · o.strict) ((fields_partialOf o).trans ?_)
  refine (List.map_congr_left fun k hk => ?_).trans (List.map_id _)
  rw [Sketch.makeOptional_of_optional (h k hk)]
  rfl

/-- What is not optional is left as it is. -/
theorem requiredOf_of_not {o : ObjectSketch}
    (h : ∀ k ∈ o.fields, k.value.facets.optional = false) : requiredOf.sketch o = o := by
  refine congrArg (ObjectSketch.mk · o.strict) ?_
  refine (List.filterMap_congr fun k hk => ?_).trans List.filterMap_some
  rw [change, Sketch.makeRequired?_of_not (h k hk)]
  rfl

theorem applies_requiredOf {c : Conduct} {I : Session → Prop} {o : ObjectSketch}
    (h : ∀ k ∈ o.fields, k.value.handBuilt? = none) : requiredOf.Applies c I o :=
  .requiredOf fun k hk => by rw [Sketch.isSome_makeRequired?, h k hk]; rfl

theorem forall_handBuilt?_partialOf (o : ObjectSketch) (P : Option Value → Prop) :
    (∀ k ∈ (partialOf.sketch o).fields, P k.value.handBuilt?) ↔
      ∀ k ∈ o.fields, P k.value.handBuilt? := by
  rw [fields_partialOf, List.forall_mem_map]
  simp only [Sketch.handBuilt?_makeOptional]

theorem names_partialOf (o : ObjectSketch) :
    (partialOf.sketch o).fields.map (·.name) = o.fields.map (·.name) := by
  rw [fields_partialOf, List.map_map]
  rfl

theorem names_requiredOf {o : ObjectSketch} (h : ∀ k ∈ o.fields, k.value.handBuilt? = none) :
    (requiredOf.sketch o).fields.map (·.name) = o.fields.map (·.name) := by
  rw [fields_requiredOf h, List.map_map]
  rfl

end Derivation

namespace ObjectSketch

/-- What is known of a product of leaves. -/
def ofLeaves (leaves : List (String × Leaf)) (strict : Bool) : ObjectSketch where
  fields := leaves.map fun leaf => ⟨.kept leaf.1, String.ofList (quote leaf.1.toList),
    .given (.leaf leaf.2) .none (shownFunctionName leaf.2.name)⟩
  strict := strict

theorem fieldsDescribed_leaves (host : Host) (n : Nat) {I : Session → Prop} (hI : Session.Abiding I)
    (hU : ∀ s, I s → s.Untouched) (leaves : List (String × Leaf)) (strict : Bool) (s : Session) :
    FieldsDescribed (Ask.conduct host (n + 1)) I s (ofLeaves leaves strict).fields
      (leaves.map fun leaf => (.kept leaf.1, .leaf leaf.2)) :=
  List.forall₂_map_left_iff.mpr (List.forall₂_map_right_iff.mpr (List.forall₂_same.mpr
    fun leaf _ => ⟨rfl, shown_text hI host n lasting leaf.1, .given (steady_leaf hI hU leaf.2)⟩))

/-- A descriptor of the built-in class with leaves makes such a product. -/
theorem settles_ofLeaves (host : Host) (n : Nat) {I : Session → Prop} {s : Session}
    (hI : Session.Abiding I) (hU : ∀ s, I s → s.Untouched) (leaves : List (String × Leaf))
    (hnodup : (leaves.map (·.1)).Nodup) {place : Nat} (hholds : ∀ s, I s → s.heap.HoldsFields place
      (leaves.map fun leaf => (.kept leaf.1, .leaf leaf.2))) (hs : I s) (strict : Bool) :
    Settles (Ask.conduct host (n + 1)) I s (Build.object (.ref place) (.bool strict)) fun p s' =>
      (ofLeaves leaves strict).Describes (Ask.conduct host (n + 1)) I s' 0 p := by
  have hfields := SteadyFields.of_leaves host n hI hU leaves hnodup
  have htexts : (fieldTexts (leaves.map fun leaf => (Name.kept leaf.1, Value.leaf leaf.2))).Nodup := by
    simpa [fieldTexts, Function.comp_def, Name.kept] using hnodup
  have hsame : (ofLeaves leaves strict).texts = leaves.map fun leaf =>
      (String.ofList (quote leaf.1.toList), shownFunctionName leaf.2.name) := List.map_map
  refine (settles_object host n hI (fun _ _ => Nat.zero_le _) hfields
    (settles_requireFields_dict hI hfields htexts hholds hs Operation.objectOf.name)).mono
      fun p s' _ _ hp => ?_
  rw [Describes, hsame]
  exact ⟨_, hfields, htexts, hp, fieldsDescribed_leaves host n hI hU leaves strict s'⟩

/-- What a product asks depends on the names of its fields, what is asked of them, and whether it is
strict. -/
theorem asks_congr {host : Host} {o o' : ObjectSketch} (hstrict : o.strict = o'.strict)
    (hasked : o.fields.map (fun k => (k.name, k.value.asked host)) =
      o'.fields.map fun k => (k.name, k.value.asked host)) (x : Value) :
    o.asks host x = o'.asks host x := by
  have hkeys := congrArg (List.map (·.1.key)) hasked
  rw [List.map_map, List.map_map] at hkeys
  change o.fields.map (·.name.key) = o'.fields.map (·.name.key) at hkeys
  rw [asks, asks, hstrict, hasked, hkeys]

variable {I : Session → Prop} {s : Session} {old : Nat} {o : ObjectSketch} {p : Value}

/-- Requiring the fields first makes no difference to what is asked, once they are optional again. -/
theorem asks_partialOf_requiredOf (host : Host) {c : Conduct} {fields : List (Name × Value)}
    (h : FieldsDescribed c I s o.fields fields)
    (hnone : ∀ k ∈ o.fields, k.value.handBuilt? = none) (x : Value) :
    (Derivation.partialOf.sketch (Derivation.requiredOf.sketch o)).asks host x =
      (Derivation.partialOf.sketch o).asks host x := by
  refine asks_congr (by rfl) ?_ x
  rw [Derivation.fields_partialOf, Derivation.fields_partialOf, Derivation.fields_requiredOf hnone,
    List.map_map, List.map_map, List.map_map]
  refine List.map_congr_left fun k hk => congrArg (Prod.mk k.name) ?_
  obtain ⟨i, hi⟩ := List.mem_iff_getElem?.mp hk
  obtain ⟨field, -, hdescribes⟩ := h.getElem? hi
  obtain ⟨value, hvalue⟩ := Sketch.exists_makeRequired? (hnone k hk)
  have hasked := hdescribes.value.asked_makeOptional host hvalue
  simpa only [Function.comp, hvalue, Option.getD_some] using hasked

/-- The fields before the first one that no modifier has made optional are required one after the other.  If
that field is refused then, so is the product. -/
theorem exec_requiredObject_interrupted (host : Host) (n : Nat) (hI : Session.Abiding I) (hs : I s)
    {fields : List (Name × Value)} {texts : List (String × String)} {title : String}
    (hsteady : SteadyFields (Ask.conduct host (n + 1)) I fields texts)
    (hmade : s.Makes old (.object fields o.strict) title p)
    (hdescribed : FieldsDescribed (Ask.conduct host (n + 1)) I s o.fields (distinctFields fields))
    (hsome : ¬∀ k ∈ o.fields, k.value.handBuilt? = none) :
    ∃ done field rest t, distinctFields fields = done ++ field :: rest ∧
      InTurn (Ask.conduct host (n + 1)) Build.required s (done.map (·.2)) t ∧ s.LeadsTo t ∧ I t ∧
      (∃ k ∈ o.fields, k.value.handBuilt?.isSome = true ∧
        k.value.Describes (Ask.conduct host (n + 1)) I s field.2) ∧
      ∀ e t', exec (Ask.conduct host (n + 1)) (Build.required field.2) t = .error e t' →
        exec (Ask.conduct host (n + 1)) (Build.requiredObject p) s = .error e t' := by
  have hsome : (o.fields.find? (·.value.handBuilt?.isSome)).isSome = true := by
    simpa [Option.isSome_iff_ne_none] using hsome
  obtain ⟨k, hk⟩ := Option.isSome_iff_exists.mp hsome
  obtain ⟨hstuck, ks, ks', hsplit, hdone⟩ := List.find?_eq_some_iff_append.mp hk
  have hmem : k ∈ o.fields := by rw [hsplit]; simp
  rw [hsplit] at hdescribed
  obtain ⟨done, field, rest, hsplit', hdone', hfield⟩ := hdescribed.append_cons
  have hsettled : ∀ f ∈ done, SettlesFrom (Ask.conduct host (n + 1)) I s (Build.required f.2)
      fun _ _ => True := by
    intro f hf
    obtain ⟨k', hk', hdescribes⟩ := hdone'.exists_sketch f hf
    obtain ⟨value, hvalue⟩ := Sketch.exists_makeRequired? (by simpa using hdone k' hk')
    have hsettles := Sketch.settlesFrom_required host n hI hdescribes.value hvalue
    exact ⟨fun ds s' hle hs' => (hsettles.settles ds hle hs').mono fun _ _ _ _ _ => trivial,
      fun _ _ => trivial⟩
  obtain ⟨t, hturn, hle, ht, herror⟩ := exec_modifiedObject_interrupted host n hI hs hsteady hmade
    hsplit' hsettled Operation.requiredOf.name
  exact ⟨done, field, rest, t, hsplit', hturn, hle, ht, ⟨k, hmem, hstuck, hfield.value⟩, herror⟩

/-- A field that no modifier has made optional cannot be required. -/
theorem Records.refused_required (host : Host) (n : Nat) (hI : Session.Abiding I) (hs : I s)
    (hp : o.Records (Ask.conduct host (n + 1)) I s old p)
    (hhand : ∀ k ∈ o.fields, ∀ v ∈ k.value.handBuilt?, v.HandBuilt (Ask.conduct host (n + 1)) I)
    (hsome : ¬∀ k ∈ o.fields, k.value.handBuilt? = none) :
    Refused (Ask.conduct host (n + 1)) s Modifier.required.name (Build.requiredObject p) := by
  obtain ⟨fields, texts, title, hsteady, hmade, hdescribed⟩ := hp
  obtain ⟨_, _, _, t, -, -, hle, ht, ⟨k, hk, hstuck, hvalue⟩, herror⟩ :=
    exec_requiredObject_interrupted host n hI hs hsteady hmade hdescribed hsome
  obtain ⟨v, hv⟩ := Option.isSome_iff_exists.mp hstuck
  obtain ⟨detail, t', hrefused⟩ := hvalue.refused host n hI hv (hhand k hk v hv) hle ht
  exact ⟨detail, t', herror _ t' hrefused⟩

/-- What is known of a product, with some of its fields known themselves. -/
def pinned (which : FieldSketch → Bool) (o : ObjectSketch) (fields : List (Name × Value)) :
    ObjectSketch :=
  { o with fields := pinnedFields which o.fields fields }

section Pinned

variable {c : Conduct} {fields : List (Name × Value)}
  (hdescribed : FieldsDescribed c I s o.fields fields) (which : FieldSketch → Bool)
include hdescribed

theorem texts_pinned : (o.pinned which fields).texts = o.texts :=
  hdescribed.map_pinned which fun _ _ _ _ _ => rfl

theorem describes_pinned (hI : Session.Abiding I) (hfields : SteadyFields c I fields o.texts)
    (hnodup : (fieldTexts fields).Nodup)
    (hp : s.Makes old (.object fields o.strict) (objectTitle o.texts o.strict) p) :
    (o.pinned which fields).Describes c I s old p := by
  rw [Describes, texts_pinned hdescribed]
  exact ⟨fields, hfields, hnodup, hp, hdescribed.pinned hI which⟩

end Pinned

/-- Fields have the same names in the same order as those of a product, and the ones that are not
optional there are the same. -/
structure RequiredAlike (o : ObjectSketch) (fields fields' : List (Name × Value)) : Prop where
  /-- The names are the same. -/
  names : fields'.map (·.1) = fields.map (·.1)
  /-- What is not optional is the same. -/
  same {i : Nat} {k : FieldSketch} (hk : o.fields[i]? = some k)
    (hfacets : k.value.facets.optional = false) : fields'[i]? = fields[i]?

theorem RequiredAlike.eq_of_not {fields fields' : List (Name × Value)}
    (h : o.RequiredAlike fields fields') (hlength : o.fields.length = fields.length)
    (hnot : ∀ k ∈ o.fields, k.value.facets.optional = false) : fields' = fields := by
  refine List.ext_getElem? fun i => ?_
  rcases hk : o.fields[i]? with - | k
  · have hlength' : fields'.length = fields.length := by simpa using congrArg List.length h.names
    rw [List.getElem?_eq_none_iff] at hk
    rw [List.getElem?_eq_none (by omega), List.getElem?_eq_none (by omega)]
  · exact h.same hk (hnot k (List.mem_of_getElem? hk))

/-- Fields that are not optional are the same ones after all fields have been required. -/
theorem requiredAlike {c : Conduct} {s' : Session} {fields fields' : List (Name × Value)}
    (h : FieldsDescribed c I s o.fields fields)
    (hnone : ∀ k ∈ o.fields, k.value.handBuilt? = none)
    (h' : FieldsDescribed c I s'
      (Derivation.requiredOf.sketch (o.pinned (!·.value.facets.optional) fields)).fields fields') :
    o.RequiredAlike fields fields' where
  names := by
    rw [← h'.names, ← h.names,
      Derivation.names_requiredOf ((h.forall_handBuilt?_pinned (· = none)).mpr hnone),
      ← h.map_pinned (!·.value.facets.optional) fun _ _ _ _ _ => rfl]
    rfl
  same {i k} hk hfacets := by
    obtain ⟨field, hfield, hdescribes⟩ := h.getElem? hk
    have hpin : (Derivation.requiredOf.sketch
        (o.pinned (!·.value.facets.optional) fields)).fields[i]? = some (k.pin field.2) := by
      rw [Derivation.fields_requiredOf ((h.forall_handBuilt?_pinned (· = none)).mpr hnone), List.getElem?_map,
        pinned, pinnedFields, List.getElem?_zipWith, hk, hfield]
      dsimp only
      rw [hfacets, Bool.not_false, if_pos rfl, Option.map_some, Sketch.makeRequired?_of_not
        (show (k.pin field.2).value.facets.optional = false from hfacets)]
      rfl
    rw [hfield, h'.getElem?_pin hpin, hdescribes.name]

end ObjectSketch

/-- Two callables do the same when they are called with a value, wherever the classes of the library
are intact: they give the same verdict, or fail in the same way. -/
def Value.SameVerdicts (c : Conduct) (v w : Value) : Prop :=
  ∀ s, s.Sound → ∀ x, exec c (call v [x]) s = exec c (call w [x]) s

theorem ObjectSketch.Describes.sameVerdicts (host : Host) (n : Nat) {c : Conduct}
    {I : Session → Prop} {s s' : Session} {old old' : Nat} {o o' : ObjectSketch} {p q : Value}
    (hp : o.Describes c I s old p) (hq : o'.Describes c I s' old' q)
    (hasks : ∀ x, o.asks host x = o'.asks host x) : p.SameVerdicts (Ask.conduct host (n + 1)) q := by
  intro t ht x
  rw [exec_call_of_sound host n ht, exec_call_of_sound host n ht, hp.callWith_eq host,
    hq.callWith_eq host, hasks]

namespace Build

/-- **Making the fields of a product optional, and requiring them again.**  The product `p` was made
by `object_of` from fields that list no name twice.  Those that have the optional facet got it from a
modifier, or else no modifier is known to have built what they got it from.  Then `partial_of` makes a
product `p₁` of optional fields, and

* `partial_of` makes a product of the very same fields of `p₁`,
* if no field of `p` is optional, `required_of` makes a product of the very same fields out of `p₁`
  again, with the same name as `p`, and it gives the same verdicts,
* if there is a field which no modifier has made optional, `required_of` refuses `p` as well as `p₁`,
* otherwise it makes products of both that have the same names in the same order, the same name, and
  give the same verdicts.  The fields that are not optional in `p` are the same.  If `partial_of` makes
  a product out of that again, it has the same names as `p₁` and gives the same verdicts.

They are all strict if `p` is. -/
theorem object_partial_required (host : Host) (n : Nat) {I : Session → Prop}
    (hI : Session.Abiding I) {s : Session} (hs : I s) {o : ObjectSketch} {p : Value}
    {fields : List (Name × Value)}
    (hnames : Name.ServeAsKeys (Ask.conduct host (n + 1)) I (fields.map (·.1)))
    (hnodup : (fieldTexts fields).Nodup)
    (hp : s.Makes 0 (.object fields o.strict) (objectTitle o.texts o.strict) p)
    (hdescribed : FieldsDescribed (Ask.conduct host (n + 1)) I s o.fields fields)
    (hhand : ∀ k ∈ o.fields, ∀ v ∈ k.value.handBuilt?, v.HandBuilt (Ask.conduct host (n + 1)) I) :
    let c := Ask.conduct host (n + 1)
    Settles c I s (partialObject p) fun p₁ s₁ => ∃ fields₁ title₁,
      s₁.Makes 0 (.object fields₁ o.strict) title₁ p₁ ∧ fields₁.map (·.1) = fields.map (·.1) ∧
      (Settles c I s₁ (partialObject p₁) fun p₂ s₂ =>
        s₂.Makes 0 (.object fields₁ o.strict) title₁ p₂) ∧
      ((∀ k ∈ o.fields, k.value.facets.optional = false) →
        Settles c I s₁ (requiredObject p₁) fun q s₂ =>
          s₂.Makes 0 (.object fields o.strict) (objectTitle o.texts o.strict) q ∧
            q.SameVerdicts c p) ∧
      ((¬∀ k ∈ o.fields, k.value.handBuilt? = none) →
        Refused c s Modifier.required.name (requiredObject p) ∧
          Refused c s₁ Modifier.required.name (requiredObject p₁)) ∧
      ((∀ k ∈ o.fields, k.value.handBuilt? = none) →
        Settles c I s (requiredObject p) fun q s₂ => ∃ fields₂ title₂,
          s₂.Makes 0 (.object fields₂ o.strict) title₂ q ∧ o.RequiredAlike fields fields₂ ∧
          (Settles c I s₁ (requiredObject p₁) fun q' s₃ => ∃ fields₃,
            s₃.Makes 0 (.object fields₃ o.strict) title₂ q' ∧ o.RequiredAlike fields fields₃ ∧
              q'.SameVerdicts c q) ∧
          Settles c I s₂ (partialObject q) fun p₂ s₃ => ∃ fields₃ title₃,
            s₃.Makes 0 (.object fields₃ o.strict) title₃ p₂ ∧
              fields₃.map (·.1) = fields₁.map (·.1) ∧ p₂.SameVerdicts c p₁) := by
  intro c
  have hold : ∀ s, I s → 0 ≤ s.heap.cells.size := fun _ _ => Nat.zero_le _
  have hfields : SteadyFields c I fields o.texts := hdescribed.steadyFields hI hnames hnodup
  -- What is not optional is known itself from here on.
  let o' := o.pinned (!·.value.facets.optional) fields
  have hdescribed' : FieldsDescribed c I s o'.fields fields := hdescribed.pinned hI _
  have hp' : o'.Describes c I s 0 p := ObjectSketch.describes_pinned hdescribed _ hI hfields hnodup hp
  have hrecords : o.Records c I s 0 p :=
    ObjectSketch.Describes.records ⟨fields, hfields, hnodup, hp, hdescribed⟩
  have hpartial : Settles c I s (partialObject p) fun p₁ s₁ =>
      (Derivation.partialOf.sketch o').Describes c I s₁ 0 p₁ :=
    Derivation.step host n hI hold hs hp'.records .partialOf
  refine hpartial.mono fun p₁ s₁ hle₁ hs₁ hp₁ => ?_
  have hhandBuilt (P : Option Value → Prop) :
      (∀ k ∈ (Derivation.partialOf.sketch o').fields, P k.value.handBuilt?) ↔
        ∀ k ∈ o.fields, P k.value.handBuilt? :=
    (Derivation.forall_handBuilt?_partialOf o' P).trans (hdescribed.forall_handBuilt?_pinned P)
  have hrequired (hnone : ∀ k ∈ o.fields, k.value.handBuilt? = none) :
      Settles c I s₁ (requiredObject p₁) fun q s₂ =>
        (Derivation.requiredOf.sketch o').Describes c I s₂ 0 q := by
    rw [← Derivation.requiredOf_partialOf]
    exact Derivation.step host n hI hold hs₁ hp₁.records
      (Derivation.applies_requiredOf ((hhandBuilt (· = none)).mpr hnone))
  have hdescribes₁ := hp₁
  obtain ⟨fields₁, hfields₁, hnodup₁, hmade₁, hdescribed₁⟩ := hp₁
  have hnames₁ : fields₁.map (·.1) = fields.map (·.1) := by
    rw [← hdescribed₁.names, ← hdescribed'.names, Derivation.names_partialOf]
  refine ⟨fields₁, _, hmade₁, hnames₁, ?_, fun hnot => ?_, fun hsome => ⟨?_, ?_⟩, fun hnone => ?_⟩
  · -- The fields are optional already, so they are left as they are.
    have hsame : Derivation.partialOf.sketch
        ((Derivation.partialOf.sketch o').pinned (fun _ => true) fields₁) =
          (Derivation.partialOf.sketch o').pinned (fun _ => true) fields₁ := by
      refine Derivation.partialOf_of_optional ((hdescribed₁.forall_optional_pinned _ (· = true)).mpr ?_)
      rw [Derivation.fields_partialOf, List.forall_mem_map]
      exact fun k _ => k.value.optional_makeOptional
    have hagain := Derivation.step host n hI hold hs₁
      (ObjectSketch.describes_pinned hdescribed₁ (fun _ => true) hI hfields₁ hnodup₁ hmade₁).records
      .partialOf
    rw [hsame] at hagain
    refine hagain.mono fun p₂ s₂ _ _ hp₂ => ?_
    obtain ⟨fields₂, -, -, hmade₂, hdescribed₂⟩ := hp₂
    rwa [hdescribed₁.eq_of_pinned hdescribed₂, ObjectSketch.texts_pinned hdescribed₁] at hmade₂
  · have hnone : ∀ k ∈ o.fields, k.value.handBuilt? = none :=
      fun k hk => Sketch.handBuilt?_of_not (hnot k hk)
    have hsame : Derivation.requiredOf.sketch o' = o' :=
      Derivation.requiredOf_of_not ((hdescribed.forall_optional_pinned _ (· = false)).mpr hnot)
    refine (hrequired hnone).mono fun q s₂ _ _ hq => ?_
    rw [hsame] at hq
    have hverdicts := hq.sameVerdicts host n hp' fun _ => rfl
    obtain ⟨fields₂, -, -, hmade₂, hdescribed₂⟩ := hq
    have halike : o.RequiredAlike fields fields₂ :=
      ObjectSketch.requiredAlike hdescribed hnone (by rwa [hsame])
    rw [halike.eq_of_not hdescribed.length_eq hnot, ObjectSketch.texts_pinned hdescribed] at hmade₂
    exact ⟨hmade₂, hverdicts⟩
  · exact hrecords.refused_required host n hI hs hhand hsome
  · exact hdescribes₁.records.refused_required host n hI hs₁
      ((hhandBuilt fun v? => ∀ v ∈ v?, v.HandBuilt c I).mpr hhand)
      (mt (hhandBuilt (· = none)).mp hsome)
  · have hnone' : ∀ k ∈ o'.fields, k.value.handBuilt? = none :=
      (hdescribed.forall_handBuilt?_pinned (· = none)).mpr hnone
    have hrequired₀ : Settles c I s (requiredObject p) fun q s₂ =>
        (Derivation.requiredOf.sketch o').Describes c I s₂ 0 q :=
      Derivation.step host n hI hold hs hp'.records
        (Derivation.applies_requiredOf hnone')
    refine hrequired₀.mono fun q s₂ _ hs₂ hq => ?_
    have hdescribes₂ := hq
    obtain ⟨fields₂, -, -, hmade₂, hdescribed₂⟩ := hq
    refine ⟨fields₂, _, hmade₂, ObjectSketch.requiredAlike hdescribed hnone hdescribed₂, ?_, ?_⟩
    · refine (hrequired hnone).mono fun q' s₃ _ _ hq' => ?_
      have hsame := hq'.sameVerdicts host n hdescribes₂ fun _ => rfl
      obtain ⟨fields₃, -, -, hmade₃, hdescribed₃⟩ := hq'
      exact ⟨fields₃, hmade₃, ObjectSketch.requiredAlike hdescribed hnone hdescribed₃, hsame⟩
    · have hagain : Settles c I s₂ (partialObject q) fun p₂ s₃ =>
          (Derivation.partialOf.sketch (Derivation.requiredOf.sketch o')).Describes c I s₃ 0 p₂ :=
        Derivation.step host n hI hold hs₂ hdescribes₂.records .partialOf
      refine hagain.mono fun p₂ s₃ _ _ hp₂ => ?_
      have hsame := hp₂.sameVerdicts host n hdescribes₁
        (ObjectSketch.asks_partialOf_requiredOf host hdescribed' hnone')
      obtain ⟨fields₃, -, -, hmade₃, hdescribed₃⟩ := hp₂
      refine ⟨fields₃, _, hmade₃, ?_, hsame⟩
      rw [← hdescribed₃.names, ← hdescribed₁.names, Derivation.names_partialOf,
        Derivation.names_requiredOf hnone', Derivation.names_partialOf]

/-- A strict product of a leaf and of a predicate that its caller has made optional himself. -/
theorem object_partial_required_custom :
    let c := Ask.conduct .none 3
    let custom := Value.predicate 5 ⟨"custom", .kind .text, 6⟩ ⟨true, false⟩ (.leaf .string)
    let fields : List (Name × Value) := [(.kept "a", .leaf .string), (.kept "b", custom)]
    let I := fun s : Session => Session.Keeping Session.Untouched [(0, fields)] s ∧
      5 < s.heap.next ∧ ∀ r ∈ s.register, r.key.hash.same (.token (.id 5)) = false
    let s := (Session.start.withDict (keyedFields fields)).withNext 7
    let o : ObjectSketch := ⟨[⟨.kept "a", "'a'", .given (.leaf .string) .none "is_string"⟩,
      ⟨.kept "b", "'b'", .given custom ⟨true, false⟩ "custom"⟩], true⟩
    (Session.Abiding I ∧ I s ∧ Name.ServeAsKeys c I (fields.map (·.1)) ∧ (fieldTexts fields).Nodup ∧
      ∀ k ∈ o.fields, ∀ v ∈ k.value.handBuilt?, v.HandBuilt c I) ∧
      ∃ p s₁, exec c (Build.object (.ref 0) (.bool true)) s = .ok p s₁ ∧
        s₁.Makes 0 (.object fields o.strict) (objectTitle o.texts o.strict) p ∧
        FieldsDescribed c I s₁ o.fields fields ∧
        Refused c s₁ Modifier.required.name (requiredObject p) ∧
        ∃ p₁ s₂, exec c (partialObject p) s₁ = .ok p₁ s₂ ∧
          Refused c s₂ Modifier.required.name (requiredObject p₁) := by
  intro c custom fields I s o
  have hI : Session.Abiding I := (Session.enduring_untouched.keeping _).abiding.unregistered 5
  have hs : I s := by
    refine ⟨⟨⟨rfl, rfl, rfl, by decide, nofun⟩, ?_⟩, by decide, nofun⟩
    exact List.forall_mem_singleton.mpr rfl
  have hnames : Name.ServeAsKeys c I (fields.map (·.1)) :=
    Name.serveAsKeys_of_text .none 2 (fun _ hs => (hI.sound hs).intact) (by decide) (by decide)
  have hdescribed (s : Session) : FieldsDescribed c I s o.fields fields :=
    .cons ⟨rfl, shown_text hI .none 2 lasting "a", .given (steady_leaf hI (fun _ hs => hs.1.1) .string)⟩
      (.cons ⟨rfl, shown_text hI .none 2 lasting "b",
        .given (steady_predicate hI (by decide) "custom" 6 ⟨true, false⟩ (.leaf .string))⟩ .nil)
  have hhand : ∀ k ∈ o.fields, ∀ v ∈ k.value.handBuilt?, v.HandBuilt c I := by
    refine List.forall_mem_cons.mpr ⟨nofun, List.forall_mem_singleton.mpr fun v hv => ?_⟩
    obtain rfl : custom = v := Option.some.inj hv
    exact .of_unregistered .none 2 hI (fun _ hs => hs.2.2) "custom" 6 ⟨true, false⟩ (.leaf .string)
  have hnodup : (fieldTexts fields).Nodup := by decide
  have hfields : SteadyFields c I fields o.texts := (hdescribed s).steadyFields hI hnames hnodup
  obtain ⟨p, s₁, hp, -, hs₁, hmade⟩ := settles_object .none 2 hI (fun _ _ => Nat.zero_le _) hfields
    (settles_requireFields_dict hI hfields hnodup (fun _ hs => hs.1.2 _ List.mem_cons_self) hs _)
  have hsome : ¬∀ k ∈ o.fields, k.value.handBuilt? = none := fun hnone =>
    nomatch hnone _ (List.mem_cons_of_mem _ List.mem_cons_self)
  obtain ⟨p₁, s₂, hp₁, -, -, -, -, -, -, -, -, hrefused, -⟩ := object_partial_required .none 2 hI hs₁
    hnames hnodup hmade (hdescribed s₁) hhand
  exact ⟨⟨hI, hs, hnames, hnodup, hhand⟩, p, s₁, hp, hmade, hdescribed s₁, (hrefused hsome).1, p₁, s₂,
    hp₁, (hrefused hsome).2⟩

/-! ## Names and metadata -/

/-- A function goes by another name after a product was made of it, and so does the product that is made
of the same field again.  A predicate that its caller has registered as the product of a modifier is
replaced by what it was registered with. -/
theorem partial_required_differ :
    (exec (Ask.conduct .none 5) (do
        let p ← Build.object (.ref 0) (.bool false)
        assignAttribute (.leaf .string) (.keptText Heap.nameField) Heap.nameField (.keptText "f")
        let q ← requiredObject (← partialObject p)
        return ((← displayName p).text?, (← displayName q).text?))
      (Session.start.withDict (keyedFields [(.kept "a", .leaf .string)]))).result? =
      some (some "object_of(\x7b'a': is_string\x7d)", some "object_of(\x7b'a': f\x7d)") ∧
    (exec (Ask.conduct .none 5) (do
        let v ← customProduct (.keptText Modifier.optional.name)
          (.tuple (.kind .tuple) 2 [.leaf .string]) (.leaf .number) .null (.bool true) (.bool false)
        let d ← alloc (.kind .dict) (.dict (keyedFields [(.kept "a", v)]))
        let p ← Build.object d (.bool false)
        let q ← partialObject (← requiredObject p)
        let r ← partialObject p
        return (← truth (← call q [.ref 0]), ← truth (← call r [.ref 0])))
      (Session.start.withDict (keyedFields [(.kept "a", .text "x")]))).result? =
      some (true, false) := by
  decide +kernel

end Build

end ValueShape
