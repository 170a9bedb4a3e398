import ValueShape.Proofs.Ask.Implication
import ValueShape.Proofs.Build.Absence

/-!
# Wider and narrower products

What `strict_of`, `required_of` and `partial_of` make of an `object_of` product, by what it accepts.

* `Sketch.accepts_makeOptional` says what an optional layer changes in the answers of a callable.  It
  accepts the absent value if a modifier has built it (`Sketch.accepts_undefined`).
* `ObjectSketch.Determined` says of a value that it always looks the same to the product of a sketch.  Then
  what one product finds implies what another one finds, if their callables do
  (`ObjectSketch.Determined.implies`).
* `Build.object_widening` is the main result.
* Predicates that are registered as products of a modifier without being such, and mappings that are
  changed while they are read, make a difference: `Build.widening_fails`.
-/

set_option autoImplicit false

namespace ValueShape

open Run

/-! ## Optional layers -/

namespace Sketch

variable {host : Host} {k k' : Sketch} {c : Conduct} {J : Session → Prop} {v : Value} {b? : Option Bool}

theorem accepts_optional (k : Sketch) (v : Value) : (k.optional.asked host).accepts v =
    if v.identical .undefined then pure true else (k.asked host).accepts v := by
  simp only [asked, Asked.accepts, Check.run, Check.yielding, Check.consult, bind_assoc, pure_bind,
    truth_bool, bind_pure]

theorem accepts_readonly (k : Sketch) (v : Value) :
    (k.readonly.asked host).accepts v = (k.asked host).accepts v := by
  simp only [asked, Asked.accepts, bind_assoc, pure_bind, truth_bool, bind_pure]

theorem accepts_makeReadonly (k : Sketch) (v : Value) :
    (k.makeReadonly.asked host).accepts v = (k.asked host).accepts v := by
  rw [makeReadonly]
  split
  · rfl
  · exact accepts_readonly k v

/-- An optional layer only changes the answer about the absent value. -/
theorem accepts_makeOptional (k : Sketch) (v : Value) : (k.makeOptional.asked host).accepts v =
    if !k.facets.optional && v.identical .undefined then pure true
    else (k.asked host).accepts v := by
  cases h : k.facets.optional with
  | true => rw [makeOptional_of_optional h]; rfl
  | false => rw [makeOptional_of_not h, accepts_optional]; rfl

/-- A callable that a modifier has made optional accepts the absent value. -/
theorem accepts_undefined (hoptional : k.facets.optional = true) (hhand : k.handBuilt? = none) :
    (k.asked host).accepts .undefined = pure true := by
  induction k with
  | given v f text =>
    rw [handBuilt?, if_pos (show f.optional = true from hoptional)] at hhand
    cases hhand
  | optional k => rw [accepts_optional]; rfl
  | readonly k ih => rw [accepts_readonly, ih hoptional hhand]

/-- What is taken off is an optional layer, under a readonly one or not. -/
theorem accepts_of_makeRequired? (host : Host) (hk' : k.makeRequired? = some k') (v : Value) :
    (k.asked host).accepts v = (k'.asked host).accepts v ∨
      (v.identical .undefined = true ∧ (k.asked host).accepts v = pure true) := by
  induction k generalizing k' with
  | given u f text =>
    cases h : (given u f text).facets.optional with
    | true => rw [makeRequired?_given h] at hk'; cases hk'
    | false =>
      rw [makeRequired?_of_not h] at hk'
      cases hk'
      exact .inl rfl
  | optional k =>
    obtain rfl : k = k' := Option.some.inj hk'
    rw [accepts_optional]
    split
    · exact .inr ⟨‹_›, rfl⟩
    · exact .inl rfl
  | readonly k ih =>
    rw [accepts_readonly]
    cases h : k.facets.optional with
    | true =>
      rw [makeRequired?_readonly h] at hk'
      obtain ⟨k'', hk'', rfl⟩ := Option.map_eq_some_iff.mp hk'
      rw [accepts_makeReadonly]
      exact ih hk''
    | false =>
      rw [makeRequired?_of_not (show k.readonly.facets.optional = false from h)] at hk'
      cases hk'
      rw [accepts_readonly]
      exact .inl rfl

theorem implies_makeOptional (h : Decides c J ((k.asked host).accepts v) b?) :
    Implies c J ((k.asked host).accepts v) J ((k.makeOptional.asked host).accepts v) := by
  rw [accepts_makeOptional]
  split
  · exact ⟨_, _, h, .pure true, fun _ => rfl⟩
  · exact .refl h

theorem implies_of_makeRequired? (hk' : k.makeRequired? = some k')
    (h : Decides c J ((k'.asked host).accepts v) b?) :
    Implies c J ((k'.asked host).accepts v) J ((k.asked host).accepts v) := by
  rcases accepts_of_makeRequired? host hk' v with hsame | ⟨-, htrue⟩
  · rw [hsame]
    exact .refl h
  · rw [htrue]
    exact ⟨_, _, h, .pure true, fun _ => rfl⟩

end Sketch

/-! ## Products

Both products are asked about one value, or about two values, one of which has fewer keys.  What
they find has to be known, but not how they come to it. -/

namespace ObjectSketch

/-- The check of a product. -/
def check (host : Host) (o : ObjectSketch) : Check Asked Value :=
  .object (o.fields.map fun k => (k.name, k.value.asked host))
    (if o.strict then some (o.fields.map (·.name.key)) else none)

/-- A value always looks the same to a product: whether it is a mapping, and if it is, what is found about
its keys, what is read under each name, and what the callable of that name says about that.  A loose
product does not look at the keys. -/
structure Determined (host : Host) (n : Nat) (J : Session → Prop) (x : Value) (o : ObjectSketch) :
    Prop where
  /-- The classes of the library are intact. -/
  sound (t : Session) (ht : J t) : t.Sound
  /-- Whether it is a mapping. -/
  mapping : ∃ b?, Decides (Ask.conduct host n) J (isOfKind x .mapping) b?
  /-- Whether its keys are allowed. -/
  keys (hx : Decides (Ask.conduct host n) J (isOfKind x .mapping) (some true))
    (hstrict : o.strict = true) :
    ∃ b?, Decides (Ask.conduct host n) J (Check.runKeys (o.fields.map (·.name.key)) x) b?
  /-- What is read under a name, and the answer about it. -/
  fields (hx : Decides (Ask.conduct host n) J (isOfKind x .mapping) (some true)) (k : FieldSketch)
    (hk : k ∈ o.fields) : ∃ v?, (∀ t, J t → ∃ t', exec (Ask.conduct host n)
        (guarded (getValue x (.ofName k.name) .undefined)) t = .ok v? t' ∧ J t') ∧
      ∀ v ∈ v?, ∃ b?, Decides (Ask.conduct host n) J ((k.value.asked host).accepts v) b?

/-- Products imply each other as their checks do. -/
theorem implies_of_asks (host : Host) (n : Nat) {J J' : Session → Prop} {o o' : ObjectSketch}
    {p q x x' : Value} (hp : Ask.callWith host p [x] = o.asks host x)
    (hq : Ask.callWith host q [x'] = o'.asks host x') (hJ : ∀ t, J t → t.Sound)
    (hJ' : ∀ t, J' t → t.Sound)
    (h : Implies (Ask.conduct host n) J ((o.check host).run x) J' ((o'.check host).run x')) :
    Implies (Ask.conduct host (n + 1)) J (do truth (← call p [x])) J' (do truth (← call q [x'])) :=
  h.after (fun t ht => exec_verdict host n hp (hJ t ht)) fun t ht => exec_verdict host n hq (hJ' t ht)

/-- What a product finds about its keys and fields implies what another one finds, if that has the same
names, and its callables accept what those of the first one do. -/
theorem Determined.implies {host : Host} {n : Nat} {J : Session → Prop} {x : Value} {o o' : ObjectSketch}
    {ks : List FieldSketch} {change change' : FieldSketch → Sketch} (h : o.Determined host n J x)
    (ho : o.fields = ks.map fun k => { k with value := change k })
    (ho' : o'.fields = ks.map fun k => { k with value := change' k })
    (hstrict : o'.strict = true → o.strict = true)
    (hfields : ∀ k ∈ ks, ∀ v b?,
      Decides (Ask.conduct host n) J (((change k).asked host).accepts v) b? →
        Implies (Ask.conduct host n) J (((change k).asked host).accepts v) J
          (((change' k).asked host).accepts v)) :
    Implies (Ask.conduct host n) J ((o.check host).run x) J ((o'.check host).run x) := by
  simp only [check, ho, ho', List.map_map]
  obtain ⟨b?, hmapping⟩ := h.mapping
  refine Check.implies_object hstrict (.refl hmapping) (fun hx hstrict => ?_) fun hx k hk => ?_
  · obtain ⟨b?, hkeys⟩ := h.keys hx hstrict
    rw [ho, List.map_map] at hkeys
    exact .refl hkeys
  · obtain ⟨v?, hget, hask⟩ := h.fields hx _ (ho ▸ List.mem_map_of_mem hk)
    refine Check.implies_runField hget fun v hv => ?_
    obtain ⟨b?, hb⟩ := hask v hv
    exact hfields k hk v b? hb

section Mapping

variable {host : Host} {n : Nat} {textOf : Key Value → Option String} {J J' : Session → Prop}
  {o : ObjectSketch} {x x' : Value} {es : List Entry}

/-- A mapping always looks the same, if the callables always say the same about what is stored. -/
theorem determined_of_stores
    (hx : x.Stores textOf (Ask.conduct host n) J (o.fields.map (·.name)) o.strict es)
    (hask : ∀ k ∈ o.fields, ∃ b?, Decides (Ask.conduct host n) J
      ((k.value.asked host).accepts ((storedUnder textOf es k.name).getD .undefined)) b?) :
    o.Determined host n J x where
  sound t ht := hx.spacious.sound ht
  mapping := ⟨_, hx.decides_mapping⟩
  keys _ hstrict := by
    have hkeys := hx.decides_runKeys hstrict
    rw [List.map_map] at hkeys
    exact ⟨_, hkeys⟩
  fields _ k hk := by
    refine ⟨_, hx.exec_get (List.mem_map_of_mem hk), fun v hv => ?_⟩
    obtain rfl := Option.some.inj hv
    exact hask k hk

/-- Names may be removed from a mapping that a product of optional fields accepts, if modifiers have made
them optional. -/
theorem implies_withoutNames {S : Finset String} (hhand : ∀ k ∈ o.fields, k.value.handBuilt? = none)
    (hoptional : ∀ k ∈ o.fields, k.value.facets.optional = true)
    (hx : x.Stores textOf (Ask.conduct host n) J (o.fields.map (·.name)) o.strict es)
    (hx' : x'.Stores textOf (Ask.conduct host n) J' (o.fields.map (·.name)) o.strict
      (withoutNames textOf S es))
    (hask : ∀ k ∈ o.fields, let v := (storedUnder textOf es k.name).getD .undefined
      ∃ b?, Decides (Ask.conduct host n) J ((k.value.asked host).accepts v) b? ∧
        (k.name.text ∉ S → Decides (Ask.conduct host n) J' ((k.value.asked host).accepts v) b?)) :
    Implies (Ask.conduct host n) J ((o.check host).run x) J' ((o.check host).run x') := by
  refine Check.implies_object id ⟨_, _, hx.decides_mapping, hx'.decides_mapping, id⟩
    (fun _ hstrict => ?_) fun _ k hk => ?_
  · have hkeys := hx.decides_runKeys hstrict
    have hkeys' := hx'.decides_runKeys hstrict
    rw [List.map_map] at hkeys hkeys'
    refine ⟨_, _, hkeys, hkeys', fun h => ?_⟩
    rw [allNamed_withoutNames textOf S es (Option.some.inj h)]
  · have hname : k.name ∈ o.fields.map (·.name) := List.mem_map_of_mem hk
    obtain ⟨b?, hb, hb'⟩ := hask k hk
    have hfield := hx.decides_runField hname hb
    by_cases hS : k.name.text ∈ S
    · refine ⟨_, some true, hfield, hx'.decides_runField hname ?_, fun _ => rfl⟩
      rw [storedUnder_withoutNames, if_pos hS, Option.getD_none,
        Sketch.accepts_undefined (hoptional k hk) (hhand k hk)]
      exact .pure true
    · refine ⟨_, _, hfield, hx'.decides_runField hname ?_, id⟩
      rw [storedUnder_withoutNames, if_neg hS]
      exact hb' hS

end Mapping

end ObjectSketch

/-! ## Derived products -/

namespace Derivation

theorem fields_strictOf (o : ObjectSketch) : (strictOf.sketch o).fields = o.fields :=
  List.filterMap_some

end Derivation

namespace Build

/-- **Derived products widen and narrow.**  The product `p` was made by `object_of` from fields that list
no name twice.  Wherever a value always looks the same,

* what `strict_of` makes of `p` only accepts what `p` accepts,
* and so does what `required_of` makes of `p`, if it does not refuse `p`, and if the optional facets of the
  fields come from modifiers, or from callables which no modifier is known to have built,
* what `partial_of` makes of `p` accepts whatever `p` accepts.  If all optional facets come from modifiers,
  and it accepts a mapping, then it accepts what is left when some names are removed from that. -/
theorem object_widening (host : Host) (n : Nat) {I : Session → Prop} (hI : Session.Abiding I)
    {s : Session} (hs : I s) {o : ObjectSketch} {fields : List (Name × Value)} {title : String}
    {p : Value} (hnames : Name.ServeAsKeys (Ask.conduct host (n + 1)) I (fields.map (·.1)))
    (hnodup : (fieldTexts fields).Nodup) (hp : s.Makes 0 (.object fields o.strict) title p)
    (hdescribed : FieldsDescribed (Ask.conduct host (n + 1)) I s o.fields fields) :
    let c := Ask.conduct host (n + 1)
    let Wider (o' : ObjectSketch) (q q' : Value) : Prop := ∀ J x, o'.Determined host n J x →
      Implies c J (do truth (← call q [x])) J (do truth (← call q' [x]))
    (Settles c I s (strictObject p) fun q _ => Wider (Derivation.strictOf.sketch o) q p) ∧
      ((∀ k ∈ o.fields, ∀ v ∈ k.value.handBuilt?, v.HandBuilt c I) → ∀ q s₁,
        exec c (requiredObject p) s = .ok q s₁ → Wider (Derivation.requiredOf.sketch o) q p) ∧
      Settles c I s (partialObject p) fun q _ => Wider o p q ∧
        ((∀ k ∈ o.fields, k.value.handBuilt? = none) →
          ∀ (textOf : Key Value → Option String) (J J' : Session → Prop) (x x' : Value)
            (es : List Entry) (S : Finset String),
          x.Stores textOf (Ask.conduct host n) J (o.fields.map (·.name)) o.strict es →
          x'.Stores textOf (Ask.conduct host n) J' (o.fields.map (·.name)) o.strict
            (withoutNames textOf S es) →
          (∀ k ∈ o.fields, let v := (storedUnder textOf es k.name).getD .undefined
            ∃ b?, Decides (Ask.conduct host n) J ((k.value.asked host).accepts v) b? ∧
              (k.name.text ∉ S →
                Decides (Ask.conduct host n) J' ((k.value.asked host).accepts v) b?)) →
          Implies c J (do truth (← call q [x])) J' (do truth (← call q [x']))) := by
  intro c Wider
  have hold : ∀ s, I s → 0 ≤ s.heap.cells.size := fun _ _ => Nat.zero_le _
  have hrecords : o.Records c I s 0 p := by
    refine ⟨fields, _, title, hdescribed.steadyFields hI hnames hnodup, hp, ?_⟩
    rwa [distinctFields_of_nodup hnodup]
  have hstep {d : Derivation} (hd : d.Applies c I o) :
      Settles c I s (d.apply p) fun q s' => (d.sketch o).Describes c I s' 0 q :=
    Derivation.step host n hI hold hs hrecords hd
  have hsame : o.fields = o.fields.map fun k => { k with value := k.value } :=
    (List.map_id _).symm
  -- What is made is compared with the product through their checks.
  have hasks := ObjectSketch.callWith_eq_asks host hp hnodup hdescribed
  have hwider {o₁ o₂ o' : ObjectSketch} {q q' : Value}
      (hq : ∀ x, Ask.callWith host q [x] = o₁.asks host x)
      (hq' : ∀ x, Ask.callWith host q' [x] = o₂.asks host x)
      (h : ∀ J x, o'.Determined host n J x → Implies (Ask.conduct host n) J ((o₁.check host).run x) J
        ((o₂.check host).run x)) : Wider o' q q' := fun J x hx =>
    ObjectSketch.implies_of_asks host n (hq x) (hq' x) hx.sound hx.sound (h J x hx)
  refine ⟨?_, fun hhand q s₁ hq => ?_, ?_⟩
  · refine (hstep .strictOf).mono fun q s₁ _ _ hq => hwider (hq.callWith_eq host) hasks fun J x hx => ?_
    exact hx.implies ((Derivation.fields_strictOf o).trans hsame) hsame (fun _ => rfl)
      fun k _ v b? hb => .refl hb
  · have hnone : ∀ k ∈ o.fields, k.value.handBuilt? = none := by
      by_contra hsome
      obtain ⟨_, _, hrefused⟩ := hrecords.refused_required host n hI hs hhand hsome
      cases hrefused.symm.trans hq
    obtain ⟨q', s', hq', -, -, hdescribes⟩ := hstep (Derivation.applies_requiredOf hnone)
    cases hq'.symm.trans hq
    refine hwider (hdescribes.callWith_eq host) hasks fun J x hx => ?_
    refine hx.implies (Derivation.fields_requiredOf hnone) hsame id fun k hk v b? hb => ?_
    obtain ⟨k', hk'⟩ := Sketch.exists_makeRequired? (hnone k hk)
    rw [hk', Option.getD_some] at hb ⊢
    exact Sketch.implies_of_makeRequired? hk' hb
  · refine (hstep .partialOf).mono fun q s₁ _ _ hq => ⟨hwider hasks (hq.callWith_eq host) fun J x hx => ?_, ?_⟩
    · exact hx.implies hsame (Derivation.fields_partialOf o) id
        fun k _ v b? hb => Sketch.implies_makeOptional hb
    · intro hnone textOf J J' x x' es S hx hx' hask
      refine ObjectSketch.implies_of_asks host n (hq.callWith_eq host x) (hq.callWith_eq host x')
        (fun _ ht => hx.spacious.sound ht)
        (fun _ ht => hx'.spacious.sound ht) ?_
      rw [← Derivation.names_partialOf] at hx hx'
      refine ObjectSketch.implies_withoutNames
        ((Derivation.forall_handBuilt?_partialOf o (· = none)).mpr hnone) ?_ hx hx' ?_
      · rw [Derivation.fields_partialOf]
        exact List.forall_mem_map.mpr fun k _ => k.value.optional_makeOptional
      · rw [Derivation.fields_partialOf]
        refine List.forall_mem_map.mpr fun k hk => ?_
        obtain ⟨b?, hb, hb'⟩ := hask k hk
        dsimp only
        rw [Sketch.accepts_makeOptional]
        split
        · exact ⟨some true, .pure true, fun _ => .pure true⟩
        · exact ⟨b?, hb, hb'⟩

/-- A product of two optional fields, and a mapping of the built-in class that has both of them.  If one of
them is removed, the other one is left. -/
theorem object_widening_pair :
    let c := Ask.conduct .none 3
    let leaves : List (String × Leaf) := [("a", .any), ("b", .any)]
    let fields : List (Name × Value) := leaves.map fun leaf => (.kept leaf.1, .leaf leaf.2)
    let own : List (Name × Value) := [(.kept "a", .null), (.kept "b", .null)]
    let rest : List (Name × Value) := [(.kept "a", .null)]
    let I := Session.Holding Session.Untouched [(0, ⟨.kind .dict, .dict (keyedFields fields)⟩),
      (1, ⟨.kind .dict, .dict (keyedFields own)⟩), (2, ⟨.kind .dict, .dict (keyedFields rest)⟩)]
    let verdict (q x : Value) : Run Bool := do truth (← call q [x])
    ∃ s p₀ s₀ p s₁ q s₂ r s₃ w s₄, I s ∧ exec c (object (.ref 0) (.bool false)) s = .ok p₀ s₀ ∧
      exec c (partialObject p₀) s₀ = .ok p s₁ ∧ exec c (strictObject p) s₁ = .ok q s₂ ∧
      exec c (requiredObject p) s₁ = .ok r s₃ ∧ exec c (partialObject p) s₁ = .ok w s₄ ∧
      Implies c I (verdict q (.ref 1)) I (verdict p (.ref 1)) ∧
      Implies c I (verdict r (.ref 1)) I (verdict p (.ref 1)) ∧
      Implies c I (verdict p (.ref 1)) I (verdict w (.ref 1)) ∧
      Implies c I (verdict w (.ref 1)) I (verdict w (.ref 2)) := by
  intro c leaves fields own rest I verdict
  have hI : Session.Spacious I := Session.spacious_untouched.holding _
  have hU : ∀ s, I s → s.Untouched := fun _ hs => hs.1
  let s : Session := { Session.start with heap := { Heap.start with
    cells := #[⟨.kind .dict, .dict (keyedFields fields)⟩, ⟨.kind .dict, .dict (keyedFields own)⟩,
      ⟨.kind .dict, .dict (keyedFields rest)⟩] } }
  have hs : I s := by
    refine ⟨⟨rfl, rfl, rfl, by decide, nofun⟩, ?_⟩
    exact List.forall_mem_cons.mpr ⟨rfl, List.forall_mem_cons.mpr ⟨rfl, List.forall_mem_singleton.mpr rfl⟩⟩
  have hcells : ∀ s, I s → s.heap.HoldsFields 0 fields ∧ s.heap.HoldsFields 1 own ∧
      s.heap.HoldsFields 2 rest := by
    rintro s ⟨-, hcells⟩
    simp only [List.forall_mem_cons] at hcells
    exact ⟨hcells.1, hcells.2.1, hcells.2.2.1⟩
  let o := ObjectSketch.ofLeaves leaves false
  obtain ⟨p₀, s₀, hp₀, -, hs₀, hmade₀⟩ := ObjectSketch.settles_ofLeaves .none 2 hI.enduring.abiding hU
    leaves (by decide) (fun s hs => (hcells s hs).1) hs false
  obtain ⟨p, s₁, hp, -, hs₁, hmade⟩ := Derivation.step .none 2 hI.enduring.abiding
    (fun _ _ => Nat.zero_le _) hs₀ hmade₀.records .partialOf
  have hnone : ∀ k ∈ o.fields, k.value.handBuilt? = none := List.forall_mem_map.mpr fun _ _ => rfl
  have hnone' : ∀ k ∈ (Derivation.partialOf.sketch o).fields, k.value.handBuilt? = none :=
    (Derivation.forall_handBuilt?_partialOf o (· = none)).mpr hnone
  obtain ⟨fields₁, hfields₁, hnodup₁, hproduct, hdescribed₁⟩ := id hmade
  obtain ⟨hstrict, hrequired, hpartial⟩ := object_widening .none 2 hI.enduring.abiding hs₁
    hfields₁.names hnodup₁ hproduct hdescribed₁
  obtain ⟨q, s₂, hq, -, -, hstrict⟩ := hstrict
  obtain ⟨r, s₃, hr, -⟩ := Derivation.step .none 2 hI.enduring.abiding (fun _ _ => Nat.zero_le _) hs₁
    hmade.records (Derivation.applies_requiredOf hnone')
  obtain ⟨w, s₄, hw, -, -, hpartial, hremoved⟩ := hpartial
  -- Both mappings store the names as they are.
  have hnames : Name.ServeAsKeys (Ask.conduct .none 2) I [.kept "a", .kept "b"] :=
    Name.serveAsKeys_of_text .none 1 (fun _ hs => (hI.sound hs).intact) (by decide) (by decide)
  have hstores (strict : Bool) : (Value.ref 1).Stores (·.value.text?) (Ask.conduct .none 2) I
      [.kept "a", .kept "b"] strict (keyedFields own) :=
    hnames.stores hI (fun s hs => (hcells s hs).2.1) (by decide) (by decide) strict
  have hrest : (Value.ref 2).Stores (·.value.text?) (Ask.conduct .none 2) I
      [.kept "a", .kept "b"] false (keyedFields rest) :=
    hnames.stores hI (fun s hs => (hcells s hs).2.2) (by decide) (by decide) false
  have hleaf (v : Value) : Decides (Ask.conduct .none 2) I ((Ask.asked .none (.leaf .any)).accepts v)
      (some true) := .verdict fun t ht => ⟨t, exec_accepts_any .none _ v t, ht⟩
  have hask : ∀ k ∈ o.fields, ∀ v, ∃ b?,
      Decides (Ask.conduct .none 2) I ((k.value.asked .none).accepts v) b? := by
    have hleaves : ∀ leaf ∈ leaves, leaf.2 = .any :=
      List.forall_mem_cons.mpr ⟨rfl, List.forall_mem_singleton.mpr rfl⟩
    refine List.forall_mem_map.mpr fun leaf hmem v => ⟨some true, ?_⟩
    change Decides _ _ ((Ask.asked .none (.leaf leaf.2)).accepts v) _
    rw [hleaves leaf hmem]
    exact hleaf v
  have hask' : ∀ k ∈ (Derivation.partialOf.sketch o).fields, ∀ v, ∃ b?,
      Decides (Ask.conduct .none 2) I ((k.value.asked .none).accepts v) b? := by
    rw [Derivation.fields_partialOf]
    refine List.forall_mem_map.mpr fun k hk v => ?_
    obtain ⟨b?, hb⟩ := hask k hk v
    obtain ⟨-, b'?, -, hb', -⟩ := Sketch.implies_makeOptional hb
    exact ⟨b'?, hb'⟩
  have hback : Derivation.requiredOf.sketch (Derivation.partialOf.sketch o) = o := by
    rw [Derivation.requiredOf_partialOf]
    exact Derivation.requiredOf_of_not (List.forall_mem_map.mpr fun _ _ => rfl)
  refine ⟨s, p₀, s₀, p, s₁, q, s₂, r, s₃, w, s₄, hs, hp₀, hp, hq, hr, hw, ?_, ?_, ?_, ?_⟩
  · exact hstrict I (.ref 1) (ObjectSketch.determined_of_stores (hstores true)
      fun k hk => hask' k (by rwa [Derivation.fields_strictOf] at hk) _)
  · refine hrequired (fun k hk v hv => ?_) r s₃ hr I (.ref 1) ?_
    · rw [hnone' k hk] at hv
      cases hv
    · rw [hback]
      exact ObjectSketch.determined_of_stores (hstores false) fun k hk => hask k hk _
  · exact hpartial I (.ref 1) (ObjectSketch.determined_of_stores (hstores false)
      fun k hk => hask' k hk _)
  · refine hremoved hnone' _ I I (.ref 1) (.ref 2) (keyedFields own) {"b"} (hstores false) hrest
      fun k hk => ?_
    obtain ⟨b?, hb⟩ := hask' k hk ((storedUnder (·.value.text?) (keyedFields own) k.name).getD .undefined)
    exact ⟨b?, hb, fun _ => hb⟩

/-! ## Predicates of other origins, and values that change -/

/-- From now on, an equality of its own decides which keys of the class of such texts are equal. -/
def equateBy (c : Check Value Value) : Run Unit :=
  assignAttribute (.ofClass (.declared Heap.start.declarations.size)) (.keptText Method.equality.name)
    Method.equality.name (.predicate 7 (.plain "") .none (.rule 8 c))

/-- A predicate that its caller has registered as optional is replaced by what it was registered with, and
that may accept what the predicate refuses.  Two fields become one if their names are equal for a while, so
a mapping of both may be refused then.  And a mapping that is changed when its keys are read is accepted by
a strict product after the loose one has refused it. -/
theorem widening_fails :
    (exec (Ask.conduct .none 5) (do
        let v ← customProduct (.keptText Modifier.optional.name)
          (.tuple (.kind .tuple) 2 [.leaf .string]) (.leaf .number) .null (.bool true) (.bool false)
        let d ← alloc (.kind .dict) (.dict (keyedFields [(.kept "a", v)]))
        let p ← object d (.bool false)
        let q ← requiredObject p
        return (← truth (← call q [.ref 0]), ← truth (← call p [.ref 0])))
      (Session.start.withDict (keyedFields [(.kept "a", .text "x")]))).result? =
      some (true, false) ∧
    (exec (Ask.conduct .none 5) (do
        let c := Class.declared Heap.start.declarations.size
        let d ← alloc (.kind .dict) (.dict (keyedFields
          [(⟨"", c, 5⟩, .leaf .string), (⟨"", c, 6⟩, .leaf .number)]))
        let p ← object d (.bool false)
        equateBy (.allOf [])
        let q ← partialObject p
        equateBy (.literal (.keptText ""))
        return (← truth (← call p [.ref 1]), ← truth (← call q [.ref 1])))
      (emptyTextKeysSession (.text "s", .scalar (.kind .int) 9 (.int 5)))).result? =
      some (true, false) ∧
    (exec (Ask.conduct changingHost 5) (do
        let p ← object (.ref 0) (.bool false)
        let q ← strictObject p
        let loose ← truth (← call p [.ref 1])
        return (← truth (← call q [.ref 1]), loose))
      (describingOneSession "a" .boolean .dict
        (Method.keys.name, .function 3 (.kept "keys") false (.script 0)) fun c =>
          ⟨c, .dict (keyedFields [(.kept "a", .null)])⟩)).result? = some (true, false) := by
  decide +kernel

end Build

end ValueShape
