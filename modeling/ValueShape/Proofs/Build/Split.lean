import ValueShape.Proofs.Ask.Verdict
import ValueShape.Proofs.Build.Choice
import ValueShape.Proofs.Build.Padding
import ValueShape.Proofs.Build.Partial
import ValueShape.Proofs.Build.Strictness

/-!
# Splitting a product

`pick_of` keeps the fields of an `object_of` product that keys name, and `omit_of` keeps the others.

* `Session.HasFields c I s fields strict q` says that a predicate is the product of certain fields, and
  `Session.SameObject c s s' q q'` that two predicates are products of the same fields, with the same
  name and the same verdicts.
* `Session.Makes.judges` is the verdict of a product, by those on what it looks at.  The verdicts on the
  fields that are picked and on the others make up the one on all fields (`allM_chosenFields`), so that a
  loose product is split by them (`Session.Makes.splitsInto`).
* `Build.object_pick_omit` is the main result.
* A text is no keys, keys may be written in a way of their own, and predicates may take notes of what they
  are asked.  This makes a difference: `Build.pick_omit_differ`.
-/

set_option autoImplicit false

namespace ValueShape

open Run

/-! ## Products of certain fields

All products in this module are described by their fields alone.  So two of them can be compared,
whatever factory they come from. -/

/-- A predicate is the product of steady fields, and shows them in its name. -/
def Session.HasFields (c : Conduct) (I : Session → Prop) (s : Session) (fields : List (Name × Value))
    (strict : Bool) (q : Value) : Prop :=
  ∃ texts, SteadyFields c I fields texts ∧
    s.Makes 0 (.object fields strict) (objectTitle texts strict) q

/-- Two predicates are products of the same fields, both strict or both loose.  They have the same name
and give the same verdicts. -/
def Session.SameObject (c : Conduct) (s s' : Session) (q q' : Value) : Prop :=
  (∃ fields strict title, s.Makes 0 (.object fields strict) title q ∧
    s'.Makes 0 (.object fields strict) title q') ∧ q.SameVerdicts c q'

/-- Fields are shown by the same texts, however that is known. -/
theorem SteadyFields.texts_unique {c : Conduct} {I : Session → Prop} {s : Session}
    {fields : List (Name × Value)} {texts texts' : List (String × String)} (hs : I s)
    (h : SteadyFields c I fields texts) (h' : SteadyFields c I fields texts') : texts = texts' := by
  have hunique : ∀ {fields texts texts'}, FieldsShown c I fields texts →
      FieldsShown c I fields texts' → texts = texts' := by
    intro fields texts texts' h h'
    induction h generalizing texts' with
    | nil =>
      cases h'
      rfl
    | cons hfield _ ih =>
      cases h' with
      | cons hfield' hrest' =>
        rw [ih hrest', Prod.ext (hfield.1.unique hfield'.1 hs) (hfield.2.unique hfield'.2 hs)]
  exact hunique h.shown h'.shown

/-- What is asked of a product of fields that list no name twice. -/
theorem Session.Makes.callWith_object (host : Host) {s : Session} {old : Nat}
    {fields : List (Name × Value)} {strict : Bool} {title : String} {q : Value}
    (hq : s.Makes old (.object fields strict) title q) (hnodup : (fieldTexts fields).Nodup)
    (x : Value) :
    Ask.callWith host q [x] = do
      let known := if strict then some (fields.map (·.1.key)) else none
      return .bool (← (Check.object (fields.map fun field => (field.1, Ask.asked host field.2))
        known).run x) := by
  rw [hq.product.callWith_object host x, distinctFields_of_nodup hnodup]
  rfl

/-- The verdict of a product, by those on what it looks at. -/
theorem Session.Makes.judges (host : Host) (n : Nat) {s : Session} {old : Nat}
    {fields : List (Name × Value)} {strict : Bool} {title : String} {q : Value}
    (hq : s.Makes old (.object fields strict) title q) (hnodup : (fieldTexts fields).Nodup)
    {J : Session → Prop} (hJ : ∀ t, J t → t.Sound) {x : Value} {mapping? keys? : Option Bool}
    {verdict : Name × Value → Option Bool}
    (hmapping : Decides (Ask.conduct host n) J (isOfKind x .mapping) mapping?)
    (hkeys : strict = true →
      Decides (Ask.conduct host n) J (Check.runKeys (fields.map (·.1.key)) x) keys?)
    (hfields : ∀ field ∈ fields, Decides (Ask.conduct host n) J
      (Check.runField x field.1 (Ask.asked host field.2)) (verdict field)) :
    q.Judges (Ask.conduct host (n + 1)) J x
      (Check.objectVerdict mapping? strict keys? (fields.allM verdict)) := by
  refine (Check.decides_object hmapping hkeys (Check.decides_runFields hfields)).after
    fun t ht => ⟨t, ht, ?_⟩
  exact exec_verdict host n (hq.callWith_object host hnodup x) (hJ t ht)

/-- A product is settled by its fields. -/
theorem Session.HasFields.sameObject (host : Host) (n : Nat) {I : Session → Prop} {s s' t : Session}
    {fields : List (Name × Value)} {strict : Bool} {q q' : Value} (ht : I t)
    (hq : s.HasFields (Ask.conduct host (n + 1)) I fields strict q)
    (hq' : s'.HasFields (Ask.conduct host (n + 1)) I fields strict q')
    (hnodup : (fieldTexts fields).Nodup) :
    Session.SameObject (Ask.conduct host (n + 1)) s s' q q' := by
  obtain ⟨texts, hfields, hmakes⟩ := hq
  obtain ⟨texts', hfields', hmakes'⟩ := hq'
  obtain rfl : texts = texts' := hfields.texts_unique ht hfields'
  refine ⟨⟨fields, strict, _, hmakes, hmakes'⟩, fun u hu x => ?_⟩
  rw [exec_call_of_sound host n hu, exec_call_of_sound host n hu, hmakes.callWith_object host hnodup,
    hmakes'.callWith_object host hnodup]

/-! ## Choosing twice

First come the laws of lists of fields: choosing depends on the set of names only, and choosing
twice is choosing once.  Those of products are read off them. -/

section Chosen

variable {K L : Finset String} {fields : List (Name × Value)}

theorem fieldTexts_chosenFields (K : Finset String) (fields : List (Name × Value)) :
    ∀ t, t ∈ fieldTexts (chosenFields K true fields) ↔ t ∈ fieldTexts fields ∧ t ∈ K := by
  intro t
  simp only [fieldTexts, chosenFields, List.mem_map, List.mem_filter, beq_true, decide_eq_true_eq]
  constructor
  · rintro ⟨field, ⟨hfield, hK⟩, rfl⟩
    exact ⟨⟨field, hfield, rfl⟩, hK⟩
  · rintro ⟨⟨field, hfield, rfl⟩, hK⟩
    exact ⟨field, ⟨hfield, hK⟩, rfl⟩

theorem nodup_chosenFields (hnodup : (fieldTexts fields).Nodup) (K : Finset String) (keep : Bool) :
    (fieldTexts (chosenFields K keep fields)).Nodup :=
  hnodup.sublist (List.filter_sublist.map _)

theorem forall_mem_chosenFields {P : Name × Value → Prop} (h : ∀ field ∈ fields, P field)
    (K : Finset String) (keep : Bool) : ∀ field ∈ chosenFields K keep fields, P field :=
  fun field hfield => h field (List.mem_of_mem_filter hfield)

/-- The fields of some names are those that are left without the other names. -/
theorem chosenFields_sdiff (K : Finset String) (fields : List (Name × Value)) :
    chosenFields ((fieldTexts fields).toFinset \ K) false fields = chosenFields K true fields := by
  refine List.filter_congr fun field hfield => ?_
  have hmem : field.1.text ∈ fieldTexts fields := List.mem_map_of_mem hfield
  simp only [Finset.mem_sdiff, List.mem_toFinset, hmem, true_and, decide_not]
  cases decide (field.1.text ∈ K) <;> rfl

/-- Of the fields of some names, those of fewer names are the same as before. -/
theorem chosenFields_of_subset (hL : L ⊆ K) :
    chosenFields L true (chosenFields K true fields) = chosenFields L true fields := by
  rw [chosenFields, chosenFields, chosenFields, List.filter_filter]
  refine List.filter_congr fun field _ => ?_
  by_cases hmem : field.1.text ∈ L
  · simp [hmem, hL hmem]
  · simp [hmem]

/-- All fields are as required if the ones that are picked and the ones that are omitted are. -/
theorem forall_mem_iff_chosenFields {P : Name × Value → Prop} (K : Finset String) :
    (∀ field ∈ fields, P field) ↔ (∀ field ∈ chosenFields K true fields, P field) ∧
      ∀ field ∈ chosenFields K false fields, P field := by
  refine ⟨fun h => ⟨forall_mem_chosenFields h K true, forall_mem_chosenFields h K false⟩,
    fun ⟨hpicked, homitted⟩ field hfield => ?_⟩
  by_cases hmem : field.1.text ∈ K
  · exact hpicked field (List.mem_filter.mpr ⟨hfield, by simp [hmem]⟩)
  · exact homitted field (List.mem_filter.mpr ⟨hfield, by simp [hmem]⟩)

/-- Names are among those of the fields that are chosen by other names, if they are among these. -/
theorem forall_mem_fieldTexts_chosenFields (hK : ∀ t ∈ K, t ∈ fieldTexts fields) :
    (∀ t ∈ L, t ∈ fieldTexts (chosenFields K true fields)) ↔ L ⊆ K := by
  simp only [fieldTexts_chosenFields]
  exact ⟨fun h t ht => (h t ht).2, fun h t ht => ⟨hK t (h ht), h ht⟩⟩

/-- There is a positive verdict on all fields if there is one on those that are picked and one on those
that are omitted. -/
theorem allM_chosenFields {verdict : Name × Value → Option Bool} (K : Finset String) :
    fields.allM verdict = some true ↔ (chosenFields K true fields).allM verdict = some true ∧
      (chosenFields K false fields).allM verdict = some true := by
  rw [allM_eq_some_true, allM_eq_some_true, allM_eq_some_true, forall_mem_iff_chosenFields]

end Chosen

/-- A callable accepts what two other ones accept, wherever it is always the same that is read of a value
and that fields answer.  If these never fail, none of the three does. -/
def Value.SplitsInto (host : Host) (n : Nat) (fields : List (Name × Value)) (p q q' : Value) : Prop :=
  ∀ (J : Session → Prop) (x : Value) (mapping? : Option Bool) (verdict : Name × Value → Option Bool),
    (∀ t, J t → t.Sound) → Decides (Ask.conduct host n) J (isOfKind x .mapping) mapping? →
    (∀ field ∈ fields, Decides (Ask.conduct host n) J
      (Check.runField x field.1 (Ask.asked host field.2)) (verdict field)) →
    ∃ b? b₁? b₂?, p.Judges (Ask.conduct host (n + 1)) J x b? ∧
      q.Judges (Ask.conduct host (n + 1)) J x b₁? ∧ q'.Judges (Ask.conduct host (n + 1)) J x b₂? ∧
      (b? = some true ↔ b₁? = some true ∧ b₂? = some true) ∧
      (mapping?.isSome = true → (∀ field ∈ fields, (verdict field).isSome = true) →
        b?.isSome = true ∧ b₁?.isSome = true ∧ b₂?.isSome = true)

/-- A loose product is split into those of some of its fields and of the others. -/
theorem Session.Makes.splitsInto (host : Host) (n : Nat) {s s₁ s₂ : Session} {old old₁ old₂ : Nat}
    {fields : List (Name × Value)} {title title₁ title₂ : String} {p q q' : Value}
    (hnodup : (fieldTexts fields).Nodup) (K : Finset String)
    (hp : s.Makes old (.object fields false) title p)
    (hq : s₁.Makes old₁ (.object (chosenFields K true fields) false) title₁ q)
    (hq' : s₂.Makes old₂ (.object (chosenFields K false fields) false) title₂ q') :
    p.SplitsInto host n fields q q' := by
  intro J x mapping? verdict hJ hmapping hfields
  have hkeys (fields : List (Name × Value)) : false = true →
      Decides (Ask.conduct host n) J (Check.runKeys (fields.map (·.1.key)) x) none :=
    fun h => nomatch h
  refine ⟨_, _, _, hp.judges host n hnodup hJ hmapping (hkeys _) hfields,
    hq.judges host n (nodup_chosenFields hnodup K _) hJ hmapping (hkeys _)
      (forall_mem_chosenFields hfields K _),
    hq'.judges host n (nodup_chosenFields hnodup K _) hJ hmapping (hkeys _)
      (forall_mem_chosenFields hfields K _), ?_, fun hmapping hall => ⟨?_, ?_, ?_⟩⟩
  · simp only [Check.objectVerdict_eq_some_true, Bool.false_eq_true, false_implies, true_and]
    rw [allM_chosenFields K]
    tauto
  · exact Check.isSome_objectVerdict hmapping (fun h => nomatch h) (Option.isSome_allM hall)
  · exact Check.isSome_objectVerdict hmapping (fun h => nomatch h)
      (Option.isSome_allM (forall_mem_chosenFields hall K _))
  · exact Check.isSome_objectVerdict hmapping (fun h => nomatch h)
      (Option.isSome_allM (forall_mem_chosenFields hall K _))

/-- The verdict on a field of a mapping of the built-in class. -/
theorem Run.decides_runField_dict {c : Conduct} {I : Session → Prop} (hI : Session.Abiding I)
    {place : Nat} {own : List (Name × Value)} (hown : ∀ s, I s → s.heap.HoldsFields place own)
    {names : List Name} (hnames : Name.ServeAsKeys c I names) (hmem : ∀ field ∈ own, field.1 ∈ names)
    {name : Name} (hname : name ∈ names) {ask : Asked} {answer : Value → Option Bool}
    (hask : ∀ v, Decides c I (ask.accepts v) (answer v)) :
    Decides c I (Check.runField (.ref place) name ask)
      (answer (((own.find? fun field => field.1.text == name.text).map (·.2)).getD .undefined)) := by
  change Decides c I _ (Option.elim (some _) (some false) answer)
  refine Check.decides_runField answer (fun s hs => ⟨s, ?_, hs⟩) fun v _ => hask v
  rw [guarded, exec_recovering, exec_getValue hI hown hnames hmem hs hname]

namespace Build

/-- **Picking and omitting split a product.**  The product `p` was made by `object_of` from fields that
list no name twice.  Keys are no text, and give a finite set of names.

* If these are names of fields, `pick_of` makes a product of the fields of these names, and `omit_of` one
  of the others, in the order in which they are listed in `p`.  They are strict if `p` is.  Otherwise both
  are refused with the same list of unknown names, and what else there is to the keys does not matter.
* To pick names comes to the same as to omit the others.
* To pick fewer names of the ones that have been picked comes to the same as to pick these at once, and
  other ones are refused.
* If `p` is loose, it accepts what is accepted by the product of some of its fields and by that of the
  others. -/
theorem object_pick_omit (host : Host) (n : Nat) {I : Session → Prop} (hI : Session.Abiding I)
    {s : Session} (hs : I s) {names : List Name} {fields : List (Name × Value)}
    {texts : List (String × String)} {strict : Bool} {title : String} {p : Value}
    (hnames : Name.ServeAsKeys (Ask.conduct host (n + 1)) I names)
    (hplain : Name.WrittenPlainly (Ask.conduct host (n + 1)) I names)
    (hmem : ∀ field ∈ fields, field.1 ∈ names)
    (hfields : SteadyFields (Ask.conduct host (n + 1)) I fields texts)
    (hnodup : (fieldTexts fields).Nodup) (hp : s.Makes 0 (.object fields strict) title p) :
    let c := Ask.conduct host (n + 1)
    let known := (fieldTexts fields).toFinset
    let Same (s s' : Session) (m m' : Run Value) : Prop := Settles c I s m fun q s₁ =>
      Settles c I s' m' fun q' s₂ => Session.SameObject c s₁ s₂ q q'
    ∀ keys K, keys.GivesNames c I s names K →
      (¬K ⊆ known → ∃ s₁ s₂,
        exec c (pickFields p keys) s =
          .error (.refusal Operation.pickOf.name (unknownMessage (fieldTexts fields) K)) s₁ ∧
        exec c (omitFields p keys) s =
          .error (.refusal Operation.omitOf.name (unknownMessage (fieldTexts fields) K)) s₂) ∧
      (K ⊆ known →
        (Settles c I s (pickFields p keys) fun q s₁ =>
          s₁.HasFields c I (chosenFields K true fields) strict q ∧
          (∀ keys' L, keys'.GivesNames c I s₁ names L →
            (¬L ⊆ K → ∃ s₂, exec c (pickFields q keys') s₁ = .error (.refusal Operation.pickOf.name
              (unknownMessage (fieldTexts (chosenFields K true fields)) L)) s₂) ∧
            (L ⊆ K → ∀ keys'', keys''.GivesNames c I s names L →
              Same s₁ s (pickFields q keys') (pickFields p keys''))) ∧
          Settles c I s (omitFields p keys) fun q' s₂ =>
            s₂.HasFields c I (chosenFields K false fields) strict q' ∧
            (strict = false → p.SplitsInto host n fields q q')) ∧
        ∀ keys',
          (keys'.GivesNames c I s names K → Same s s (pickFields p keys) (pickFields p keys') ∧
            Same s s (omitFields p keys) (omitFields p keys')) ∧
          (keys'.GivesNames c I s names (known \ K) →
            Same s s (pickFields p keys) (omitFields p keys'))) := by
  intro c known Same keys K hkeys
  have hknown {K : Finset String} : K ⊆ known ↔ ∀ t ∈ K, t ∈ fieldTexts fields :=
    forall₂_congr fun t _ => List.mem_toFinset
  -- What is chosen of any such product is settled by the names.
  have hselected {s : Session} (hs : I s) {fields : List (Name × Value)}
      {texts : List (String × String)} {title : String} {p : Value}
      (hmem : ∀ field ∈ fields, field.1 ∈ names) (hfields : SteadyFields c I fields texts)
      (hnodup : (fieldTexts fields).Nodup) (hp : s.Makes 0 (.object fields strict) title p)
      {keys : Value} {K : Finset String} (hkeys : keys.GivesNames c I s names K)
      (hK : ∀ t ∈ K, t ∈ fieldTexts fields) (factory : String) (keep : Bool) :
      Settles c I s (selectedObject factory keep p keys) fun q s₁ =>
        s₁.HasFields c I (chosenFields K keep fields) strict q :=
    settles_selected host n hI hnames (hplain.unknownOf _) hmem hfields hnodup hs hp hkeys
      (fun _ _ => Nat.zero_le _) hK factory keep
  have hsame {s₁ s₂ : Session} (hs₁ : I s₁) (hs₂ : I s₂) {m m' : Run Value}
      {K : Finset String} {keep : Bool}
      (hm : Settles c I s₁ m fun q s' => s'.HasFields c I (chosenFields K keep fields) strict q)
      (hm' : Settles c I s₂ m' fun q s' => s'.HasFields c I (chosenFields K keep fields) strict q) :
      Same s₁ s₂ m m' :=
    hm.mono fun q s' _ hs' hq => hm'.mono fun q' s'' _ _ hq' =>
      hq.sameObject host n hs' hq' (nodup_chosenFields hnodup K keep)
  have hchosen {keys : Value} {K : Finset String} (hkeys : keys.GivesNames c I s names K)
      (hK : K ⊆ known) (factory : String) (keep : Bool) :=
    hselected hs hmem hfields hnodup hp hkeys (hknown.mp hK) factory keep
  refine ⟨fun hK => ?_, fun hK => ⟨?_, fun keys' => ⟨fun hkeys' => ⟨?_, ?_⟩, fun hkeys' => ?_⟩⟩⟩
  · rw [hknown] at hK
    have hrefused (factory : String) (keep : Bool) :=
      exec_selected_unknown host n hI hnames (hplain.unknownOf _) hmem hnodup hs hp hkeys hK factory keep
    obtain ⟨s₁, hpick⟩ := hrefused Operation.pickOf.name true
    obtain ⟨s₂, homit⟩ := hrefused Operation.omitOf.name false
    exact ⟨s₁, s₂, hpick, homit⟩
  · refine (hchosen hkeys hK _ true).mono fun q s₁ _ hs₁ hq => ⟨hq, fun keys' L hkeys' => ?_, ?_⟩
    · have hmem' := forall_mem_chosenFields hmem K true
      have hnodup' := nodup_chosenFields hnodup K true
      have hsub : (∀ t ∈ L, t ∈ fieldTexts (chosenFields K true fields)) ↔ L ⊆ K :=
        forall_mem_fieldTexts_chosenFields (hknown.mp hK)
      obtain ⟨texts', hfields', hmade⟩ := hq
      refine ⟨fun hL => ?_, fun hL keys'' hkeys'' => ?_⟩
      · exact exec_selected_unknown host n hI hnames (hplain.unknownOf _) hmem' hnodup' hs₁ hmade hkeys'
          (mt hsub.mp hL) _ true
      · have hagain := hselected hs₁ hmem' hfields' hnodup' hmade hkeys' (hsub.mpr hL)
          Operation.pickOf.name true
        rw [chosenFields_of_subset hL] at hagain
        exact hsame hs₁ hs hagain (hchosen hkeys'' (hL.trans hK) _ true)
    · refine (hchosen hkeys hK _ false).mono fun q' s₂ _ _ hq' => ⟨hq', fun hloose => ?_⟩
      subst hloose
      obtain ⟨_, -, hmade⟩ := hq
      obtain ⟨_, -, hmade'⟩ := hq'
      exact hp.splitsInto host n hnodup K hmade hmade'
  · exact hsame hs hs (hchosen hkeys hK _ true) (hchosen hkeys' hK _ true)
  · exact hsame hs hs (hchosen hkeys hK _ false) (hchosen hkeys' hK _ false)
  · have homit := hchosen hkeys' Finset.sdiff_subset Operation.omitOf.name false
    rw [chosenFields_sdiff] at homit
    exact hsame hs hs (hchosen hkeys hK _ true) homit

/-- A loose product of two fields.  One of them is picked by a tuple that gives its name twice, or by
omitting a set of the other name.  A name that is not there is refused.  What remains accepts a mapping of
the built-in class, as the product does. -/
theorem object_pick_omit_pair :
    let c := Ask.conduct .none 3
    let fields : List (Name × Value) := [(.kept "a", .leaf .any), (.kept "b", .leaf .any)]
    let own : List (Name × Value) := [(.kept "b", .scalar (.kind .int) 2 (.int 1))]
    let I := Session.Keeping Session.Untouched [(0, fields), (1, own)]
    let s := (Session.start.withDict (keyedFields fields)).withDict (keyedFields own)
    let names : List Name := [.kept "a", .kept "b", .kept "c"]
    let tupleOf (ks : List Name) := Value.tuple (.kind .tuple) 3 (ks.map Value.ofName)
    let rest := Value.frozenSet (.kind .frozenSet) 4 [(Name.kept "b").key]
    (Session.Abiding I ∧ I s ∧ Name.ServeAsKeys c I names ∧ Name.WrittenPlainly c I names ∧
      (∃ texts, SteadyFields c I fields texts) ∧ (fieldTexts fields).Nodup) ∧
      ∃ p s₁, exec c (object (.ref 0) (.bool false)) s = .ok p s₁ ∧
        (tupleOf [.kept "a", .kept "a"]).GivesNames c I s₁ names {"a"} ∧
        rest.GivesNames c I s₁ names {"b"} ∧ (tupleOf [.kept "c"]).GivesNames c I s₁ names {"c"} ∧
        (∃ s₂, exec c (pickFields p (tupleOf [.kept "c"])) s₁ =
          .error (.refusal Operation.pickOf.name "unknown keys: c") s₂) ∧
        ∃ q s₂ q' s₃ q₁ s₄, exec c (pickFields p (tupleOf [.kept "a", .kept "a"])) s₁ = .ok q s₂ ∧
          exec c (omitFields p (tupleOf [.kept "a", .kept "a"])) s₁ = .ok q' s₃ ∧
          exec c (omitFields p rest) s₁ = .ok q₁ s₄ ∧ Session.SameObject c s₂ s₄ q q₁ ∧
          ∃ b? b₁? b₂?, p.Judges c I (.ref 1) b? ∧ q.Judges c I (.ref 1) b₁? ∧
            q'.Judges c I (.ref 1) b₂? ∧ (b? = some true ↔ b₁? = some true ∧ b₂? = some true) ∧
            b?.isSome = true ∧ b₁?.isSome = true ∧ b₂?.isSome = true := by
  intro c fields own I s names tupleOf rest
  have hI : Session.Enduring I := Session.enduring_untouched.keeping _
  have hs : I s := by
    refine ⟨Session.enduring_untouched.withDict (Session.enduring_untouched.withDict .start _) _, ?_⟩
    exact List.forall_mem_cons.mpr ⟨rfl, List.forall_mem_singleton.mpr rfl⟩
  have hholds : ∀ s, I s → s.heap.HoldsFields 0 fields := fun s hs => hs.2 _ List.mem_cons_self
  have hown : ∀ s, I s → s.heap.HoldsFields 1 own :=
    fun s hs => hs.2 _ (List.mem_cons_of_mem _ List.mem_cons_self)
  have hintact : ∀ s, I s → s.heap.Intact := fun _ hs => (hI.sound hs).intact
  have hnames : Name.ServeAsKeys c I names :=
    Name.serveAsKeys_of_text .none 2 hintact (by decide) (by decide)
  have hplain : Name.WrittenPlainly c I names := writtenPlainly_of_text hintact (by decide)
  have hfields := SteadyFields.of_leaves .none 2 hI.abiding (fun _ hs => hs.1)
    [("a", .any), ("b", .any)] (by decide)
  have hnodup : (fieldTexts fields).Nodup := by decide
  have hmem : ∀ field ∈ fields, field.1 ∈ names := by
    refine List.forall_mem_cons.mpr ⟨?_, List.forall_mem_singleton.mpr ?_⟩ <;> decide
  obtain ⟨p, s₁, hp, -, hs₁, hmade⟩ := @settles_object .none 2 _ _ _ _ false _ hI.abiding
    (fun _ _ => Nat.zero_le _) hfields _ (settles_requireFields_dict hI.abiding hfields hnodup hholds hs
      Operation.objectOf.name)
  have htwice : (tupleOf [.kept "a", .kept "a"]).GivesNames c I s₁ names {"a"} :=
    givesNames_tuple hI.abiding hnames
      (show ∀ k ∈ [Name.kept "a", .kept "a"], k ∈ names by decide) 3
  have hrest : rest.GivesNames c I s₁ names {"b"} :=
    givesNames_frozenSet hI.abiding (show ∀ k ∈ [Name.kept "b"], k ∈ names by decide) 4 (by decide)
  have hunknown : (tupleOf [.kept "c"]).GivesNames c I s₁ names {"c"} :=
    givesNames_tuple hI.abiding hnames (show ∀ k ∈ [Name.kept "c"], k ∈ names by decide) 3
  obtain ⟨hrefused, -⟩ := object_pick_omit .none 2 hI.abiding hs₁ hnames hplain hmem hfields hnodup
    hmade _ _ hunknown
  obtain ⟨s₅, -, hrefused, -⟩ := hrefused (by decide)
  obtain ⟨-, hsplit⟩ := object_pick_omit .none 2 hI.abiding hs₁ hnames hplain hmem hfields hnodup hmade
    _ _ htwice
  obtain ⟨⟨q, s₂, hq, -, hs₂, -, -, q', s₃, hq', -, -, -, hloose⟩, hsame⟩ := hsplit (by decide)
  obtain ⟨q₀, s₂', hq₀, -, -, q₁, s₄, hq₁, -, -, hobject⟩ := (hsame rest).2 hrest
  cases hq.symm.trans hq₀
  have hmessage : unknownMessage (fieldTexts fields) {"c"} = "unknown keys: c" := by
    rw [unknownMessage, unknownTexts, Finset.filter_singleton, if_pos (by decide), Finset.sort_singleton]
    rfl
  rw [hmessage] at hrefused
  refine ⟨⟨hI.abiding, hs, hnames, hplain, ⟨_, hfields⟩, hnodup⟩, p, s₁, hp, htwice, hrest, hunknown,
    ⟨s₅, hrefused⟩, q, s₂, q', s₃, q₁, s₄, hq, hq', hq₁, hobject, ?_⟩
  have hnames' : Name.ServeAsKeys (Ask.conduct .none 2) I names :=
    Name.serveAsKeys_of_text .none 1 hintact (by decide) (by decide)
  obtain ⟨b?, b₁?, b₂?, hb, hb₁, hb₂, hiff, hsome⟩ := hloose rfl I (.ref 1) (some true)
    (fun _ => some true) (fun _ hs => hI.sound hs)
    (.verdict fun t ht => ⟨t, exec_isOfKind_dict _ (hI.regular ht) (hown t ht) .mapping, ht⟩)
    fun field hfield => by
      have hany (v : Value) : Decides (Ask.conduct .none 2) I ((Ask.asked .none field.2).accepts v)
          (some true) := by
        have hleaf : ∀ field ∈ fields, field.2 = .leaf .any :=
          List.forall_mem_cons.mpr ⟨rfl, List.forall_mem_singleton.mpr rfl⟩
        rw [hleaf field hfield]
        exact .verdict fun t ht => ⟨t, exec_accepts_any .none _ v t, ht⟩
      exact decides_runField_dict hI.abiding hown hnames' (by decide) (hmem field hfield) hany
  exact ⟨b?, b₁?, b₂?, hb, hb₁, hb₂, hiff, hsome rfl fun _ _ => rfl⟩

/-! ## Keys and predicates of other sorts -/

/-- A session with a list, and with the descriptor of two fields. -/
def describingTwoSession (f g : Value) : Session :=
  { Session.start with heap := { Heap.start with
      cells := #[⟨.kind .list, .list []⟩,
        ⟨.kind .dict, .dict (keyedFields [(.kept "a", f), (.kept "b", g)])⟩] } }

/-- Such a session with a class of texts that are written without quotes in their own way. -/
def ownPlainFormSession : Session :=
  let s := describingTwoSession (.leaf .any) (.leaf .any)
  let c := Class.declared s.heap.declarations.size
  let written := Value.function 2 (.kept "written") false (.returns (.keptText "d"))
  { s with heap := { s.heap with
      declarations := s.heap.declarations.push
        ⟨.kept "S", [.kind .text, .kind .object], .kind .text, [.kind .text]⟩
      attributes := s.heap.attributes ++
        [⟨.ofClass c, Method.plainForm.name, written⟩] } }

/-- A text is refused as keys, though each of its characters is the name of a field.  Keys that are equal
need not be written alike when they are refused.  A function that goes by another name after some fields
have been picked shows in the product from which the others are omitted.  And if one predicate takes notes
that the other one tells, a product accepts what is refused by the product of the other one. -/
theorem pick_omit_differ :
    (exec (Ask.conduct .none 5) (do
        let p ← object (.ref 1) (.bool false)
        pickFields p (.keptText "a")) (describingTwoSession (.leaf .any) (.leaf .any))).failure?.map (·.1.message) =
      some "pick_of: keys must be an iterable of strings, not a string" ∧
    (let own := Value.scalar (.declared 0) 4 (.text "c")
      let picked (key : Value) := exec (Ask.conduct .none 5) (do
        let p ← object (.ref 1) (.bool false)
        pickFields p (.tuple (.kind .tuple) 5 [key])) ownPlainFormSession
      (exec (Ask.conduct .none 5) (equivalent own (.keptText "c")) ownPlainFormSession).result? =
        some true ∧
      (picked own).failure?.map (·.1.message) = some "pick_of: unknown keys: d" ∧
      (picked (.keptText "c")).failure?.map (·.1.message) = some "pick_of: unknown keys: c") ∧
    (exec (Ask.conduct .none 5) (do
        let p ← object (.ref 1) (.bool false)
        let q ← pickFields p (.tuple (.kind .tuple) 2 [.keptText "a"])
        assignAttribute (.leaf .string) (.keptText Heap.nameField) Heap.nameField (.keptText "f")
        let r ← omitFields p (.tuple (.kind .tuple) 3 [.keptText "b"])
        return ((← displayName q).text?, (← displayName r).text?))
      (describingTwoSession (.leaf .string) (.leaf .any))).result? =
      some (some "object_of(\x7b'a': is_string\x7d)", some "object_of(\x7b'a': f\x7d)") ∧
    (exec (Ask.conduct appendingHost 5) (do
        let p ← object (.ref 1) (.bool false)
        let q ← pickFields p (.tuple (.kind .tuple) 4 [.keptText "a"])
        let r ← omitFields p (.tuple (.kind .tuple) 5 [.keptText "a"])
        let omitted ← truth (← call r [.ref 1])
        return (omitted, ← truth (← call p [.ref 1]), ← truth (← call q [.ref 1])))
      (describingTwoSession (.function 2 (.kept "f") false (.script 0))
        (.function 3 (.kept "g") false (.returns (.ref 0))))).result? = some (false, true, true) := by
  decide +kernel

end Build

end ValueShape
