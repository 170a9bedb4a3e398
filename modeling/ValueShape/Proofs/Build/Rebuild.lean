import ValueShape.Proofs.Build.Object
import ValueShape.Proofs.Conduct.Compare

/-!
# Building again

The metadata of a product tells how to build it again.

* `Build.rebuild` calls the factory that metadata names, with the arguments that it tells.
* `Run.exec_equalParts_told` says that two products of one recipe have equal arguments in their metadata,
  and `Run.settles_rebuild` that what is built again is a product of the same recipe.
* `Build.Call` are the calls of factories that work.  `Build.Call.rebuilds` says of all of them that
  their product can be built again from its metadata, and that the second product cannot be told from
  the first one by its name, its facets, its metadata and what it asks.
* The name tells how the parts of a product are written.  If that changes, the second product has another
  name: `Build.rebuild_renames_restless`.
-/

set_option autoImplicit false

namespace ValueShape

open Run

namespace Build

/-- Calls the factory of the given name again, with the arguments that metadata tells.  Strictness is
given by name, and a modifier is given what it was applied to. -/
def again (factory : String) (args : List Value) : Run Value := do
  if factory == Operation.objectOf.name then
    match args with
    | [descriptor, options] =>
      let strict ← item options (.keptText strictKey)
      Operation.objectOf.apply ⟨[descriptor], [("strict", strict)]⟩
    | args => Operation.objectOf.apply ⟨args, []⟩
  else if factory == Modifier.optional.name then Operation.makeOptional.apply ⟨args, []⟩
  else if factory == Modifier.readonly.name then Operation.makeReadonly.apply ⟨args, []⟩
  else match Operation.ofName? factory with
    | some o => o.apply ⟨args, []⟩
    | none => throw (.badAttribute factory)

/-- Builds the product again that metadata is about. -/
def rebuild (metadata : Value) : Run Value := do
  let factory ← factoryOf metadata
  let args ← readAttribute metadata argumentsAttribute
  again (factory.text?.getD "") (((← heap).contained? args).getD [])

end Build

/-- The values that a recipe mentions. -/
def Recipe.values : Recipe → List Value
  | array item | record item => [item]
  | tuple _ head rest | parameters head _ rest => head ++ rest.toList
  | uniformTuple _ n item _ => [n, item]
  | object fields _ => fields.map (·.2)
  | oneOf members | allOf members => members
  | literal v => [v]
  | literals vs => vs
  | instanceOf cls => [.ofClass cls]
  | optional q _ | readonly q _ => [q]

/-- A recipe lists no name twice. -/
def Recipe.IsDistinct : Recipe → Prop
  | object fields _ => (fieldTexts fields).Nodup
  | _ => True

namespace Build

theorem again_operation {o : Operation} (ho : o.name ≠ Operation.objectOf.name)
    (hoptional : o.name ≠ Modifier.optional.name) (hreadonly : o.name ≠ Modifier.readonly.name)
    (args : List Value) : again o.name args = o.apply ⟨args, []⟩ := by
  simp only [again, beq_eq_false_iff_ne.mpr ho, beq_eq_false_iff_ne.mpr hoptional,
    beq_eq_false_iff_ne.mpr hreadonly, Bool.false_eq_true, if_false, Operation.ofName?_name]

theorem again_tupleOf (naming : TupleNaming) (preds : Value) {rest : Option Value}
    (hrest : ∀ v ∈ rest, v.identical .null = false) :
    again naming.tupleOf.name (preds :: rest.toList) = tuple naming preds rest := by
  have hagain : again naming.tupleOf.name (preds :: rest.toList) =
      naming.tupleOf.apply ⟨preds :: rest.toList, []⟩ := by
    cases naming <;> exact again_operation (by decide) (by decide) (by decide) _
  rw [hagain]
  cases rest with
  | none => cases naming <;> rfl
  | some v =>
    have hfilter : (some v).filter (fun v => !v.identical .null) = some v := by
      rw [Option.filter_some, hrest v rfl]
      rfl
    cases naming
    · exact congrArg (tuple .plain preds) hfilter
    · exact congrArg (tuple .readonly preds) hfilter

theorem again_parametersOf (preds : Value) {rest : Option Value}
    (hrest : ∀ v ∈ rest, v.identical .null = false) :
    again Operation.parametersOf.name (preds :: rest.toList) = parameters preds rest := by
  rw [again_operation (by decide) (by decide) (by decide)]
  cases rest with
  | none => rfl
  | some v =>
    have hfilter : (some v).filter (fun v => !v.identical .null) = some v := by
      rw [Option.filter_some, hrest v rfl]
      rfl
    exact congrArg (parameters preds) hfilter

theorem again_uniformTupleOf (naming : TupleNaming) (n item : Value) :
    again naming.uniformTupleOf.name [n, item] = uniformTuple naming n item := by
  cases naming
  · exact again_operation (o := .uniformTupleOf) (by decide) (by decide) (by decide) _
  · exact again_operation (o := .readonlyUniformTupleOf) (by decide) (by decide) (by decide) _

end Build

theorem RestSteadyBy.not_null {c : Conduct} {I : Session → Prop} {rest : Option Value}
    {text? : Option String} (h : RestSteadyBy c I rest text?) :
    ∀ v ∈ rest, v.identical .null = false := by
  cases h with
  | none => exact fun _ h => by cases h
  | some h =>
    rintro _ ⟨⟩
    exact h.2

namespace Run

variable (host : Host) (n : Nat) {I : Session → Prop} {s : Session} {old old' : Nat}

/-- The factory of a product, called again with the arguments that metadata tells, makes a product of
the same recipe. -/
theorem settles_again {inner : Conduct} (hI : Session.Enduring I)
    (hold : ∀ s, I s → old' ≤ s.heap.cells.size) (hs : I s) {r : Recipe}
    {title : String} (hsuits : r.Suits (Ask.conduct host (n + 1)) inner I title)
    (hdistinct : r.IsDistinct) {args : List Value} (htold : r.Told old s.heap args) :
    Settles (Ask.conduct host (n + 1)) I s (Build.again r.factory args)
      fun q s' => s'.Makes old' r title q := by
  have htuple (factory : String) (id : Nat) {vs : List Value} {texts : List String}
      (hvs : AllSteadyBy (Ask.conduct host (n + 1)) I vs texts) :=
    settles_requireCallables_tuple hI.toLasting hs factory "preds" id hvs.forall
  cases htold with
  | array item =>
    rw [Recipe.factory, Build.again_operation (by decide) (by decide) (by decide)]
    cases hsuits with
    | array hitem => exact settles_array host n hI.toLasting hs hitem
  | tuple naming id head rest =>
    cases hsuits with
    | tuple _ hhead hrest =>
      rw [Recipe.factory, Build.again_tupleOf naming _ hrest.not_null]
      exact settles_tupleOf host n hI.toLasting naming (htuple _ id hhead) hhead hrest
  | uniformTuple naming k item head =>
    cases hsuits with
    | uniformTuple _ hk _ hitem hrepeats hhead =>
      rw [Recipe.factory, Build.again_uniformTupleOf]
      exact settles_uniformTuple host n hI.toLasting hs naming hk hitem hrepeats hhead
  | record item =>
    rw [Recipe.factory, Build.again_operation (by decide) (by decide) (by decide)]
    cases hsuits with
    | record hitem => exact settles_record host n hI.toLasting hs hitem
  | @object id place id' place' fields strict _ _ hfields hstrict =>
    cases hsuits with
    | object _ hsteady =>
      have hsame : distinctFields fields = fields := distinctFields_of_nodup hdistinct
      refine .after (exec_item_strict host n hI hs hstrict) ?_
      rw [← hsame]
      exact settles_object_view host n hI hold hs hsteady hfields id
  | parameters id head required rest =>
    cases hsuits with
    | parameters hhead hrequired hrest =>
      rw [Recipe.factory, Build.again_parametersOf _ hrest.not_null]
      exact settles_parameters host n hI.toLasting (htuple _ id hhead) hhead hrequired hrest
  | oneOf id members =>
    rw [Recipe.factory, Build.again_operation (by decide) (by decide) (by decide)]
    cases hsuits with
    | oneOf hmembers => exact settles_oneOf host n hI.toLasting hmembers (htuple _ id hmembers)
  | allOf id members =>
    rw [Recipe.factory, Build.again_operation (by decide) (by decide) (by decide)]
    cases hsuits with
    | allOf hmembers => exact settles_allOf host n hI.toLasting hmembers (htuple _ id hmembers)
  | literal v =>
    rw [Recipe.factory, Build.again_operation (by decide) (by decide) (by decide)]
    cases hsuits with
    | literal hv hshown => exact settles_literal host n hI.toLasting hs hv hshown
  | literals id vs =>
    rw [Recipe.factory, Build.again_operation (by decide) (by decide) (by decide)]
    cases hsuits with
    | literals hvs hshown =>
      have hi := (hI.sound hs).intact
      refine settles_literals host n hI.toLasting
        (.of_exec_self hs (exec_isTextual_tuple hi id vs) rfl) (fun s hs => ?_)
        (fun s hs => .of_exec_self hs (exec_pure _ s _) ⟨id, rfl⟩) hvs hshown
      have hi := (hI.sound hs).intact
      exact .after (exec_isOfKind_tuple hi id vs .sequence) (.of_exec_self hs rfl rfl)
  | instanceOf cls =>
    rw [Recipe.factory, Build.again_operation (by decide) (by decide) (by decide)]
    cases hsuits with
    | instanceOf hcls hshown => exact settles_instanceOf host n hI.toLasting hs hcls hshown
  | optional q r =>
    cases hsuits with
    | optional hq => exact settles_optionalOf host n hI.toLasting hs hq
  | readonly q o =>
    cases hsuits with
    | readonly hq => exact settles_readonlyOf host n hI.toLasting hs hq

end Run

/-! ## Metadata of two products

The second product is built from the copies that the first one was registered with, and these are
copied again.  So the arguments in the two records are equal, without being the same. -/

namespace Recipe

variable {c inner : Conduct} {I : Session → Prop} {r : Recipe} {title : String}

/-- What a recipe of steady values mentions is the same as itself. -/
theorem Suits.same (h : r.Suits c inner I title) : ∀ v ∈ r.values, v.identical v = true := by
  have hone {v : Value} (hv : v.identical v = true) : ∀ w ∈ [v], w.identical w = true :=
    fun w hw => by rw [List.mem_singleton.mp hw]; exact hv
  have hby {v : Value} {text : String} (hv : v.SteadyBy c I text) : v.identical v = true :=
    let ⟨_, hv⟩ := hv
    hv.same
  cases h with
  | array hitem | record hitem => exact hone (hby hitem)
  | tuple _ hhead hrest | parameters hhead _ hrest =>
    exact List.forall_mem_append.mpr ⟨hhead.same, hrest.same⟩
  | uniformTuple _ _ hsame hitem =>
    exact List.forall_mem_cons.mpr ⟨hsame, hone (hby hitem)⟩
  | object _ hfields =>
    rintro v hv
    obtain ⟨field, hfield, rfl⟩ := List.mem_map.mp hv
    obtain ⟨text, hv⟩ := hfields.values field hfield
    exact hby hv
  | oneOf hmembers | allOf hmembers => exact hmembers.same
  | literal hv => exact hone hv.same
  | literals hvs => exact fun v hv => (hvs v hv).same
  | instanceOf => exact hone (by simp [Value.identical])
  | optional hq | readonly hq => exact hone hq.same

theorem Suits.keeping (h : r.Suits c inner I title) (ds : List (Nat × List (Name × Value))) :
    r.Suits c inner (Session.Keeping I ds) title := by
  cases h with
  | array hitem => exact .array (hitem.keeping ds)
  | tuple naming hhead hrest => exact .tuple naming (hhead.keeping ds) (hrest.keeping ds)
  | uniformTuple naming hn hsame hitem hrepeats hhead =>
    exact .uniformTuple naming (hn.keeping ds) hsame (hitem.keeping ds) (hrepeats.keeping ds)
      (hhead.keeping ds)
  | record hitem => exact .record (hitem.keeping ds)
  | object strict hfields hinner => exact .object strict (hfields.keeping ds) (hinner.keeping ds)
  | parameters hhead hrequired hrest =>
    exact .parameters (hhead.keeping ds) (hrequired.keeping ds) (hrest.keeping ds)
  | oneOf hmembers => exact .oneOf (hmembers.keeping ds)
  | allOf hmembers => exact .allOf (hmembers.keeping ds)
  | literal hv hshown => exact .literal (hv.keeping ds) (hshown.keeping ds)
  | literals hvs hshown =>
    exact .literals (fun v hv => (hvs v hv).keeping ds) (hshown.imp fun _ _ h => h.keeping ds)
  | instanceOf hcls hshown => exact .instanceOf (hcls.keeping ds) (hshown.keeping ds)
  | optional hq => exact .optional (hq.keeping ds)
  | readonly hq => exact .readonly (hq.keeping ds)

/-- What metadata tells is kept by keeping the mappings that it shows. -/
theorem Told.kept {old : Nat} {h : Heap} {args : List Value} (ht : r.Told old h args) :
    ∃ ds : List (Nat × List (Name × Value)), (∀ d ∈ ds, h.HoldsFields d.1 d.2) ∧
      ∀ h' : Heap, (∀ d ∈ ds, h'.HoldsFields d.1 d.2) → r.Told old h' args := by
  cases ht with
  | @object id place id' place' fields strict hplace hplace' hfields hstrict =>
    refine ⟨[(place, distinctFields fields), (place', strictFields strict)], by simp [hfields, hstrict],
      fun h' hd => .object id place id' place' hplace hplace' (hd _ List.mem_cons_self)
        (hd _ (List.mem_cons_of_mem _ List.mem_cons_self))⟩
  | array | tuple | uniformTuple | record | parameters | oneOf | allOf | literal | literals |
    instanceOf | optional | readonly =>
    exact ⟨[], fun _ h => absurd h List.not_mem_nil, fun _ _ => by constructor⟩

end Recipe

namespace Run

section Equal

variable (host : Host) (n : Nat) {c : Conduct} {I : Session → Prop} {s : Session} {old old' : Nat}

/-- The arguments in the metadata of two products of one recipe are equal. -/
theorem exec_equalParts_told (hI : Session.Enduring I) (hs : I s) {r : Recipe} {title : String}
    (hsuits : r.Suits c (Ask.conduct host (n + 1)) I title) {args args' : List Value}
    (ht : r.Told old s.heap args) (ht' : r.Told old' s.heap args') :
    exec (Ask.conduct host (n + 4)) (equalParts args args') s = .ok true s := by
  have hi := (hI.sound hs).intact
  have hsame := hsuits.same
  have htuple (id id' : Nat) {vs rest : List Value} (hvs : ∀ v ∈ vs, v.identical v = true)
      (hrest : ∀ v ∈ rest, v.identical v = true) : exec (Ask.conduct host (n + 4)) (equalParts
        (.tuple (.kind .tuple) id vs :: rest) (.tuple (.kind .tuple) id' vs :: rest)) s =
        .ok true s :=
    exec_equalParts_cons (exec_equal_tuple host (n + 3) hi id id'
      (exec_equalParts_same _ s hvs)) (exec_equalParts_same _ s hrest)
  cases ht with
  | array | uniformTuple | record | literal | instanceOf | optional | readonly =>
    cases ht'
    exact exec_equalParts_same _ s hsame
  | tuple | parameters =>
    cases ht'
    obtain ⟨hhead, hrest⟩ := List.forall_mem_append.mp hsame
    exact htuple _ _ hhead hrest
  | oneOf | allOf | literals =>
    cases ht'
    exact htuple _ _ hsame fun _ h => absurd h List.not_mem_nil
  | @object id place id' place' fields strict _ _ hfields hstrict =>
    cases ht' with
    | @object i p i' p' _ _ _ _ hfields' hstrict' =>
      cases hsuits with
      | object _ hsteady hinner =>
        have hvalues : ∀ field ∈ distinctFields fields, field.2.identical field.2 = true :=
          forall_mem_distinctFields_value (P := fun v => v.identical v = true)
            fun field hfield => hsame field.2 (List.mem_map_of_mem hfield)
        have hkey : ∀ field ∈ Recipe.strictFields strict, field.1 ∈ [Name.kept strictKey] :=
          fun field hfield => by
            rw [List.mem_singleton.mp hfield]
            exact List.mem_singleton_self _
        have hflag : ∀ field ∈ Recipe.strictFields strict, field.2.identical field.2 = true :=
          fun field hfield => by
            rw [List.mem_singleton.mp hfield]
            exact beq_self_eq_true strict
        refine exec_equalParts_cons (exec_equal_view host (n + 1) (hI.regular hs) hfields hfields' hs
          hinner SteadyFields.mem_names (nodup_distinctFields fields) hvalues id i) ?_
        exact exec_equalParts_cons (exec_equal_view host (n + 1) (hI.regular hs) hstrict hstrict' hs
          (serveAsKeys_strict host n hI.toLasting) hkey (List.pairwise_singleton _ _) hflag id' i') rfl

end Equal

end Run

/-- Two predicates cannot be told apart by their names, their facets, their metadata and what they
ask. -/
structure Interchangeable (c : Conduct) (I : Session → Prop) (s : Session) (p q : Value) : Prop where
  /-- They have the same name. -/
  name : ∃ title, ∀ v ∈ [p, q],
    Settles c I s (displayName v) fun w _ => w.text? = some title
  /-- They agree on the optional facet. -/
  optional : ∃ b, ∀ v ∈ [p, q], Settles c I s (Build.isOptional v) fun a _ => a = .bool b
  /-- They agree on the readonly facet. -/
  readonly : ∃ b, ∀ v ∈ [p, q], Settles c I s (Build.isReadonly v) fun a _ => a = .bool b
  /-- They have equal metadata. -/
  metadata : ∃ m m', exec c (metadata? p) s = .ok (some m) s ∧
    exec c (metadata? q) s = .ok (some m') s ∧ exec c (equal m m') s = .ok true s
  /-- Called with a value, they do the same and end in the same way. -/
  asks {s' : Session} (hs' : I s') (x : Value) : exec c (call q [x]) s' = exec c (call p [x]) s'

section

variable (host : Host) (n : Nat) {I : Session → Prop} {s : Session} {old old' : Nat}

/-- Two products of one recipe with the same name are interchangeable. -/
theorem Session.Makes.interchangeable (hI : Session.Enduring I) (hs : I s) {r : Recipe}
    {title : String}
    (hsuits : r.Suits (Ask.conduct host (n + 6)) (Ask.conduct host (n + 1)) I title) {p q : Value}
    (hp : s.Makes old r title p) (hq : s.Makes old' r title q) :
    Interchangeable (Ask.conduct host (n + 6)) I s p q := by
  have hboth {P : Value → Prop} (hP : ∀ v, r.Product title v → P v) : ∀ v ∈ [p, q], P v :=
    List.forall_mem_cons.mpr ⟨hP p hp.product, List.forall_mem_singleton.mpr (hP q hq.product)⟩
  have hsteady {v : Value} (hv : r.Product title v) :=
    hv.steady (c := Ask.conduct host (n + 6)) hI.abiding
  refine ⟨⟨title, hboth fun v hv => ?_⟩, ⟨_, hboth fun v hv => (hsteady hv).presents_self.optional hs⟩,
    ⟨_, hboth fun v hv => (hsteady hv).presents_self.readonly hs⟩, ?_, fun {s'} hs' x => ?_⟩
  · obtain ⟨-, -, -⟩ := hv
    rw [Settles, exec_displayName _ (hI.sound hs).intact]
    refine (settles_identified hI.toLasting hs _).mono fun w _ _ _ hw => ?_
    rw [hw.text?_eq, Value.text?_ofName]
  · obtain ⟨_, _, _, args, rfl, ht, hmetadata, -⟩ :=
      exec_metadata_makes host (n + 5) (hI.sound hs) hp
    obtain ⟨_, _, _, args', rfl, ht', hmetadata', -⟩ :=
      exec_metadata_makes host (n + 5) (hI.sound hs) hq
    exact ⟨_, _, hmetadata, hmetadata', exec_equal_metadata host (n + 4) (hI.sound hs).intact _ _ _ _ _
      (exec_equalParts_told host n hI hs hsuits ht ht')⟩
  · rw [exec_call_of_sound host (n + 5) (hI.sound hs'), exec_call_of_sound host (n + 5) (hI.sound hs'),
      hq.product.callWith_eq hp.product]

/-- A product can be built again from its metadata, at any later time, as long as the mappings that
the metadata shows stay as they are. -/
theorem Run.settles_rebuild (hI : Session.Enduring I) (hs : I s) {r : Recipe} {title : String}
    (hsuits : r.Suits (Ask.conduct host (n + 6)) (Ask.conduct host (n + 1)) I title)
    (hdistinct : r.IsDistinct) {p : Value} (hp : s.Makes old r title p) :
    ∃ id factory id' args,
      let metadata :=
        Value.metadata (.kind .metadata) id factory (.tuple (.kind .tuple) id' args)
      exec (Ask.conduct host (n + 6)) (metadata? p) s = .ok (some metadata) s ∧
      ∀ s', I s' → s.LeadsTo s' →
        (∀ place ∈ Recipe.shownPlaces args, s'.heap.cells[place]? = s.heap.cells[place]?) →
        Settles (Ask.conduct host (n + 6)) I s' (Build.rebuild metadata) fun q s'' =>
          Interchangeable (Ask.conduct host (n + 6)) I s'' p q := by
  obtain ⟨metadata, id, id', args, rfl, htold, hmetadata, -, -, hstays⟩ :=
    exec_metadata_makes host (n + 5) (hI.sound hs) hp
  refine ⟨id, .kept r.factory, id', args, hmetadata, fun s' hs' hle hplaces => ?_⟩
  have htold' := htold.of_places fun place hplace _ _ hcell => (hplaces place hplace).trans hcell
  have hi := (hI.sound hs').intact
  refine .after ((exec_readFactory _ hi id _ _).trans (exec_identified_of_isIdentified _ rfl)) ?_
  refine .after ((exec_readArguments _ hi id _ _).trans (exec_identified_of_isIdentified _ rfl)) ?_
  refine .after (exec_heap _ s') ?_
  change Settles _ I s' (Build.again r.factory args) _
  -- What the metadata tells is kept while the factory works.
  obtain ⟨ds, hds, hkept⟩ := htold'.kept
  have hagain : Settles (Ask.conduct host (n + 6)) (Session.Keeping I ds) s'
      (Build.again r.factory args) fun q s'' => s''.Makes 0 r title q :=
    settles_again host (n + 5) (hI.keeping ds) (fun _ _ => Nat.zero_le _) ⟨hs', hds⟩
      (hsuits.keeping ds) hdistinct htold'
  refine (Settles.of_keeping ds hagain).mono fun q s'' hle' hs'' ⟨hq, hds'⟩ => ?_
  exact (hstays s'' (hle.trans hle') (hkept _ hds')).interchangeable host n hI hs'' hsuits hq

end

/-! ## Calls -/

namespace Build

/-- The calls of factories, of derived combinators, and of modifiers that have something to wrap.  A
sequence of predicates, a descriptor, literals and keys may be given as any values that can be read as
what they have to be. -/
inductive Call (c inner : Conduct) (I : Session → Prop) (s : Session) : Run Value → Prop
  | array {item : Value} {text : String} (hitem : item.SteadyBy c I text) :
      Call c inner I s (Build.array item)
  | tuple (naming : TupleNaming) {preds : Value} {head : List Value} {texts : List String}
      {rest : Option Value} {text? : Option String}
      (hpreds : Settles c I s (requireCallables naming.tupleOf.name "preds" preds)
        fun vs _ => vs = head)
      (hhead : AllSteadyBy c I head texts) (hrest : RestSteadyBy c I rest text?) :
      Call c inner I s (Build.tuple naming preds rest)
  | uniformTuple (naming : TupleNaming) {n item : Value} {shownN text : String}
      {head : List Value} {texts : List String} (hn : n.Shown c I shownN)
      (hsame : n.identical n = true) (hitem : item.SteadyBy c I text)
      (hrepeats : Repeats c I n item head) (hhead : AllSteadyBy c I head texts) :
      Call c inner I s (Build.uniformTuple naming n item)
  | record {item : Value} {text : String} (hitem : item.SteadyBy c I text) :
      Call c inner I s (Build.record item)
  | object {descriptor : Value} {fields : List (Name × Value)} {texts : List (String × String)}
      (strict : Bool)
      (hread : Settles c I s (requireFields Operation.objectOf.name descriptor)
        fun fs _ => fs = fields)
      (hnodup : (fieldTexts fields).Nodup) (hfields : SteadyFields c I fields texts)
      (hinner : Name.ServeAsKeys inner I (fields.map (·.1))) :
      Call c inner I s (Build.object descriptor (.bool strict))
  | parameters {preds : Value} {head : List Value} {texts : List String} {required : Nat}
      {rest : Option Value} {text? : Option String}
      (hpreds : Settles c I s (requireCallables Operation.parametersOf.name "preds" preds)
        fun vs _ => vs = head)
      (hhead : AllSteadyBy c I head texts) (hrequired : RequiredBy c I head.reverse required)
      (hrest : RestSteadyBy c I rest text?) :
      Call c inner I s (Build.parameters preds rest)
  | oneOf {preds : Value} {members : List Value} {texts : List String}
      (hpreds : Settles c I s (requireCallables Operation.oneOf.name "preds" preds)
        fun vs _ => vs = members)
      (hmembers : AllSteadyBy c I members texts) : Call c inner I s (Build.oneOf preds)
  | allOf {preds : Value} {members : List Value} {texts : List String}
      (hpreds : Settles c I s (requireCallables Operation.allOf.name "preds" preds)
        fun vs _ => vs = members)
      (hmembers : AllSteadyBy c I members texts) : Call c inner I s (Build.allOf preds)
  | literal {v : Value} {text : String} (hv : IsLiteral c I v) (hshown : v.Shown c I text) :
      Call c inner I s (Build.literal v)
  | literals {values : Value} {vs : List Value} {texts : List String}
      (htextual : Settles c I s (isTextual values) fun b _ => b = false)
      (hsuitable : ∀ s, I s →
        Settles c I s (isOfAnyKind values [.sequence, .setLike]) fun b _ => b = true)
      (hread : ∀ s, I s → Settles c I s (toTuple values) fun w _ =>
        ∃ id, w = .tuple (.kind .tuple) id vs)
      (hvs : ∀ v ∈ vs, IsLiteral c I v)
      (hshown : List.Forall₂ (fun v text => v.Shown c I text) vs texts) :
      Call c inner I s (Build.literals values)
  | instanceOf {cls : Class} {text : String}
      (hcls : Steadily c I (isOfKind (.ofClass cls) .kind) (· = true))
      (hshown : (Value.ofClass cls).Shown c I text) : Call c inner I s (Build.instanceOf (.ofClass cls))
  | optional {q : Value} {r : Bool} {text : String} (hq : q.Steady c I ⟨false, r⟩ text) :
      Call c inner I s (Build.optional q)
  | readonly {q : Value} {o : Bool} {text : String} (hq : q.Steady c I ⟨o, false⟩ text) :
      Call c inner I s (Build.readonly q)
  | partialOf {p : Value} {fields : List (Name × Value)} {texts : List (String × String)}
      {strict : Bool} {title : String} {old : Nat}
      (hp : s.Makes old (.object fields strict) title p)
      (hfields : SteadyFields c I fields texts)
      (hinner : Name.ServeAsKeys inner I (fields.map (·.1))) :
      Call c inner I s (partialObject p)
  | requiredOf {p : Value} {fields : List (Name × Value)} {texts : List (String × String)}
      {strict : Bool} {title : String} {old : Nat}
      (hp : s.Makes old (.object fields strict) title p)
      (hfields : SteadyFields c I fields texts)
      (hinner : Name.ServeAsKeys inner I (fields.map (·.1)))
      (hrequired : ∀ field ∈ distinctFields fields,
        Steadily c I (required field.2) fun v => ∃ text, v.SteadyBy c I text) :
      Call c inner I s (requiredObject p)
  | pickOf {p keys : Value} {fields : List (Name × Value)} {texts : List (String × String)}
      {strict : Bool} {title : String} {chosen : Name → Bool} {old : Nat}
      (hp : s.Makes old (.object fields strict) title p) (hfields : SteadyFields c I fields texts)
      (hinner : Name.ServeAsKeys inner I (fields.map (·.1)))
      (hkeys : Selects c I s Operation.pickOf.name (distinctFields fields) keys chosen) :
      Call c inner I s (pickFields p keys)
  | omitOf {p keys : Value} {fields : List (Name × Value)} {texts : List (String × String)}
      {strict : Bool} {title : String} {chosen : Name → Bool} {old : Nat}
      (hp : s.Makes old (.object fields strict) title p) (hfields : SteadyFields c I fields texts)
      (hinner : Name.ServeAsKeys inner I (fields.map (·.1)))
      (hkeys : Selects c I s Operation.omitOf.name (distinctFields fields) keys chosen) :
      Call c inner I s (omitFields p keys)
  | strictOf {p : Value} {fields : List (Name × Value)} {texts : List (String × String)}
      {strict : Bool} {title : String} {old : Nat}
      (hp : s.Makes old (.object fields strict) title p)
      (hfields : SteadyFields c I fields texts)
      (hinner : Name.ServeAsKeys inner I (fields.map (·.1))) :
      Call c inner I s (strictObject p)

/-- A call makes a product of a recipe whose parts are steady, and which lists no name twice. -/
theorem Call.settles (host : Host) (n : Nat) {inner : Conduct} {I : Session → Prop} {old : Nat}
    (hI : Session.Enduring I) (hold : ∀ s, I s → old ≤ s.heap.cells.size) {s : Session} (hs : I s)
    {m : Run Value}
    (hm : Call (Ask.conduct host (n + 1)) inner I s m) :
    Settles (Ask.conduct host (n + 1)) I s m fun p s' => ∃ r title,
      r.Suits (Ask.conduct host (n + 1)) inner I title ∧ r.IsDistinct ∧ s'.Makes old r title p := by
  have hL := hI.toLasting
  have hplain {m : Run Value} {r : Recipe} {title : String}
      (hsuits : r.Suits (Ask.conduct host (n + 1)) inner I title)
      (hm : Settles (Ask.conduct host (n + 1)) I s m fun p s' => s'.Makes old r title p)
      (hr : r.IsDistinct) :
      Settles (Ask.conduct host (n + 1)) I s m fun p s' => ∃ r title,
        r.Suits (Ask.conduct host (n + 1)) inner I title ∧ r.IsDistinct ∧ s'.Makes old r title p :=
    hm.mono fun _ _ _ _ hp => ⟨r, title, hsuits, hr, hp⟩
  have hderived {fields : List (Name × Value)} {strict : Bool} {q : Value} {s' : Session}
      {Q : Name × Value → Option Value → Prop}
      (hinner : Name.ServeAsKeys inner I (fields.map (·.1)))
      (hq : ∃ fields' texts', Changed Q (distinctFields fields) fields' ∧
        SteadyFields (Ask.conduct host (n + 1)) I fields' texts' ∧
        s'.Makes old (.object fields' strict) (objectTitle texts' strict) q) :
      ∃ r title, r.Suits (Ask.conduct host (n + 1)) inner I title ∧ r.IsDistinct ∧
        s'.Makes old r title q := by
    obtain ⟨fields', texts', hchanged, hfields', hq⟩ := hq
    refine ⟨_, _, .object strict hfields' (hinner.mono fun k hk => ?_),
      hchanged.fieldTexts_nodup (nodup_distinctFields fields), hq⟩
    obtain ⟨field, hfield, rfl⟩ := List.mem_map.mp (hchanged.sublist.subset hk)
    exact SteadyFields.mem_names field hfield
  cases hm with
  | array hitem => exact hplain (.array hitem) (settles_array host n hL hs hitem) trivial
  | tuple naming hpreds hhead hrest =>
    exact hplain (.tuple naming hhead hrest)
      (settles_tupleOf host n hL naming hpreds hhead hrest) trivial
  | uniformTuple naming hn hsame hitem hrepeats hhead =>
    exact hplain (.uniformTuple naming hn hsame hitem hrepeats hhead)
      (settles_uniformTuple host n hL hs naming hn hitem hrepeats hhead) trivial
  | record hitem => exact hplain (.record hitem) (settles_record host n hL hs hitem) trivial
  | object strict hread hnodup hfields hinner =>
    exact hplain (.object strict hfields hinner) (settles_object host n hI hold hfields hread) hnodup
  | parameters hpreds hhead hrequired hrest =>
    exact hplain (.parameters hhead hrequired hrest)
      (settles_parameters host n hL hpreds hhead hrequired hrest) trivial
  | oneOf hpreds hmembers =>
    exact hplain (.oneOf hmembers) (settles_oneOf host n hL hmembers hpreds) trivial
  | allOf hpreds hmembers =>
    exact hplain (.allOf hmembers) (settles_allOf host n hL hmembers hpreds) trivial
  | literal hv hshown =>
    exact hplain (.literal hv hshown) (settles_literal host n hL hs hv hshown) trivial
  | literals htextual hsuitable hread hvs hshown =>
    exact hplain (.literals hvs hshown)
      (settles_literals host n hL htextual hsuitable hread hvs hshown) trivial
  | instanceOf hcls hshown =>
    exact hplain (.instanceOf hcls hshown) (settles_instanceOf host n hL hs hcls hshown) trivial
  | optional hq => exact hplain (.optional hq) (settles_optionalOf host n hL hs hq) trivial
  | readonly hq => exact hplain (.readonly hq) (settles_readonlyOf host n hL hs hq) trivial
  | partialOf hp hfields hinner =>
    refine (settles_modifiedObject host n hI hold hs hfields hp
      (R := fun _ v _ => ∃ text, v.SteadyBy _ I text) (fun field hfield => Steadily.from ?_ s)
      (fun _ _ _ _ h => h) _).mono fun q s' _ _ => hderived hinner
    obtain ⟨text, hv⟩ := hfields.steady field hfield
    exact steadily_optional host n hI hv
  | requiredOf hp hfields hinner hrequired =>
    exact (settles_modifiedObject host n hI hold hs hfields hp
      (R := fun _ v _ => ∃ text, v.SteadyBy _ I text)
      (fun field hfield => (hrequired field hfield).from s) (fun _ _ _ _ h => h) _).mono
      fun q s' _ _ => hderived hinner
  | pickOf hp hfields hinner hkeys | omitOf hp hfields hinner hkeys =>
    exact (settles_selectedObject host n hI hold hs hfields hp hkeys _).mono
      fun q s' _ _ => hderived hinner
  | strictOf hp hfields hinner =>
    refine hplain (.object true hfields.distinct (hinner.mono fun k hk => ?_))
      (settles_strictObject host n hI hold hs hfields hp) (nodup_distinctFields _)
    obtain ⟨field, hfield, rfl⟩ := List.mem_map.mp hk
    exact SteadyFields.mem_names field hfield

/-- **Building again from metadata.**  A call of a factory, of a derived combinator, or of a modifier
that wraps, makes a predicate with metadata.  At any later time, as long as the mappings that the
metadata shows stay as they are, the factory that it names, called again with the arguments that it
tells, makes a predicate that is interchangeable with the first one: it has the same name, the same
facets and equal metadata, and when it is called it does the same and ends in the same way. -/
theorem Call.rebuilds (host : Host) (n : Nat) {I : Session → Prop} (hI : Session.Enduring I)
    {s : Session} (hs : I s) {m : Run Value}
    (hm : Call (Ask.conduct host (n + 6)) (Ask.conduct host (n + 1)) I s m) :
    let c := Ask.conduct host (n + 6)
    ∃ p s₁, exec c m s = .ok p s₁ ∧ I s₁ ∧ ∃ id factory id' args,
      let metadata := Value.metadata (.kind .metadata) id factory (.tuple (.kind .tuple) id' args)
      exec c (metadata? p) s₁ = .ok (some metadata) s₁ ∧
      ∀ s₂, I s₂ → s₁.LeadsTo s₂ →
        (∀ place ∈ Recipe.shownPlaces args, s₂.heap.cells[place]? = s₁.heap.cells[place]?) →
        ∃ q s₃, exec c (rebuild metadata) s₂ = .ok q s₃ ∧ I s₃ ∧ Interchangeable c I s₃ p q := by
  intro c
  obtain ⟨p, s₁, hp, -, hs₁, r, title, hsuits, hdistinct, hmakes⟩ := hm.settles host (n + 5) hI (fun _ _ => Nat.zero_le _) hs
  obtain ⟨id, factory, id', args, hmetadata, hrebuild⟩ :=
    settles_rebuild host n hI hs₁ hsuits hdistinct hmakes
  refine ⟨p, s₁, hp, hs₁, id, factory, id', args, hmetadata, fun s₂ hs₂ hle hplaces => ?_⟩
  obtain ⟨q, s₃, hq, -, hs₃, hsame⟩ := hrebuild s₂ hs₂ hle hplaces
  exact ⟨q, s₃, hq, hs₃, hsame⟩

/-- A strict product of one field, which was described by a mapping of the built-in class, is built
again at once. -/
theorem Call.rebuilds_object :
    let c := Ask.conduct .none 6
    let fields : List (Name × Value) := [(.kept "a", .leaf .string)]
    let I := Session.Keeping Session.Untouched [(0, fields)]
    let s := Session.start.withDict (keyedFields fields)
    let m := Build.object (.ref 0) (.bool true)
    (Session.Enduring I ∧ I s ∧ Call c (Ask.conduct .none 1) I s m) ∧
      ∃ p s₁ metadata q s₂, exec c m s = .ok p s₁ ∧
        exec c (metadata? p) s₁ = .ok (some metadata) s₁ ∧
        exec c (rebuild metadata) s₁ = .ok q s₂ ∧ Interchangeable c I s₂ p q := by
  intro c fields I s m
  have hI : Session.Enduring I := Session.enduring_untouched.keeping _
  have hs : I s := by
    refine ⟨Session.enduring_untouched.withDict .start _, fun d hd => ?_⟩
    rw [List.mem_singleton.mp hd]
    exact Session.holdsFields_withDict Session.start fields
  have hfields (k : Nat) :=
    SteadyFields.of_leaves .none k hI.abiding (fun _ hs => hs.1) [("a", .string)] (by decide)
  have hcall : Call c (Ask.conduct .none 1) I s m :=
    .object true (settles_requireFields_dict hI (hfields 5) (by decide)
      (fun _ hs => hs.2 _ (List.mem_singleton_self _)) hs _) (by decide) (hfields 5) (hfields 0).names
  obtain ⟨p, s₁, hp, hs₁, _, _, _, _, hmetadata, hrebuild⟩ := Call.rebuilds .none 0 hI hs hcall
  obtain ⟨q, s₂, hq, -, hsame⟩ := hrebuild s₁ hs₁ (.refl s₁) fun _ _ => rfl
  exact ⟨⟨hI, hs, hcall⟩, p, s₁, _, q, s₂, hp, hmetadata, hq, hsame⟩

/-! ## A literal that is never written in the same way

The name of a product tells how its parts were written when it was built.  Writing them again may give
other texts, if their class has a method of its own for it. -/

/-- A program whose scripts return another text each time. -/
def restless : Host := { Host.none with script := fun _ _ => return .keptText (← fresh).repr }

/-- A session with a class of texts that are written by such a script. -/
def restlessSession : Session :=
  { Session.start with heap := { Heap.start with
      declarations := #[⟨.kept "K", [.kind .text, .kind .object], .kind .text, [.kind .text]⟩]
      attributes := Heap.start.attributes ++ [⟨.ofClass (.declared 0), Method.writing.name,
        .function 3 (.kept "write") false (.script 0)⟩]
      next := 6 } }

/-- A literal of this class can be built again from its metadata, but under another name. -/
theorem rebuild_renames_restless :
    let buildTwice : Run (Option String × Option String) := do
      let p ← literal (.scalar (.declared 0) 4 (.text "x"))
      match ← metadata? p with
      | none => return (none, none)
      | some metadata =>
        let q ← rebuild metadata
        return ((← displayName p).text?, (← displayName q).text?)
    (exec (Ask.conduct restless 3) buildTwice restlessSession).result? =
      some (some "literal_of(6)", some "literal_of(12)") := by
  decide +kernel

end Build

end ValueShape
