import ValueShape.Proofs.Build.Recipe

/-!
# What the factories make

Each factory, called with steady arguments, makes a product of the recipe that these arguments are.

* `Recipe.Suits c I r title` says that what a recipe mentions is steady wherever the invariant `I`
  holds, and that a product of the recipe is named by the title.
* There is one lemma `settles_…` for each factory.  Those that take several predicates are told what
  reading the sequence of predicates gives, so they apply to sequences of any class.
-/

set_option autoImplicit false

namespace ValueShape

open Run

/-! ## Steady arguments

The name of a product shows its arguments, and the metadata repeats them.  Both are settled only if
an argument is shown by the same text whenever that is asked for. -/

/-- A callable is steady and shown by a text. -/
def Value.SteadyBy (c : Conduct) (I : Session → Prop) (v : Value) (text : String) : Prop :=
  ∃ f, v.Steady c I f text

theorem Value.SteadyBy.shown {c : Conduct} {I : Session → Prop} {v : Value} {text : String}
    (h : v.SteadyBy c I text) : v.Shown c I text := by
  obtain ⟨f, h⟩ := h
  exact h.shown

theorem Value.SteadyBy.callable {c : Conduct} {I : Session → Prop} {v : Value} {text : String}
    (h : v.SteadyBy c I text) {s : Session} (hs : I s) : s.heap.isCallable v = true := by
  obtain ⟨f, h⟩ := h
  exact h.presents_self.callable hs

theorem Value.SteadyBy.identified {c : Conduct} {I : Session → Prop} {v : Value} {text : String}
    (h : v.SteadyBy c I text) : v.isIdentified = true := by
  obtain ⟨f, h⟩ := h
  exact h.presents_self.identified

theorem Value.SteadyBy.keeping {c : Conduct} {I : Session → Prop} {v : Value} {text : String}
    (h : v.SteadyBy c I text) (ds : List (Nat × List (Name × Value))) :
    v.SteadyBy c (Session.Keeping I ds) text := by
  obtain ⟨f, h⟩ := h
  exact ⟨f, h.keeping ds⟩

/-- Callables are steady and shown by texts. -/
def AllSteadyBy (c : Conduct) (I : Session → Prop) : List Value → List String → Prop :=
  List.Forall₂ fun v text => v.SteadyBy c I text

/-- A callable that may be missing is steady and shown by a text. -/
def RestSteadyBy (c : Conduct) (I : Session → Prop) : Option Value → Option String → Prop :=
  Option.Rel fun v text => v.SteadyBy c I text ∧ v.identical .null = false

theorem AllSteadyBy.shown {c : Conduct} {I : Session → Prop} {vs : List Value}
    {texts : List String} (h : AllSteadyBy c I vs texts) :
    List.Forall₂ (fun v text => v.Shown c I text) vs texts := h.imp fun _ _ h => h.shown

theorem AllSteadyBy.keeping {c : Conduct} {I : Session → Prop} {vs : List Value}
    {texts : List String} (h : AllSteadyBy c I vs texts) (ds : List (Nat × List (Name × Value))) :
    AllSteadyBy c (Session.Keeping I ds) vs texts := h.imp fun _ _ h => h.keeping ds

theorem RestSteadyBy.shown {c : Conduct} {I : Session → Prop} {rest : Option Value}
    {text? : Option String} (h : RestSteadyBy c I rest text?) :
    Option.Rel (fun v text => v.Shown c I text) rest text? := by
  cases h with
  | none => exact .none
  | some h => exact .some h.1.shown

theorem RestSteadyBy.keeping {c : Conduct} {I : Session → Prop} {rest : Option Value}
    {text? : Option String} (h : RestSteadyBy c I rest text?)
    (ds : List (Nat × List (Name × Value))) : RestSteadyBy c (Session.Keeping I ds) rest text? := by
  cases h with
  | none => exact .none
  | some h => exact .some ⟨h.1.keeping ds, h.2⟩

theorem AllSteadyBy.forall {c : Conduct} {I : Session → Prop} {vs : List Value}
    {texts : List String} (h : AllSteadyBy c I vs texts) :
    ∀ v ∈ vs, ∃ text, v.SteadyBy c I text := by
  induction h with
  | nil => exact fun _ h => absurd h List.not_mem_nil
  | cons hv _ ih => exact List.forall_mem_cons.mpr ⟨⟨_, hv⟩, ih⟩

theorem AllSteadyBy.same {c : Conduct} {I : Session → Prop} {vs : List Value} {texts : List String}
    (h : AllSteadyBy c I vs texts) : ∀ v ∈ vs, v.identical v = true := fun v hv =>
  let ⟨_, _, hsteady⟩ := h.forall v hv
  hsteady.same

theorem RestSteadyBy.same {c : Conduct} {I : Session → Prop} {rest : Option Value}
    {text? : Option String} (h : RestSteadyBy c I rest text?) :
    ∀ v ∈ rest.toList, v.identical v = true := by
  cases h with
  | none => exact fun _ h => absurd h List.not_mem_nil
  | some h =>
    obtain ⟨⟨f, h⟩, -⟩ := h
    exact fun v hv => by rw [List.mem_singleton.mp hv]; exact h.same

/-- What a field descriptor mentions is steady: names serve as keys, and the names and the predicates
that the fields amount to are shown by texts. -/
structure SteadyFields (c : Conduct) (I : Session → Prop) (fields : List (Name × Value))
    (texts : List (String × String)) : Prop where
  /-- The names serve as keys. -/
  names : Name.ServeAsKeys c I (fields.map (·.1))
  /-- The predicates are steady. -/
  values : ∀ field ∈ fields, ∃ text, field.2.SteadyBy c I text
  /-- What the fields amount to is shown by texts. -/
  shown : FieldsShown c I (distinctFields fields) texts

namespace SteadyFields

variable {c : Conduct} {I : Session → Prop} {fields : List (Name × Value)}
  {texts : List (String × String)}

theorem mem_names : ∀ field ∈ distinctFields fields, field.1 ∈ fields.map (·.1) :=
  forall_mem_distinctFields fun _ hfield => List.mem_map_of_mem hfield

theorem steady (h : SteadyFields c I fields texts) :
    ∀ field ∈ distinctFields fields, ∃ text, field.2.SteadyBy c I text :=
  forall_mem_distinctFields_value (P := fun v => ∃ text, v.SteadyBy c I text) h.values

theorem identified_name (h : SteadyFields c I fields texts) :
    ∀ field ∈ distinctFields fields, (Value.ofName field.1).isIdentified = true :=
  fun field hfield => h.names.identified (mem_names field hfield)

theorem identified (h : SteadyFields c I fields texts) :
    ∀ field ∈ distinctFields fields, field.2.isIdentified = true := fun field hfield =>
  let ⟨_, hv⟩ := h.steady field hfield
  hv.identified

theorem keeping (h : SteadyFields c I fields texts) (ds : List (Nat × List (Name × Value))) :
    SteadyFields c (Session.Keeping I ds) fields texts where
  names := h.names.keeping ds
  values field hfield :=
    let ⟨text, hv⟩ := h.values field hfield
    ⟨text, hv.keeping ds⟩
  shown := h.shown.imp fun _ _ ⟨hk, hv⟩ => ⟨hk.keeping ds, hv.keeping ds⟩

/-- What steady fields amount to is steady. -/
theorem distinct (h : SteadyFields c I fields texts) :
    SteadyFields c I (distinctFields fields) texts where
  names := h.names.mono fun k hk => by
    obtain ⟨field, hfield, rfl⟩ := List.mem_map.mp hk
    exact mem_names field hfield
  values := h.steady
  shown := by
    rw [distinctFields_of_nodup (nodup_distinctFields fields)]
    exact h.shown

/-- Names and leaves are steady where nothing was assigned. -/
theorem of_leaves (host : Host) (n : Nat) (hI : Session.Abiding I)
    (hU : ∀ s, I s → s.Untouched) (leaves : List (String × Leaf))
    (hnodup : (leaves.map (·.1)).Nodup) :
    SteadyFields (Ask.conduct host (n + 1)) I
      (leaves.map fun leaf => (.kept leaf.1, .leaf leaf.2))
      (leaves.map fun leaf =>
        (String.ofList (quote leaf.1.toList), shownFunctionName leaf.2.name)) where
  names := by
    refine Name.serveAsKeys_of_text host n (fun _ hs => (hI.sound hs).intact) ?_ ?_ <;>
    · intro k hk
      simp only [List.map_map, List.mem_map] at hk
      obtain ⟨leaf, -, rfl⟩ := hk
      rfl
  values field hfield := by
    obtain ⟨leaf, -, rfl⟩ := List.mem_map.mp hfield
    exact ⟨_, _, steady_leaf hI hU leaf.2⟩
  shown := by
    rw [distinctFields_of_nodup (by simpa [fieldTexts, Function.comp_def, Name.kept] using hnodup)]
    refine List.forall₂_map_left_iff.mpr (List.forall₂_map_right_iff.mpr ?_)
    exact List.forall₂_same.mpr fun leaf _ =>
      ⟨shown_text hI host n lasting leaf.1, (steady_leaf hI hU leaf.2).shown⟩

end SteadyFields

namespace Run

variable (host : Host) (n : Nat) {c : Conduct} {I : Session → Prop} {s : Session}

/-- Before anything is done with a rest predicate, it has to be one. -/
theorem exec_forM_requireCallable (hs : I s) {rest : Option Value} {text? : Option String}
    (hrest : RestSteadyBy c I rest text?) (factory label : String) :
    exec c (rest.forM (Build.requireCallable factory label)) s = .ok () s := by
  cases hrest with
  | none => rfl
  | @some v text h =>
    obtain ⟨⟨f, h⟩, -⟩ := h
    exact exec_requireCallable h.presents_self hs factory label

section Tuples

variable (hs : s.heap.Intact) (id : Nat) (vs : List Value)
include hs

theorem exec_isOfKind_tuple (k : Kind) :
    exec c (isOfKind (.tuple (.kind .tuple) id vs) k) s =
      .ok (Heap.start.hasKind (.kind .tuple) k) s := by
  rw [exec_isOfKind c (hs.readsAttributes (k := .tuple) rfl), hs.isOfKind (k := .tuple) rfl]

theorem exec_isTextual_tuple :
    exec c (isTextual (.tuple (.kind .tuple) id vs)) s = .ok false s := by
  rw [isTextual, exec_bind, exec_asksForClass, Ending.andThen_ok,
    hs.readsAttributes (k := .tuple) rfl]
  rfl

theorem exec_cursor_tuple :
    exec c (cursor (.tuple (.kind .tuple) id vs)) s = .ok (.rest vs) s := by
  simp only [cursor, cursorOr, exec_bind, exec_heap, Ending.andThen_ok,
    hs.slot? (v := .tuple (.kind .tuple) id vs) rfl]
  rfl

end Tuples

/-- A new tuple has the given elements. -/
theorem settles_tuple (hI : Session.Steadfast I) (hs : I s) (vs : List Value) :
    Settles c I s (Run.tuple vs) fun w s' =>
      (∃ id, w = .tuple (.kind .tuple) id vs) ∧ s'.heap.cells = s.heap.cells := by
  rw [Run.tuple]
  split
  · rename_i hempty
    obtain rfl := List.isEmpty_iff.mp hempty
    exact .of_exec_self hs (exec_pure c s _) ⟨⟨0, rfl⟩, rfl⟩
  · exact .of_exec hI hs rfl (.withNext (Nat.le_succ _)) ⟨⟨_, rfl⟩, rfl⟩

/-- Reading a tuple of steady callables gives these callables. -/
theorem settles_requireCallables_tuple (hI : Session.Steadfast I) (hs : I s) (factory label : String)
    (id : Nat) {vs : List Value} (hvs : ∀ v ∈ vs, ∃ text, v.SteadyBy c I text) :
    Settles c I s (Build.requireCallables factory label (.tuple (.kind .tuple) id vs))
      fun ws _ => ws = vs := by
  have hi := (hI.sound hs).intact
  have hidentified : ∀ v ∈ vs, v.isIdentified = true := fun v hv =>
    let ⟨_, h⟩ := hvs v hv
    h.identified
  rw [Build.requireCallables]
  refine .after (exec_isOfKind_tuple hi id vs .sequence) ?_
  rw [if_pos (by rfl), map_eq_pure_bind, bind_assoc]
  refine .after (exec_isTextual_tuple hi id vs) ?_
  rw [pure_bind]
  change Settles c I s (cursor (.tuple (.kind .tuple) id vs) >>= _) _
  refine .after (exec_cursor_tuple hi id vs) ?_
  refine (settles_each (iterates_rest hidentified) (hasRoom_rest vs) Eq ?_ hs).mono
    fun ws _ _ _ hws => (List.forall₂_eq_eq_eq ▸ hws : vs = ws).symm
  rintro v hv index _ s rfl hs
  obtain ⟨text, f, h⟩ := hvs v hv
  exact .after (exec_requireCallable h.presents_self hs factory _) (.of_exec_self hs rfl rfl)

/-! ## Counting -/

/-- The number of arguments that cannot be left out is settled by the facets.  The predicates are
given from the last one on. -/
inductive RequiredBy (c : Conduct) (I : Session → Prop) : List Value → Nat → Prop
  | nil : RequiredBy c I [] 0
  | optional {v : Value} {r : Bool} {text : String} {vs : List Value} {k : Nat}
      (hv : v.Steady c I ⟨true, r⟩ text) (hvs : RequiredBy c I vs k) : RequiredBy c I (v :: vs) k
  | required {v : Value} {r : Bool} {text : String} {vs : List Value}
      (hv : v.Steady c I ⟨false, r⟩ text) : RequiredBy c I (v :: vs) (vs.length + 1)

theorem settles_requiredCount {vs : List Value} {k : Nat} (hvs : RequiredBy c I vs k) (hs : I s) :
    Settles c I s (Build.requiredCount vs) fun k' _ => k' = k := by
  induction hvs generalizing s with
  | nil => exact .of_exec_self hs rfl rfl
  | optional hv _ ih =>
    rw [Build.requiredCount, ← bind_assoc]
    refine (settles_truth_optional hv.presents_self hs).bind fun b s₁ _ hs₁ hb => ?_
    subst hb
    exact ih hs₁
  | required hv =>
    rw [Build.requiredCount, ← bind_assoc]
    refine (settles_truth_optional hv.presents_self hs).bind fun b s₁ _ hs₁ hb => ?_
    subst hb
    exact .of_exec_self hs₁ rfl rfl

/-- A number and a predicate come to a list of predicates: to as many as the number says, or to what
its class makes of them. -/
inductive Repeats (c : Conduct) (I : Session → Prop) (n item : Value) : List Value → Prop
  | plain {length : Nat} (hlt : length < maxListLength)
      (hlength : ∀ factory, Steadily c I (Build.requireLength factory n) (· = length))
      (hrepeated : Steadily c I (Build.repeated? n item) (· = none)) :
      Repeats c I n item (List.replicate length item)
  | assigned {head : List Value}
      (hlength : ∀ factory, Steadily c I (Build.requireLength factory n) fun _ => True)
      (hrepeated : Steadily c I (Build.repeated? n item) fun r => ∃ preds, r = some preds ∧
        Steadily c I (Build.requireCallables Operation.tupleOf.name "preds" preds) (· = head)) :
      Repeats c I n item head

theorem Repeats.keeping {k item : Value} {head : List Value} (h : Repeats c I k item head)
    (ds : List (Nat × List (Name × Value))) :
    Repeats c (Session.Keeping I ds) k item head := by
  cases h with
  | plain hlt hlength hrepeated =>
    exact .plain hlt (fun factory => (hlength factory).keeping ds) (hrepeated.keeping ds)
  | assigned hlength hrepeated =>
    exact .assigned (fun factory => (hlength factory).keeping ds) ((hrepeated.keeping ds).mono
      fun _ ⟨preds, hr, hpreds⟩ => ⟨preds, hr, hpreds.keeping ds⟩)

theorem RequiredBy.keeping {vs : List Value} {k : Nat} (h : RequiredBy c I vs k)
    (ds : List (Nat × List (Name × Value))) : RequiredBy c (Session.Keeping I ds) vs k := by
  induction h with
  | nil => exact .nil
  | optional hv _ ih => exact .optional (hv.keeping ds) ih
  | required hv => exact .required (hv.keeping ds)

/-- A value that a caller can hold counts as a literal. -/
structure IsLiteral (c : Conduct) (I : Session → Prop) (v : Value) : Prop where
  /-- It is primitive. -/
  primitive : Steadily c I (isPrimitive v) (· = true)
  /-- It is the same as itself. -/
  same : v.identical v = true

theorem IsLiteral.keeping {v : Value} (h : IsLiteral c I v)
    (ds : List (Nat × List (Name × Value))) : IsLiteral c (Session.Keeping I ds) v :=
  ⟨h.primitive.keeping ds, h.same⟩

end Run

/-! ## Recipes of steady values

A factory that has checked its arguments makes a product in the same way as all others, so all that
follows goes back to one lemma. -/

/-- What a recipe mentions is steady, and products of the recipe are named by a title.  The names of
fields serve as keys under the conduct `inner` as well, under which the parts of metadata are
compared. -/
inductive Recipe.Suits (c inner : Conduct) (I : Session → Prop) : Recipe → String → Prop
  | array {item : Value} {text : String} (hitem : item.SteadyBy c I text) :
      Suits c inner I (.array item) (callTitle Operation.arrayOf.name [text])
  | tuple (naming : TupleNaming) {head : List Value} {texts : List String} {rest : Option Value}
      {text? : Option String} (hhead : AllSteadyBy c I head texts)
      (hrest : RestSteadyBy c I rest text?) :
      Suits c inner I (.tuple naming head rest) (listTitle naming.tupleOf.name texts text?)
  | uniformTuple (naming : TupleNaming) {n item : Value} {shownN text : String}
      {head : List Value} {texts : List String} (hn : n.Shown c I shownN)
      (hsame : n.identical n = true) (hitem : item.SteadyBy c I text) (hrepeats : Repeats c I n item head)
      (hhead : AllSteadyBy c I head texts) :
      Suits c inner I (.uniformTuple naming n item head)
        (callTitle naming.uniformTupleOf.name [shownN, text])
  | record {item : Value} {text : String} (hitem : item.SteadyBy c I text) :
      Suits c inner I (.record item) (callTitle Operation.recordOf.name [text])
  | object {fields : List (Name × Value)} {texts : List (String × String)} (strict : Bool)
      (hfields : SteadyFields c I fields texts)
      (hinner : Name.ServeAsKeys inner I (fields.map (·.1))) :
      Suits c inner I (.object fields strict) (objectTitle texts strict)
  | parameters {head : List Value} {texts : List String} {required : Nat} {rest : Option Value}
      {text? : Option String} (hhead : AllSteadyBy c I head texts)
      (hrequired : RequiredBy c I head.reverse required) (hrest : RestSteadyBy c I rest text?) :
      Suits c inner I (.parameters head required rest) (listTitle Operation.parametersOf.name texts text?)
  | oneOf {members : List Value} {texts : List String} (hmembers : AllSteadyBy c I members texts) :
      Suits c inner I (.oneOf members) (listTitle Operation.oneOf.name texts none)
  | allOf {members : List Value} {texts : List String} (hmembers : AllSteadyBy c I members texts) :
      Suits c inner I (.allOf members) (listTitle Operation.allOf.name texts none)
  | literal {v : Value} {text : String} (hv : IsLiteral c I v) (hshown : v.Shown c I text) :
      Suits c inner I (.literal v) (callTitle Operation.literalOf.name [text])
  | literals {vs : List Value} {texts : List String} (hvs : ∀ v ∈ vs, IsLiteral c I v)
      (hshown : List.Forall₂ (fun v text => v.Shown c I text) vs texts) :
      Suits c inner I (.literals vs) (listTitle Operation.literalOneOf.name texts none)
  | instanceOf {cls : Class} {text : String}
      (hcls : Steadily c I (isOfKind (.ofClass cls) .kind) (· = true))
      (hshown : (Value.ofClass cls).Shown c I text) :
      Suits c inner I (.instanceOf cls) (callTitle Operation.instanceOf.name [text])
  | optional {q : Value} {r : Bool} {text : String} (hq : q.Steady c I ⟨false, r⟩ text) :
      Suits c inner I (.optional q r) (callTitle Modifier.optional.name [text])
  | readonly {q : Value} {o : Bool} {text : String} (hq : q.Steady c I ⟨o, false⟩ text) :
      Suits c inner I (.readonly q o) (callTitle Modifier.readonly.name [text])

namespace Run

variable (host : Host) (n : Nat) {I : Session → Prop} {s : Session} {old : Nat}

/-- A factory that has checked its arguments makes a product of its recipe. -/
theorem settles_product (hI : Session.Steadfast I) (hs : I s) {r : Recipe} {args : List Value}
    (htold : r.Told old s.heap args) (title : String) {check : Rule}
    (hdecides : r.decides = .rule check) (hfacets : r.facets = .none) :
    Settles (Ask.conduct host (n + 1)) I s (Build.product r.factory args title check)
      fun q s' => s'.Makes old r title q := by
  have hfresh : I (s.withNext (s.heap.next + 1)) := hI.adds hs (.withNext (Nat.le_succ _))
  have hby : r.decides.By (.rule s.heap.next check) := by
    rw [hdecides]
    exact .rule _ _
  have hproduct := settles_productBy host n hI hfresh (htold.of_cells rfl) title hby
  rw [hfacets] at hproduct
  rw [Build.product]
  exact .bind (P := fun id s' => id = s.heap.next ∧ s' = s.withNext (s.heap.next + 1))
    (.of_exec hI hs rfl (.withNext (Nat.le_succ _)) ⟨rfl, rfl⟩)
    fun id s' _ _ ⟨hid, hs'⟩ => by subst hid hs'; exact hproduct

section Factories

variable (hI : Session.Steadfast I) (hs : I s)
include hI hs

theorem settles_array {item : Value} {text : String}
    (hitem : item.SteadyBy (Ask.conduct host (n + 1)) I text) :
    Settles (Ask.conduct host (n + 1)) I s (Build.array item)
      fun q s' => s'.Makes old (.array item) (callTitle Operation.arrayOf.name [text]) q := by
  obtain ⟨f, h⟩ := hitem
  rw [Build.array]
  refine .after (exec_requireCallable h.presents_self hs _ _) ?_
  refine (settles_callTitle hs (.cons h.shown .nil) _).bind fun t s₁ _ hs₁ ht => ?_
  subst ht
  exact settles_product host n hI hs₁ (.array item) _ rfl rfl

theorem settles_record {item : Value} {text : String}
    (hitem : item.SteadyBy (Ask.conduct host (n + 1)) I text) :
    Settles (Ask.conduct host (n + 1)) I s (Build.record item)
      fun q s' => s'.Makes old (.record item) (callTitle Operation.recordOf.name [text]) q := by
  obtain ⟨f, h⟩ := hitem
  rw [Build.record]
  refine .after (exec_requireCallable h.presents_self hs _ _) ?_
  refine (settles_callTitle hs (.cons h.shown .nil) _).bind fun t s₁ _ hs₁ ht => ?_
  subst ht
  exact settles_product host n hI hs₁ (.record item) _ rfl rfl

/-! ### Several predicates -/

theorem settles_positionalArgs (head : List Value) (rest : Option Value) :
    Settles (Ask.conduct host (n + 1)) I s (Build.positionalArgs head rest) fun args _ =>
      ∃ id, args = .tuple (.kind .tuple) id head :: rest.toList := by
  rw [Build.positionalArgs]
  refine (settles_tuple hI hs head).bind fun w s₁ _ hs₁ ⟨⟨id, hw⟩, _⟩ => ?_
  subst hw
  exact .of_exec_self hs₁ rfl ⟨id, rfl⟩

theorem settles_checkedTuple (naming : TupleNaming) {head : List Value} {texts : List String}
    {rest : Option Value} {text? : Option String}
    (hhead : AllSteadyBy (Ask.conduct host (n + 1)) I head texts)
    (hrest : RestSteadyBy (Ask.conduct host (n + 1)) I rest text?) :
    Settles (Ask.conduct host (n + 1)) I s (Build.checkedTuple naming.tupleOf.name head rest)
      fun q s' => s'.Makes old (.tuple naming head rest)
        (listTitle naming.tupleOf.name texts text?) q := by
  rw [Build.checkedTuple]
  refine (settles_positionalArgs host n hI hs head rest).bind fun args s₁ _ hs₁ ⟨id, hargs⟩ => ?_
  subst hargs
  refine (settles_listTitle hs₁ hhead.shown _ hrest.shown).bind fun t s₂ _ hs₂ ht => ?_
  subst ht
  exact settles_product host n hI hs₂ (.tuple naming id head rest) _ rfl rfl

omit hs in
theorem settles_tupleOf (naming : TupleNaming) {preds : Value} {head : List Value}
    {texts : List String} {rest : Option Value} {text? : Option String}
    (hpreds : Settles (Ask.conduct host (n + 1)) I s
      (Build.requireCallables naming.tupleOf.name "preds" preds) fun vs _ => vs = head)
    (hhead : AllSteadyBy (Ask.conduct host (n + 1)) I head texts)
    (hrest : RestSteadyBy (Ask.conduct host (n + 1)) I rest text?) :
    Settles (Ask.conduct host (n + 1)) I s (Build.tuple naming preds rest)
      fun q s' => s'.Makes old (.tuple naming head rest)
        (listTitle naming.tupleOf.name texts text?) q := by
  rw [Build.tuple]
  refine hpreds.bind fun vs s₁ _ hs₁ hvs => ?_
  subst hvs
  refine .after (exec_forM_requireCallable hs₁ hrest _ _) ?_
  exact settles_checkedTuple host n hI hs₁ naming hhead hrest

theorem settles_uniformTuple (naming : TupleNaming) {k item : Value} {shownK text : String}
    {head : List Value} {texts : List String} (hk : k.Shown (Ask.conduct host (n + 1)) I shownK)
    (hitem : item.SteadyBy (Ask.conduct host (n + 1)) I text)
    (hrepeats : Repeats (Ask.conduct host (n + 1)) I k item head)
    (hhead : AllSteadyBy (Ask.conduct host (n + 1)) I head texts) :
    Settles (Ask.conduct host (n + 1)) I s (Build.uniformTuple naming k item)
      fun q s' => s'.Makes old (.uniformTuple naming k item head)
        (callTitle naming.uniformTupleOf.name [shownK, text]) q := by
  obtain ⟨f, h⟩ := hitem
  -- The product asks one that is built first.
  have houter : ∀ s', I s' → ∀ inner, s'.Makes old (.tuple .plain head none)
      (listTitle TupleNaming.plain.tupleOf.name texts none) inner →
      Settles (Ask.conduct host (n + 1)) I s' (do
        Build.productBy naming.uniformTupleOf.name [k, item]
          (← Build.callName naming.uniformTupleOf.name [k, item]) (.bool false) (.bool false) inner)
        fun q s' => s'.Makes old (.uniformTuple naming k item head)
          (callTitle naming.uniformTupleOf.name [shownK, text]) q := by
    rintro s' hs' _ ⟨⟨-, -, hdecides⟩, -⟩
    cases hdecides
    refine (settles_callTitle hs' (.cons hk (.cons h.shown .nil)) _).bind fun t s₁ _ hs₁ ht => ?_
    subst ht
    exact settles_productBy host n hI hs₁ (.uniformTuple naming k item head) _ (.predicate ..)
  rw [Build.uniformTuple]
  cases hrepeats with
  | @plain length hlt hlength hrepeated =>
    refine ((hlength _).settles hs).bind fun l s₁ _ hs₁ hl => ?_
    subst hl
    refine .after (exec_requireCallable h.presents_self hs₁ _ _) ?_
    refine (hrepeated.settles hs₁).bind fun r s₂ _ hs₂ hr => ?_
    subst hr
    have hmax : maxListLength ≤ maxIndex := by decide
    simp only [Nat.not_le.mpr hlt, Nat.not_le.mpr (Nat.lt_of_lt_of_le hlt hmax), if_false]
    exact (settles_checkedTuple host n hI hs₂ .plain hhead .none).bind fun inner s₃ _ hs₃ hinner =>
      houter s₃ hs₃ inner hinner
  | assigned hlength hrepeated =>
    refine ((hlength _).settles hs).bind fun l s₁ _ hs₁ _ => ?_
    refine .after (exec_requireCallable h.presents_self hs₁ _ _) ?_
    refine (hrepeated.settles hs₁).bind fun r s₂ _ hs₂ ⟨preds, hr, hpreds⟩ => ?_
    subst hr
    exact (settles_tupleOf host n hI .plain (hpreds.settles hs₂) hhead .none).bind
      fun inner s₃ _ hs₃ hinner => houter s₃ hs₃ inner hinner

omit hs in
theorem settles_parameters {preds : Value} {head : List Value} {texts : List String}
    {required : Nat} {rest : Option Value} {text? : Option String}
    (hpreds : Settles (Ask.conduct host (n + 1)) I s
      (Build.requireCallables Operation.parametersOf.name "preds" preds) fun vs _ => vs = head)
    (hhead : AllSteadyBy (Ask.conduct host (n + 1)) I head texts)
    (hrequired : RequiredBy (Ask.conduct host (n + 1)) I head.reverse required)
    (hrest : RestSteadyBy (Ask.conduct host (n + 1)) I rest text?) :
    Settles (Ask.conduct host (n + 1)) I s (Build.parameters preds rest)
      fun q s' => s'.Makes old (.parameters head required rest)
        (listTitle Operation.parametersOf.name texts text?) q := by
  rw [Build.parameters]
  refine hpreds.bind fun vs s₁ _ hs₁ hvs => ?_
  subst hvs
  refine .after (exec_forM_requireCallable hs₁ hrest _ _) ?_
  refine (settles_requiredCount hrequired hs₁).bind fun k s₂ _ hs₂ hk => ?_
  subst hk
  refine (settles_positionalArgs host n hI hs₂ _ rest).bind fun args s₃ _ hs₃ ⟨id, hargs⟩ => ?_
  subst hargs
  refine (settles_listTitle hs₃ hhead.shown _ hrest.shown).bind fun t s₄ _ hs₄ ht => ?_
  subst ht
  exact settles_product host n hI hs₄ (.parameters id _ _ rest) _ rfl rfl

section Members

variable {preds : Value} {members : List Value} {texts : List String}
  (hmembers : AllSteadyBy (Ask.conduct host (n + 1)) I members texts)
include hmembers
omit hs

theorem settles_oneOf (hpreds : Settles (Ask.conduct host (n + 1)) I s
      (Build.requireCallables Operation.oneOf.name "preds" preds) fun vs _ => vs = members) :
    Settles (Ask.conduct host (n + 1)) I s (Build.oneOf preds)
      fun q s' => s'.Makes old (.oneOf members) (listTitle Operation.oneOf.name texts none) q := by
  rw [Build.oneOf]
  refine hpreds.bind fun vs s₁ _ hs₁ hvs => ?_
  subst hvs
  refine (settles_tuple hI hs₁ _).bind fun w s₂ _ hs₂ ⟨⟨id, hw⟩, _⟩ => ?_
  subst hw
  refine (settles_listTitle hs₂ hmembers.shown _ .none).bind fun t s₃ _ hs₃ ht => ?_
  subst ht
  exact settles_product host n hI hs₃ (.oneOf id _) _ rfl rfl

theorem settles_allOf (hpreds : Settles (Ask.conduct host (n + 1)) I s
      (Build.requireCallables Operation.allOf.name "preds" preds) fun vs _ => vs = members) :
    Settles (Ask.conduct host (n + 1)) I s (Build.allOf preds)
      fun q s' => s'.Makes old (.allOf members) (listTitle Operation.allOf.name texts none) q := by
  rw [Build.allOf]
  refine hpreds.bind fun vs s₁ _ hs₁ hvs => ?_
  subst hvs
  refine (settles_tuple hI hs₁ _).bind fun w s₂ _ hs₂ ⟨⟨id, hw⟩, _⟩ => ?_
  subst hw
  refine (settles_listTitle hs₂ hmembers.shown _ .none).bind fun t s₃ _ hs₃ ht => ?_
  subst ht
  exact settles_product host n hI hs₃ (.allOf id _) _ rfl rfl

end Members

/-! ### Literals and classes -/

theorem settles_literal {v : Value} {text : String} (hv : IsLiteral (Ask.conduct host (n + 1)) I v)
    (hshown : v.Shown (Ask.conduct host (n + 1)) I text) :
    Settles (Ask.conduct host (n + 1)) I s (Build.literal v)
      fun q s' => s'.Makes old (.literal v) (callTitle Operation.literalOf.name [text]) q := by
  rw [Build.literal]
  refine (hv.primitive.settles hs).bind fun b s₁ _ hs₁ hb => ?_
  subst hb
  refine (settles_callTitle hs₁ (.cons hshown .nil) _).bind fun t s₂ _ hs₂ ht => ?_
  subst ht
  exact settles_product host n hI hs₂ (.literal v) _ rfl rfl

omit hI in
theorem settles_requirePrimitives {vs : List Value}
    (hvs : ∀ v ∈ vs, IsLiteral (Ask.conduct host (n + 1)) I v) (factory : String) (index : Nat) :
    Settles (Ask.conduct host (n + 1)) I s (Build.requirePrimitives factory index vs)
      fun _ _ => True := by
  induction vs generalizing index s with
  | nil => exact .of_exec_self hs rfl trivial
  | cons v vs ih =>
    obtain ⟨hv, hvs⟩ := List.forall_mem_cons.mp hvs
    rw [Build.requirePrimitives]
    refine (hv.primitive.settles hs).bind fun b s₁ _ hs₁ hb => ?_
    subst hb
    exact ih hs₁ hvs (index + 1)

omit hs in
/-- The literals in a sequence or set: whatever it is, it is turned into a tuple. -/
theorem settles_literals {values : Value} {vs : List Value} {texts : List String}
    (htextual : Settles (Ask.conduct host (n + 1)) I s (isTextual values) fun b _ => b = false)
    (hsuitable : ∀ s, I s → Settles (Ask.conduct host (n + 1)) I s
      (isOfAnyKind values [.sequence, .setLike]) fun b _ => b = true)
    (hread : ∀ s, I s → Settles (Ask.conduct host (n + 1)) I s (toTuple values) fun w _ =>
      ∃ id, w = .tuple (.kind .tuple) id vs)
    (hvs : ∀ v ∈ vs, IsLiteral (Ask.conduct host (n + 1)) I v)
    (hshown : List.Forall₂ (fun v text => v.Shown (Ask.conduct host (n + 1)) I text) vs texts) :
    Settles (Ask.conduct host (n + 1)) I s (Build.literals values)
      fun q s' => s'.Makes old (.literals vs) (listTitle Operation.literalOneOf.name texts none) q := by
  rw [Build.literals]
  refine htextual.bind fun b s₁ _ hs₁ hb => ?_
  subst hb
  refine (hsuitable s₁ hs₁).bind fun b s₂ _ hs₂ hb => ?_
  subst hb
  refine (hread s₂ hs₂).bind fun w s₃ _ hs₃ ⟨id, hw⟩ => ?_
  subst hw
  refine .after (exec_heap _ s₃) ?_
  refine (settles_requirePrimitives host n hs₃ hvs _ 0).bind fun _ s₄ _ hs₄ _ => ?_
  refine (settles_listTitle hs₄ hshown _ .none).bind fun t s₅ _ hs₅ ht => ?_
  subst ht
  exact settles_product host n hI hs₅ (.literals id vs) _ rfl rfl

theorem settles_instanceOf {cls : Class} {text : String}
    (hcls : Steadily (Ask.conduct host (n + 1)) I (isOfKind (.ofClass cls) .kind) (· = true))
    (hshown : (Value.ofClass cls).Shown (Ask.conduct host (n + 1)) I text) :
    Settles (Ask.conduct host (n + 1)) I s (Build.instanceOf (.ofClass cls))
      fun q s' => s'.Makes old (.instanceOf cls) (callTitle Operation.instanceOf.name [text]) q := by
  rw [Build.instanceOf]
  refine (hcls.settles hs).bind fun b s₁ _ hs₁ hb => ?_
  subst hb
  refine (settles_callTitle hs₁ (.cons hshown .nil) _).bind fun t s₂ _ hs₂ ht => ?_
  subst ht
  exact settles_product host n hI hs₂ (.instanceOf cls) _ rfl rfl

/-! ### Modifiers -/

theorem settles_optionalOf {q : Value} {r : Bool} {text : String}
    (hq : q.Steady (Ask.conduct host (n + 1)) I ⟨false, r⟩ text) :
    Settles (Ask.conduct host (n + 1)) I s (Build.optional q)
      fun w s' => s'.Makes old (.optional q r) (callTitle Modifier.optional.name [text]) w := by
  have hpresents := hq.presents_self
  rw [Build.optional]
  refine .after (exec_requireCallable hpresents hs _ _)
    ((hpresents.optional hs).bind fun a s₁ _ hs₁ ha => ?_)
  subst ha
  rw [truth_bool, pure_bind, if_neg Bool.false_ne_true]
  refine (hpresents.readonly hs₁).bind fun a s₂ _ hs₂ ha => ?_
  subst ha
  refine (settles_callTitle hs₂ (.cons hq.shown .nil) _).bind fun t s₃ _ hs₃ ht => ?_
  subst ht
  refine .bind (P := fun _ _ => True)
    (.of_exec hI hs₃ (exec_fresh _ _) (.withNext (Nat.le_succ _)) trivial) fun id s₄ _ hs₄ _ => ?_
  have htold : (Recipe.optional q r).Told old s₄.heap [q] := .optional q r
  refine (settles_productBy host n hI hs₄ htold _ (.rule id _)).bind
    fun w s₅ _ hs₅ hw => ?_
  exact (settles_logDecision hpresents hs₅ hI .optional .wrap).bind fun _ s₆ hle₆ hs₆ _ =>
    .of_exec_self hs₆ (exec_pure _ _ _) (hw.leadsTo hle₆ fun _ ht => by cases ht; constructor)

theorem settles_readonlyOf {q : Value} {o : Bool} {text : String}
    (hq : q.Steady (Ask.conduct host (n + 1)) I ⟨o, false⟩ text) :
    Settles (Ask.conduct host (n + 1)) I s (Build.readonly q)
      fun w s' => s'.Makes old (.readonly q o) (callTitle Modifier.readonly.name [text]) w := by
  have hpresents := hq.presents_self
  rw [Build.readonly]
  refine .after (exec_requireCallable hpresents hs _ _)
    ((hpresents.readonly hs).bind fun a s₁ _ hs₁ ha => ?_)
  subst ha
  rw [truth_bool, pure_bind, if_neg Bool.false_ne_true]
  refine (hpresents.optional hs₁).bind fun a s₂ _ hs₂ ha => ?_
  subst ha
  refine (settles_callTitle hs₂ (.cons hq.shown .nil) _).bind fun t s₃ _ hs₃ ht => ?_
  subst ht
  have htold : (Recipe.readonly q o).Told old s₃.heap [q] := .readonly q o
  refine (settles_productBy host n hI hs₃ htold _ (.callable q)).bind
    fun w s₄ _ hs₄ hw => ?_
  exact (settles_logDecision hpresents hs₄ hI .readonly .wrap).bind fun _ s₅ hle₅ hs₅ _ =>
    .of_exec_self hs₅ (exec_pure _ _ _) (hw.leadsTo hle₅ fun _ ht => by cases ht; constructor)

end Factories

/-- A steady callable made optional is a steady callable. -/
theorem steadily_optional (hI : Session.Abiding I) {v : Value} {text : String}
    (hv : v.SteadyBy (Ask.conduct host (n + 1)) I text) :
    Steadily (Ask.conduct host (n + 1)) I (Build.optional v) fun w =>
      ∃ text, w.SteadyBy (Ask.conduct host (n + 1)) I text := by
  obtain ⟨⟨o, r⟩, hv⟩ := hv
  intro ds s hs
  have hJ := (hI.keeping ds).toSteadfast
  cases o with
  | true =>
    refine (settles_optional_noop host n hJ (hv.keeping ds).presents_self hs).mono
      fun w _ _ _ hw => ?_
    subst hw
    exact ⟨text, _, hv⟩
  | false =>
    have hoptional : Settles _ _ s (Build.optional v) fun w s' =>
        s'.Makes 0 (.optional v r) (callTitle Modifier.optional.name [text]) w :=
      settles_optionalOf host n hJ hs (hv.keeping ds)
    exact hoptional.mono fun w _ _ _ hw => ⟨_, _, hw.product.steady hI⟩

end Run

end ValueShape
