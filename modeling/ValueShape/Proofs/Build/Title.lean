import ValueShape.Build.Mapping
import ValueShape.Proofs.Conduct.Dict

/-!
# The names of products

The name of a product shows its arguments, so it is settled by the texts that they are shown by.

* `Value.Shown c I v text` says that the value `v` is shown by a text, wherever the invariant `I`
  holds and whatever mappings are kept.  `Value.Steady c I v f text` says that it presents itself as
  a callable with the facets `f` as well.
* `callTitle`, `listTitle` and `objectTitle` are the names of products in terms of such texts.
* The lemmas `settles_…Name` say that the names are put together in this way.
-/

set_option autoImplicit false

namespace ValueShape

open Run

/-! ## Values that are shown by texts -/

/-- A value is shown by a text at any place inside a name, wherever an invariant holds and whatever
mappings are kept. -/
def Value.Shown (c : Conduct) (I : Session → Prop) (v : Value) (text : String) : Prop :=
  ∀ ds s, Session.Keeping I ds s → ∀ (line : LineLimit) (depth : Nat) (path : List Value),
    Settles c (Session.Keeping I ds) s (unfold line depth path v) fun r _ =>
      ∃ w, r = .value w ∧ w.text? = some text ∧ ∀ s', Session.Keeping I ds s' →
        Settles c (Session.Keeping I ds) s' (formatted w) fun t _ => t = text

/-- A callable that a caller can hold tells its facets and is shown by a text, wherever an invariant
holds and whatever mappings are kept. -/
structure Value.Steady (c : Conduct) (I : Session → Prop) (v : Value) (f : Facets)
    (text : String) : Prop where
  /-- It tells its facets. -/
  presents (ds : List (Nat × List (Name × Value))) : v.Presents c (Session.Keeping I ds) f
  /-- It is shown by the text. -/
  shown : v.Shown c I text
  /-- It is the same as itself. -/
  same : v.identical v = true

theorem Value.Shown.keeping {c : Conduct} {I : Session → Prop} {v : Value} {text : String}
    (h : v.Shown c I text) (ds : List (Nat × List (Name × Value))) :
    v.Shown c (Session.Keeping I ds) text := by
  intro ds'
  rw [Session.keeping_keeping]
  exact h (ds ++ ds')

/-- A value is shown by one text only. -/
theorem Value.Shown.unique {c : Conduct} {I : Session → Prop} {v : Value} {text text' : String}
    (h : v.Shown c I text) (h' : v.Shown c I text') {s : Session} (hs : I s) : text = text' := by
  have hs : Session.Keeping I [] s := by rwa [Session.keeping_nil]
  obtain ⟨_, _, hr, -, -, w, rfl, hw, -⟩ := h [] s hs (.upTo 0) 0 []
  obtain ⟨_, _, hr', -, -, w', rfl, hw', -⟩ := h' [] s hs (.upTo 0) 0 []
  cases hr.symm.trans hr'
  exact Option.some.inj (hw.symm.trans hw')

theorem Value.Steady.keeping {c : Conduct} {I : Session → Prop} {v : Value} {f : Facets}
    {text : String} (h : v.Steady c I f text) (ds : List (Nat × List (Name × Value))) :
    v.Steady c (Session.Keeping I ds) f text where
  presents ds' := by
    rw [Session.keeping_keeping]
    exact h.presents (ds ++ ds')
  shown := h.shown.keeping ds
  same := h.same

theorem Value.Steady.presents_self {c : Conduct} {I : Session → Prop} {v : Value} {f : Facets}
    {text : String} (h : v.Steady c I f text) : v.Presents c I f := by
  have hpresents := h.presents []
  rwa [Session.keeping_nil] at hpresents

theorem Name.ServeAsKeys.keeping {c : Conduct} {I : Session → Prop} {names : List Name}
    (h : Name.ServeAsKeys c I names) (ds : List (Nat × List (Name × Value))) :
    Name.ServeAsKeys c (Session.Keeping I ds) names where
  isText hk _ hs := h.isText hk hs.1
  appearance hk _ hs := h.appearance hk hs.1
  hash hk _ hs := h.hash hk hs.1
  equivalent hk hk' _ hs := h.equivalent hk hk' hs.1
  identified hk := h.identified hk

/-! ## Titles

Titles are functions of texts, without sessions.  A text that stands for an argument is laid out
like any other leaf. -/

/-- A text as an outline. -/
def textLeaf (text : String) : Outline := .leaf text.toList

/-- The name of a call whose arguments are shown by texts. -/
def callTitle (factory : String) (texts : List String) : String :=
  factory ++ "(" ++ String.ofList (oneLine ((texts.map textLeaf).map Build.layoutName)) ++ ")"

/-- The name of a call with a list of predicates, and perhaps one more, that are shown by texts. -/
def listTitle (factory : String) (texts : List String) (rest : Option String) : String :=
  let shown := String.ofList (Build.layoutName (.list (texts.map textLeaf)))
  match rest with
  | none => factory ++ "(" ++ shown ++ ")"
  | some text =>
    factory ++ "(" ++ shown ++ ", " ++ String.ofList (Build.layoutName (textLeaf text)) ++ ")"

/-- The name of an `object_of` product whose names and predicates are shown by texts. -/
def objectTitle (texts : List (String × String)) (strict : Bool) : String :=
  let outline := Outline.mapping (texts.map fun e => (textLeaf e.1, textLeaf e.2))
  Operation.objectOf.name ++ "(" ++ String.ofList (Build.layoutName outline) ++
    (if strict then ", strict=True" else "") ++ ")"

namespace Run

variable {c : Conduct} {I : Session → Prop} {s : Session}

/-! ## Computations over lists -/

theorem settles_recovering {α : Type} {m : Run α} {P : α → Session → Prop}
    (hm : Settles c I s m P) (fails : Failure → Bool) :
    Settles c I s (recovering fails m) fun r s' => ∃ a, r = some a ∧ P a s' := by
  obtain ⟨a, s', ha, hle, hs', hP⟩ := hm
  refine ⟨some a, s', ?_, hle, hs', a, rfl, hP⟩
  rw [exec_recovering, ha]

/-- Renderings that are texts stand among the items of a container. -/
theorem exec_joinable (s : Session) {rs : List Rendering} {texts : List String}
    (hrs : List.Forall₂ (fun r text => ∃ w, r = .value w ∧ w.text? = some text) rs texts)
    (place : Nat) : exec c (joinable place rs) s = .ok (texts.map textLeaf) s := by
  induction hrs generalizing place with
  | nil => rfl
  | @cons r text rs texts hr hrs ih =>
    obtain ⟨w, rfl, htext⟩ := hr
    rw [joinable, htext]
    simp only [exec_bind, ih, Ending.andThen_ok, exec_pure, List.map_cons, textLeaf]

/-- A value inside a longer text stands there by its text. -/
theorem settles_embedded {v : Value} {text : String} (hv : v.Shown c I text) (hs : I s)
    (line : LineLimit) (depth : Nat) (path : List Value) :
    Settles c I s (unfold line depth path v) fun r _ =>
      ∀ s', I s' → Settles c I s' (embedded r) fun o _ => o = textLeaf text := by
  have hv := hv []
  rw [Session.keeping_nil] at hv
  refine (hv s hs line depth path).mono fun r s₁ _ _ ⟨w, hr, _, hformatted⟩ s₂ hs₂ => ?_
  subst hr
  rw [embedded]
  refine (hformatted s₂ hs₂).bind fun t s₃ _ hs₃ ht => ?_
  subst ht
  exact .of_exec_self hs₃ (exec_pure c s₃ _) rfl

section Lists

variable (hs : I s) {vs : List Value} {texts : List String}
  (hvs : List.Forall₂ (fun v text => v.Shown c I text) vs texts)
include hs hvs

/-- Values that are shown by texts have these texts as their renderings. -/
theorem settles_mapM_unfold (line : LineLimit) (depth : Nat) (path : List Value) :
    Settles c I s (vs.mapM (unfold line depth path)) fun rs _ =>
      List.Forall₂ (fun r text => ∃ w, r = .value w ∧ w.text? = some text) rs texts := by
  induction hvs generalizing s with
  | nil => exact .of_exec_self hs rfl .nil
  | @cons v text vs texts hv hvs ih =>
    have hv := hv []
    rw [Session.keeping_nil] at hv
    rw [List.mapM_cons]
    refine (hv s hs line depth path).bind fun r s₁ _ hs₁ ⟨w, hr, htext, _⟩ => ?_
    refine (ih hs₁).bind fun rs s₂ _ hs₂ hrs => ?_
    exact .of_exec_self hs₂ (exec_pure c s₂ _) (.cons ⟨w, hr, htext⟩ hrs)

theorem settles_callTitle (factory : String) :
    Settles c I s (Build.callName factory vs) fun t _ => t = callTitle factory texts := by
  rw [Build.callName, Build.argumentTexts, bind_assoc]
  refine (settles_mapM_unfold hs hvs _ _ _).yielded.bind fun rs s' _ hs' hrs => ?_
  refine .of_exec_self hs' ?_ rfl
  simp only [exec_bind, exec_joinable s' hrs, Ending.andThen_ok, exec_pure]
  rfl

theorem settles_listTitle (factory : String) {rest : Option Value} {text? : Option String}
    (hrest : Option.Rel (fun v text => v.Shown c I text) rest text?) :
    Settles c I s (Build.listName factory vs rest) fun t _ => t = listTitle factory texts text? := by
  have hlist : Settles c I s (Build.listRendering vs) fun r _ =>
      r = .outline (.list (texts.map textLeaf)) := by
    rw [Build.listRendering]
    refine (settles_mapM_unfold hs hvs _ _ _).bind fun rs s' _ hs' hrs => ?_
    refine .of_exec_self hs' ?_ rfl
    simp only [closed, Limits.known, exec_map, exec_bind, exec_joinable s' hrs, Ending.andThen_ok,
      exec_pure]
    rfl
  rw [Build.listName]
  refine hlist.bind fun r s₁ _ hs₁ hr => ?_
  subst hr
  rw [Build.embeddedText, embedded, pure_bind, pure_bind]
  cases hrest with
  | none => exact .of_exec_self hs₁ rfl rfl
  | @some v text hv =>
    refine (settles_embedded hv hs₁ _ _ _).bind fun r s₂ _ hs₂ hr => ?_
    rw [Build.embeddedText, bind_assoc]
    refine (hr s₂ hs₂).bind fun o s₃ _ hs₃ ho => ?_
    subst ho
    exact .of_exec_self hs₃ rfl rfl

end Lists

/-! ## Mappings inside names

A descriptor is shown by the keys and the values of the mapping, so its entries are gone through
once more when the name is put together. -/

theorem container?_view {h : Heap} (hh : h.Regular) (id place : Nat) :
    h.isPrimitive (.view id (.ref place)) = false ∧ h.isCallable (.view id (.ref place)) = false ∧
      h.container? (.view id (.ref place)) = some .mapping := by
  have hprimitive : h.isPrimitive (.view id (.ref place)) = false := by
    rw [Heap.isPrimitive, hh.isOfKind (k := .view) rfl rfl]
    rfl
  have hcallable : h.isCallable (.view id (.ref place)) = false := by
    rw [Heap.isCallable, hh.slot? (k := .view) rfl rfl]
    rfl
  have hmapping : h.isOfKind (.view id (.ref place)) .mapping = true := by
    rw [hh.isOfKind (k := .view) rfl rfl]
    rfl
  refine ⟨hprimitive, hcallable, ?_⟩
  unfold Heap.container?
  simp only [hprimitive, hcallable, hmapping, Bool.or_false, Bool.false_eq_true, if_false, if_true]

/-- A read-only mapping is taken for a container. -/
theorem exec_appearance_view (hs : s.heap.Regular) (id place : Nat) :
    exec c (appearance (.view id (.ref place))) s = .ok .container s := by
  have hread : s.heap.readsAttributes (.view id (.ref place)) = false :=
    hs.readsAttributes (k := .view) rfl rfl rfl
  obtain ⟨hprimitive, hcallable, hcontainer⟩ := container?_view hs id place
  have happearance : s.heap.appearance (.view id (.ref place)) = .container := by
    rw [Heap.appearance, hprimitive, hcallable, hcontainer]
    rfl
  rw [appearance, exec_bind, exec_heap, Ending.andThen_ok, exec_bind, exec_asksForClass,
    Ending.andThen_ok, hread, Bool.not_false, if_pos rfl, exec_pure, happearance]

theorem exec_containerOf_view (hs : s.heap.Regular) (id place : Nat) :
    exec c (containerOf (.view id (.ref place))) s = .ok .mapping s := by
  have hread : s.heap.readsAttributes (.view id (.ref place)) = false :=
    hs.readsAttributes (k := .view) rfl rfl rfl
  rw [containerOf, exec_bind, exec_asksForClass, Ending.andThen_ok, hread, Bool.not_false,
    if_pos rfl, exec_bind, exec_heap, Ending.andThen_ok, (container?_view hs id place).2.2,
    exec_pure]
  rfl

/-- The texts that the names and the values of fields are shown by. -/
def FieldsShown (c : Conduct) (I : Session → Prop) : List (Name × Value) → List (String × String) →
    Prop :=
  List.Forall₂ fun field texts =>
    (Value.ofName field.1).Shown c I texts.1 ∧ field.2.Shown c I texts.2

/-- A mapping is shown with its fields. -/
theorem settles_rendering_view (hI : Session.Abiding I) {place : Nat}
    {fields : List (Name × Value)} (hholds : ∀ s, I s → s.heap.HoldsFields place fields)
    (hname : ∀ field ∈ fields, (Value.ofName field.1).isIdentified = true)
    (hvalue : ∀ field ∈ fields, field.2.isIdentified = true) {texts : List (String × String)}
    (hshown : FieldsShown c I fields texts) (id : Nat) (hs : I s) :
    Settles c I s (Build.rendering (.view id (.ref place))) fun r _ =>
      r = .outline (.mapping (texts.map fun e => (textLeaf e.1, textLeaf e.2))) := by
  have hentries : ∀ (line : LineLimit) (depth : Nat) (path : List Value) {fields texts} {ws : List Value},
      FieldsShown c I fields texts →
      (∀ field ∈ fields, (Value.ofName field.1).isIdentified = true) →
      (∀ field ∈ fields, field.2.isIdentified = true) →
      List.Forall₂ (Yields .items) fields ws → ∀ s, I s →
      Settles c I s (ws.mapM (unfoldEntry (unfoldWith (.known line) depth path))) fun os _ =>
        os = texts.map fun e => (textLeaf e.1, textLeaf e.2) := by
    intro line depth path fields texts ws hshown hname hvalue hws
    induction hws generalizing texts with
    | nil =>
      cases hshown
      exact fun s hs => .of_exec_self hs rfl rfl
    | @cons field w fields ws hw hws ih =>
      intro s hs
      obtain ⟨i, rfl⟩ := hw
      cases hshown with
      | @cons _ e _ texts hfield hshown =>
        obtain ⟨hkey, hpred⟩ := hfield
        obtain ⟨hnameHead, hnameTail⟩ := List.forall_mem_cons.mp hname
        obtain ⟨hvalueHead, hvalueTail⟩ := List.forall_mem_cons.mp hvalue
        rw [List.mapM_cons, unfoldEntry, bind_assoc]
        refine .after (exec_unpackTwo c (hI.sound hs).intact i hnameHead hvalueHead) ?_
        simp only [bind_assoc, pure_bind]
        refine (settles_embedded hkey hs line depth path).bind fun r s₁ _ hs₁ hr => ?_
        refine (hr s₁ hs₁).bind fun o s₂ _ hs₂ ho => ?_
        subst ho
        refine (settles_embedded hpred hs₂ line depth path).bind fun r s₃ _ hs₃ hr => ?_
        refine (hr s₃ hs₃).bind fun o s₄ _ hs₄ ho => ?_
        subst ho
        refine (ih hshown hnameTail hvalueTail s₄ hs₄).bind fun os s₅ _ hs₅ hos => ?_
        subst hos
        exact .of_exec_self hs₅ (exec_pure c s₅ _) rfl
  rw [Build.rendering, unfold, unfoldWith.eq_def]
  refine .after (exec_appearance_view (hI.regular hs) id place) ?_
  simp only [List.any_nil, Bool.false_eq_true, if_false, Limits.known, pure_bind]
  change Settles c I s (containerOf (.view id (.ref place)) >>= _) _
  refine .after (exec_containerOf_view (hI.regular hs) id place) ?_
  rw [unfoldItems, guarded]
  refine (settles_recovering (settles_readEntries hI hholds hname hvalue id hs) _).bind
    fun r s₁ _ hs₁ hread => ?_
  obtain ⟨ws, rfl, hws⟩ := hread
  refine (hentries RenderOptions.default.threshold 7 [.view id (.ref place)] hshown hname hvalue hws
    s₁ hs₁).bind fun os s₂ _ hs₂ hos => ?_
  subst hos
  exact .of_exec_self hs₂ rfl rfl

/-! ## What is shown by texts -/

/-- A text of the built-in class is written between quotes, as a new text. -/
theorem exec_write_text (host : Host) (n : Nat) (hs : s.heap.Intact) (id : Nat) (text : String) :
    exec (Ask.conduct host (n + 1)) (write (.scalar (.kind .text) id (.text text))) s =
      .ok (.scalar (.kind .text) s.heap.next (.text (String.ofList (quote text.toList))))
        (s.withNext (s.heap.next + 1)) := by
  have hslot := hs.slot? (v := .scalar (.kind .text) id (.text text)) rfl .writing
  have hkept : s.heap.hasKeptForm (.scalar (.kind .text) id (.text text)) = false := by
    simp only [Heap.hasKeptForm, Heap.provider?, hslot]
    rfl
  have hform : exec (Ask.conduct host n) (nativeForm (.scalar (.kind .text) id (.text text))) s =
      .ok (quote text.toList) s := rfl
  change exec (Ask.conduct host n) (writeOnce (.scalar (.kind .text) id (.text text))) s = _
  rw [writeOnce, exec_bind, exec_heap, Ending.andThen_ok, hslot]
  change exec (Ask.conduct host n) (nativeForm _ >>= _) s = _
  rw [exec_bind, hform, Ending.andThen_ok]
  simp only [hkept, Bool.false_eq_true, if_false]
  rfl

section Shown

variable (hI : Session.Abiding I)
include hI

/-- A callable whose name is a text of the built-in class is shown by it. -/
theorem shown_of_displayName {v : Value} {text : String}
    (happearance : ∀ s, I s → exec c (appearance v) s = .ok .callable s)
    (hname : ∀ J : Session → Prop, Session.Steadfast J → (∀ s, J s → I s) → ∀ s, J s →
      Settles c J s (displayName v) fun w _ => ∃ id, w = .scalar (.kind .text) id (.text text)) :
    v.Shown c I text := by
  intro ds s hs line depth path
  rw [unfold, unfoldWith.eq_def]
  refine .after (happearance s hs.1) ?_
  refine (hname _ (hI.keeping ds).toSteadfast (fun _ h => h.1) s hs).bind fun w s₁ _ hs₁ hw => ?_
  obtain ⟨id, rfl⟩ := hw
  exact .of_exec_self hs₁ (exec_pure c s₁ _) ⟨_, rfl, rfl, fun s' hs' => .of_exec_self hs' rfl rfl⟩

/-- A predicate that is named by a text of the built-in class is steady. -/
theorem steady_predicate {id : Nat} (hid : id ≠ 0) (text : String) (id' : Nat) (f : Facets)
    (decider : Value) :
    (Value.predicate id ⟨text, .kind .text, id'⟩ f decider).Steady c I f text where
  presents ds := .predicate (hI.keeping ds).toSteadfast _ _ _ _
  shown := by
    refine shown_of_displayName hI (fun s hs => exec_appearance (hI.sound hs).intact (.inl rfl))
      fun J hJ _ s hs => ?_
    rw [Settles, exec_displayName c (hJ.sound hs).intact]
    exact (settles_identified hJ hs _).mono fun w _ _ _ hw => hw.text
  same := by simpa [Value.identical] using hid

/-- A function that has its name is steady. -/
theorem steady_function {v : Value} (hv : v.coreKind? = some .function)
    (hsame : v.identical v = true) {text : String}
    (hname : ∀ s, I s → ∃ id, s.heap.nameAttribute v = some (.scalar (.kind .text) id (.text text)))
    (hlt : text.length < maxIndex) : v.Steady c I .none (shownFunctionName text) where
  presents ds := by
    refine .function (hI.keeping ds).toSteadfast hv fun s hs => ?_
    obtain ⟨id, hid⟩ := hname s hs.1
    exact ⟨id, text, hid, hlt⟩
  shown := by
    refine shown_of_displayName hI (fun s hs => exec_appearance (hI.sound hs).intact (.inr hv))
      fun J hJ hJI s hs => ?_
    obtain ⟨id, hid⟩ := hname s (hJI s hs)
    exact settles_displayName_function hJ hs hv hid hlt
  same := hsame

/-- A leaf is steady where nothing was assigned. -/
theorem steady_leaf (hU : ∀ s, I s → s.Untouched) (l : Leaf) :
    (Value.leaf l).Steady c I .none (shownFunctionName l.name) := by
  refine steady_function hI (by cases l <;> rfl) (by cases l <;> rfl) (fun s hs => ⟨lasting, ?_⟩)
    (by cases l <;> decide)
  rw [Heap.nameAttribute.eq_def]
  simp only [(hU s hs).assigned?]
  cases l <;> rfl

/-- A text of the built-in class is shown between quotes. -/
theorem shown_text (host : Host) (n : Nat) (id : Nat) (text : String) :
    (Value.scalar (.kind .text) id (.text text)).Shown (Ask.conduct host (n + 1)) I
      (String.ofList (quote text.toList)) := by
  intro ds s hs line depth path
  have hi := (hI.sound hs.1).intact
  rw [unfold, unfoldWith.eq_def]
  refine .after (exec_appearance_text _ hi id text) ?_
  refine .bind (.of_exec (hI.keeping ds).toSteadfast hs (exec_write_text host n hi id text)
    (.withNext (Nat.le_succ _))
    (P := fun w _ => w = .scalar (.kind .text) s.heap.next (.text (String.ofList (quote text.toList))))
    rfl) fun w s₁ _ hs₁ hw => ?_
  subst hw
  exact .of_exec_self hs₁ (exec_pure _ s₁ _) ⟨_, rfl, rfl, fun s' hs' => .of_exec_self hs' rfl rfl⟩

end Shown

end Run

end ValueShape
