import ValueShape.Build.Facet
import ValueShape.Proofs.Facet.Settles

/-!
# Callables that present themselves

What the modifiers ask of a callable: whether it can be called, which facets it has, and how it is
shown inside a name.

* `Value.Presents c I v f` says that the callable `v` tells all of this wherever the invariant `I`
  holds, and that its facets are `f`.
* Every predicate presents itself with the facets that it was made with
  (`Value.Presents.predicate`), and every function that has its name without facets
  (`Value.Presents.function`).
-/

set_option autoImplicit false

namespace ValueShape

open Run

/-- A callable can be called, tells its facets, and can be shown, wherever an invariant holds. -/
structure Value.Presents (c : Conduct) (I : Session → Prop) (v : Value) (f : Facets) : Prop where
  /-- It can be called. -/
  callable {s : Session} (hs : I s) : s.heap.isCallable v = true
  /-- It says whether it has the optional facet. -/
  optional {s : Session} (hs : I s) :
    Settles c I s (Build.isOptional v) fun a _ => a = .bool f.optional
  /-- It says whether it has the readonly facet. -/
  readonly {s : Session} (hs : I s) :
    Settles c I s (Build.isReadonly v) fun a _ => a = .bool f.readonly
  /-- It can be shown as an argument. -/
  text {s : Session} (hs : I s) : Settles c I s (Build.argumentTexts [v]) fun _ _ => True
  /-- It has a name. -/
  name {s : Session} (hs : I s) : Settles c I s (displayName v) fun _ _ => True
  /-- It is a value that a caller can hold. -/
  identified : v.isIdentified = true

/-- What shows a text of the built-in class is one with the same characters. -/
theorem Value.Shows.text {w : Value} {id : Nat} {text : String}
    (h : w.Shows (.scalar (.kind .text) id (.text text))) :
    ∃ id', w = .scalar (.kind .text) id' (.text text) := by
  rcases h with rfl | ⟨cls, i, j, scalar, heq, rfl⟩
  · exact ⟨id, rfl⟩
  · cases heq
    exact ⟨j, rfl⟩

theorem Value.Shows.text?_eq {v w : Value} (h : w.Shows v) : w.text? = v.text? := by
  rcases h with rfl | ⟨cls, id, id', scalar, rfl, rfl⟩
  · rfl
  · cases scalar <;> rfl

namespace Run

variable {c : Conduct} {I : Session → Prop} {s : Session} {v : Value}

/-- What can be called is accepted. -/
theorem exec_requireCallable_of_isCallable (c : Conduct) (hv : s.heap.isCallable v = true)
    (factory label : String) : exec c (Build.requireCallable factory label v) s = .ok () s := by
  rw [Build.requireCallable, exec_bind, exec_heap, Ending.andThen_ok, hv]
  rfl

theorem settles_identified (hI : Session.Steadfast I) (hs : I s) (v : Value) :
    Settles c I s (identified v) fun w _ => w.Shows v := by
  cases v with
  | scalar cls id scalar =>
    by_cases hv : (id != unidentified || Value.isUnique cls scalar) = true
    · refine .of_exec_self hs (exec_identified_of_isIdentified c hv) (.inl rfl)
    · have hfresh : exec c (identified (.scalar cls id scalar)) s =
          .ok (.scalar cls s.heap.next scalar) (s.withNext (s.heap.next + 1)) := by
        rw [identified, if_neg hv]
        rfl
      exact .of_exec hI hs hfresh (.withNext (Nat.le_succ _)) (.inr ⟨cls, id, _, scalar, rfl, rfl⟩)
  | _ => exact .of_exec_self hs (exec_identified_of_isIdentified c rfl) (.inl rfl)

theorem exec_rendering (happearance : exec c (appearance v) s = .ok .callable s) :
    exec c (Build.rendering v) s = (exec c (displayName v) s).map .value := by
  rw [Build.rendering, unfold, unfoldWith.eq_def, exec_bind, happearance, Ending.andThen_ok]
  exact exec_bind c s (displayName v) _

/-- A callable with a name that is a text can be shown as an argument. -/
theorem settles_argumentTexts (happearance : exec c (appearance v) s = .ok .callable s)
    (hname : Settles c I s (displayName v) fun a _ => a.text?.isSome = true) :
    Settles c I s (Build.argumentTexts [v]) fun _ _ => True := by
  obtain ⟨a, s', ha, hle, hs', htext⟩ := hname
  obtain ⟨text, htext⟩ := Option.isSome_iff_exists.mp htext
  refine ⟨String.ofList (oneLine [text.toList]), s', ?_, hle, hs', trivial⟩
  simp only [Build.argumentTexts, List.mapM_cons, List.mapM_nil, pure_bind, exec_bind, exec_yielded,
    exec_rendering happearance, ha, Ending.map, Ending.andThen_ok, joinable, exec_pure,
    Ending.yielded_ok, htext]
  rfl

/-- A callable that fails to tell its name cannot be shown as an argument, which a generator yields. -/
theorem exec_argumentTexts_error (happearance : exec c (appearance v) s = .ok .callable s)
    {e : Failure} {s' : Session} (he : exec c (displayName v) s = .error e s') :
    exec c (Build.argumentTexts [v]) s = .error e.yielded s' := by
  simp only [Build.argumentTexts, List.mapM_cons, List.mapM_nil, pure_bind, exec_bind, exec_yielded,
    exec_rendering happearance, he, Ending.map, Ending.andThen_error, Ending.yielded_error]

/-- A predicate or a function is taken for a callable. -/
theorem exec_appearance (hs : s.heap.Intact) (hv : v.coreKind? = some .predicate ∨
    v.coreKind? = some .function) : exec c (appearance v) s = .ok .callable s := by
  obtain ⟨k, hk, hcall, hundefined, hplain, hclass⟩ : ∃ k, v.coreKind? = some k ∧
      (Heap.start.classSlot? .call (.kind k)).isSome = true ∧
      Heap.start.hasKind (.kind k) .undefined = false ∧ v.isPlain = false ∧ v.isClass = false := by
    rcases hv with hv | hv
    all_goals
      refine ⟨_, hv, rfl, rfl, ?_⟩
      unfold Value.coreKind? at hv
      split at hv <;> first | exact ⟨rfl, rfl⟩ | cases hv
  have happearance : s.heap.appearance v = .callable := by
    rw [Heap.appearance, Heap.isPrimitive, hplain, hs.isOfKind hk, hundefined, hclass,
      Heap.isCallable, hs.slot? hk, hcall]
    rfl
  rw [appearance, exec_bind, exec_heap, Ending.andThen_ok, exec_bind, exec_asksForClass,
    Ending.andThen_ok, hs.readsAttributes hk, Bool.not_false, if_pos rfl, exec_pure, happearance]

/-- The name of a predicate is a text. -/
theorem settles_displayName_predicate (hI : Session.Steadfast I) (hs : I s) (id : Nat) (name : Name)
    (facets : Facets) (decider : Value) :
    Settles c I s (displayName (.predicate id name facets decider)) fun a _ =>
      a.text?.isSome = true := by
  rw [Settles, exec_displayName c (hI.sound hs).intact]
  refine (settles_identified hI hs (.ofName name)).mono fun a _ _ _ ha => ?_
  rw [ha.text?_eq]
  rfl

/-- A predicate tells its optional facet. -/
theorem exec_isOptional (c : Conduct) (hs : s.heap.Intact) (id : Nat) (name : Name) (facets : Facets)
    (decider : Value) :
    exec c (Build.isOptional (.predicate id name facets decider)) s = .ok (.bool facets.optional) s := by
  rw [Build.isOptional, Build.facetOf, exec_bind, exec_isPredicate c hs, Ending.andThen_ok, if_pos rfl,
    exec_readOptional c hs]

theorem exec_facetOf_function (c : Conduct) (hs : s.heap.Intact) (hv : v.coreKind? = some .function)
    (facet : String) : exec c (Build.facetOf facet v) s = .ok (.bool false) s := by
  rw [Build.facetOf, exec_bind, exec_isOfKind c (hs.readsAttributes hv), hs.isOfKind hv]
  rfl

/-- The name that a function is shown by, which is that of its class if it has an empty one. -/
def shownFunctionName (text : String) : String := if text = "" then Kind.function.name else text

/-- The name of a function is a text, if it has its name. -/
theorem settles_displayName_function (hI : Session.Steadfast I) (hs : I s)
    (hv : v.coreKind? = some .function) {id : Nat} {text : String}
    (hname : s.heap.nameAttribute v = some (.scalar (.kind .text) id (.text text)))
    (hlt : text.length < maxIndex) :
    Settles c I s (displayName v) fun a _ =>
      ∃ id, a = .scalar (.kind .text) id (.text (shownFunctionName text)) := by
  have hi := (hI.sound hs).intact
  have hkind : exec c (isOfKind v .predicate) s = .ok false s := by
    rw [exec_isOfKind c (hi.readsAttributes hv), hi.isOfKind hv]
    rfl
  have hattribute (name : Value) (s' : Session)
      (hread : exec c (identified (.scalar (.kind .text) id (.text text))) s = .ok name s') :
      exec c (attribute? v Heap.nameField) s = .ok (some name) s' := by
    obtain ⟨hread', hmissing⟩ := hi.slot?_reading hv
    rw [attribute?, exec_recovering, readAttribute,
      exec_readAttributeUpTo c hread' hmissing, s.heap.find?_name hv, hname, Option.map_some]
    simp only [readFound, hread]
  have hshown : Settles c I s (attribute? v Heap.nameField) fun a _ =>
      ∃ id', a = some (.scalar (.kind .text) id' (.text text)) := by
    obtain ⟨name, s', hread, hle, hs', hshows⟩ :=
      settles_identified (c := c) hI hs (.scalar (.kind .text) id (.text text))
    obtain ⟨id', rfl⟩ := hshows.text
    exact ⟨_, s', hattribute _ s' hread, hle, hs', id', rfl⟩
  rw [displayName]
  refine .after hkind ?_
  rw [if_neg Bool.false_ne_true]
  refine hshown.bind fun a s' _ hs' ha => ?_
  have hi' := (hI.sound hs').intact
  obtain ⟨id', rfl⟩ := ha
  dsimp only
  refine .after (exec_isText c hi' id' text) ?_
  rw [if_neg (by decide)]
  refine .after (exec_truth_text c hi' id' hlt) ?_
  by_cases hempty : text = ""
  · -- A function without a name goes by the name of its class.
    rw [if_neg (by simp [hempty]), shownFunctionName, if_pos hempty]
    refine .after (exec_heap c s') ((settles_identified hI hs' _).mono fun a _ _ _ ha => ?_)
    rw [Heap.typeNameValue, hi'.classOf hv, Heap.classNameValue,
      hi'.members .function rfl Heap.nameField (by decide)] at ha
    exact ha.text
  · rw [if_pos (by simpa using hempty), shownFunctionName, if_neg hempty]
    exact .of_exec_self hs' rfl ⟨id', rfl⟩

end Run

namespace Value.Presents

variable {c : Conduct} {I : Session → Prop}

/-- Every predicate tells the facets that it was made with. -/
theorem predicate (hI : Session.Steadfast I) (id : Nat) (name : Name) (facets : Facets)
    (decider : Value) : (Value.predicate id name facets decider).Presents c I facets where
  callable {s} hs := by
    rw [Heap.isCallable, (hI.sound hs).intact.slot? rfl]
    rfl
  optional hs := .of_exec_self hs (exec_isOptional c (hI.sound hs).intact id name facets decider) rfl
  readonly {s} hs := by
    have hi := (hI.sound hs).intact
    refine .of_exec_self hs ?_ rfl
    rw [Build.isReadonly, Build.facetOf, exec_bind, exec_isPredicate c hi, Ending.andThen_ok,
      if_pos rfl, exec_readReadonly c hi]
  text hs :=
    settles_argumentTexts (exec_appearance (hI.sound hs).intact (.inl rfl))
      (settles_displayName_predicate hI hs id name facets decider)
  name hs :=
    (settles_displayName_predicate hI hs id name facets decider).mono fun _ _ _ _ _ => trivial
  identified := rfl

/-- Every function that has its name presents itself without facets. -/
theorem function (hI : Session.Steadfast I) {v : Value} (hv : v.coreKind? = some .function)
    (hname : ∀ s, I s → ∃ id text, s.heap.nameAttribute v =
      some (.scalar (.kind .text) id (.text text)) ∧ text.length < maxIndex) :
    v.Presents c I .none where
  callable {s} hs := by
    rw [Heap.isCallable, (hI.sound hs).intact.slot? hv]
    rfl
  optional hs := .of_exec_self hs (exec_facetOf_function c (hI.sound hs).intact hv _) rfl
  readonly hs := .of_exec_self hs (exec_facetOf_function c (hI.sound hs).intact hv _) rfl
  text {s} hs := by
    obtain ⟨id, text, htext, hlt⟩ := hname s hs
    refine settles_argumentTexts (exec_appearance (hI.sound hs).intact (.inr hv))
      ((settles_displayName_function hI hs hv htext hlt).mono fun a _ _ _ ha => ?_)
    obtain ⟨_, rfl⟩ := ha
    rfl
  name {s} hs := by
    obtain ⟨id, text, htext, hlt⟩ := hname s hs
    exact (settles_displayName_function hI hs hv htext hlt).mono fun _ _ _ _ _ => trivial
  identified := by
    unfold Value.coreKind? at hv
    split at hv <;> cases hv <;> rfl

end Value.Presents

end ValueShape
