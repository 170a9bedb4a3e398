import ValueShape.Proofs.Build.Combine

/-!
# Modifiers register what they build

A modifier that adds a facet registers a layer which fits what is inside (`Run.brings_layer`), or returns
what has the facet already.  Taking the optional facet off registers nothing but readonly layers.  So do
tuples with the same predicate everywhere, which are built around another tuple.
-/

set_option autoImplicit false

namespace ValueShape

namespace Run

variable {kept : Nat → Prop} {c : Conduct} {n : Nat} {s : Session}

section

variable (hc : c.Serves kept)
include hc

@[grind .] theorem Keeps.tupleOf (naming : TupleNaming) (preds : Value) (rest : Option Value) :
    Keeps (Session.Proceeds kept) c (Build.tuple naming preds rest) := fun _ hs =>
  (brings_tupleOf hc hs (Nat.le_refl _) naming preds rest).goes

@[grind .] theorem Keeps.checkedTuple (head : List Value) (rest : Option Value) :
    Keeps (Session.Proceeds kept) c (Build.checkedTuple Operation.tupleOf.name head rest) := fun _ hs =>
  (brings_positional hc hs (Nat.le_refl _) (by decide) (by decide) (by decide) head rest rfl).goes

end

section

variable (hc : c.Serves kept) (hs : s.WellFormed kept) (hn : n ≤ s.heap.next)
include hc hs hn

theorem brings_uniformTuple (naming : TupleNaming) (number item : Value) :
    Brings kept c n s (Build.uniformTuple naming number item) fun v s' =>
      s'.Enters kept n [number, item] v := by
  have hname : isReserved naming.uniformTupleOf.name = false := by cases naming <;> decide
  have hne : naming.uniformTupleOf.name ≠ "" := by cases naming <;> decide
  have hlt : naming.uniformTupleOf.name.length < maxIndex := by cases naming <;> decide
  have hbuild (inner : Value) {s : Session} (hs : s.WellFormed kept) (hn : n ≤ s.heap.next) :
      Brings kept c n s (do
        Build.productBy naming.uniformTupleOf.name [number, item]
          (← Build.callName naming.uniformTupleOf.name [number, item]) (.bool false) (.bool false)
          inner) fun v s' => s'.Enters kept n [number, item] v := by
    refine .skip (Keeps.callName hc.keeps _ _) hs hn fun name s₁ hs₁ hn₁ => ?_
    refine (brings_productBy hc hs₁ hn₁ hne hlt _ name _ _ inner fun _ _ _ _ _ _ =>
      .other hname).imp fun v s' hv => ?_
    obtain ⟨⟨id, name, f, hid, rfl, -⟩, hascribes⟩ := hv
    exact ⟨⟨id, name, f, inner, rfl, hid⟩, _, _, hascribes, fun a ha => .given ha⟩
  rw [Build.uniformTuple]
  refine .skip (Keeps.requireLength hc.keeps _ _) hs hn fun length s₁ hs₁ hn₁ => ?_
  refine .skip (Keeps.requireCallable hc.keeps _ _ _) hs₁ hn₁ fun _ s₂ hs₂ hn₂ => ?_
  refine .skip (Keeps.repeated? hc.keeps _ _) hs₂ hn₂ fun preds s₃ hs₃ hn₃ => ?_
  cases preds with
  | some preds =>
    exact .skip (Keeps.tupleOf hc _ _ _) hs₃ hn₃ fun inner s₄ hs₄ hn₄ => hbuild inner hs₄ hn₄
  | none =>
    dsimp only
    split
    · exact .skip (Keeps.heap hc.keeps) hs₃ hn₃ fun h s₄ hs₄ _ => .throw_bind _ hs₄
    · split
      · exact .throw_bind _ hs₃
      · exact .skip (Keeps.checkedTuple hc _ _) hs₃ hn₃ fun inner s₄ hs₄ hn₄ => hbuild inner hs₄ hn₄

/-! ## Callables and facets -/

theorem brings_requireCallable (factory label : String) (v : Value) :
    Brings kept c n s (Build.requireCallable factory label v) fun _ s' =>
      s'.heap.isCallable v = true := by
  refine ⟨((Keeps.requireCallable hc.keeps factory label v) s hs).mono hn, fun a s' ha => ?_⟩
  rw [Build.requireCallable, exec_bind, exec_heap, Ending.andThen_ok] at ha
  cases hv : s.heap.isCallable v with
  | true =>
    rw [hv] at ha
    cases ha
    exact hv
  | false =>
    simp only [hv, Bool.not_false, if_true] at ha
    obtain ⟨b, s₁, -, hthrow⟩ := exists_of_exec_bind ha
    cases hthrow

/-- Whether a value has the optional facet is what it tells, if it tells that. -/
theorem brings_truth_optional (q : Value) :
    Brings kept c n s (do truth (← Build.isOptional q)) fun b _ =>
      ∀ f, q.Tells f → b = f.optional := by
  have hkeeps : Keeps (Session.Proceeds kept) c (do truth (← Build.isOptional q)) :=
    Keeps.bind hc.keeps (Keeps.isOptional hc.keeps q) fun v => Keeps.truth hc.keeps v
  refine ⟨(hkeeps s hs).mono hn, fun b s' hb f hf => ?_⟩
  rw [exec_bind, (hf c s hs.guarded.toIntact).1, Ending.andThen_ok, truth_bool] at hb
  cases hb
  rfl

theorem brings_truth_readonly (q : Value) :
    Brings kept c n s (do truth (← Build.isReadonly q)) fun b _ =>
      ∀ f, q.Tells f → b = f.readonly := by
  have hkeeps : Keeps (Session.Proceeds kept) c (do truth (← Build.isReadonly q)) :=
    Keeps.bind hc.keeps (Keeps.isReadonly hc.keeps q) fun v => Keeps.truth hc.keeps v
  refine ⟨(hkeeps s hs).mono hn, fun b s' hb f hf => ?_⟩
  rw [exec_bind, (hf c s hs.guarded.toIntact).2, Ending.andThen_ok, truth_bool] at hb
  cases hb
  rfl

theorem brings_isOptional (q : Value) :
    Brings kept c n s (Build.isOptional q) fun v _ => ∀ f, q.Tells f → v = .bool f.optional := by
  refine ⟨((Keeps.isOptional hc.keeps q) s hs).mono hn, fun v s' hv f hf => ?_⟩
  cases (hf c s hs.guarded.toIntact).1.symm.trans hv
  rfl

theorem brings_isReadonly (q : Value) :
    Brings kept c n s (Build.isReadonly q) fun v _ => ∀ f, q.Tells f → v = .bool f.readonly := by
  refine ⟨((Keeps.isReadonly hc.keeps q) s hs).mono hn, fun v s' hv f hf => ?_⟩
  cases (hf c s hs.guarded.toIntact).2.symm.trans hv
  rfl

/-! ## Adding facets

A modifier returns its argument if that has the facet already, and builds a layer otherwise.  In
both cases the result is registered, or it was there before. -/

/-- A modifier registers what it has built around a callable, if that fits. -/
theorem brings_layer {m : Modifier} (hne : m.name ≠ "") (hlt : m.name.length < maxIndex) (q : Value)
    (name : String) (optional readonly decider : Value)
    (hfits : ∀ id name f, id ≠ 0 → (∀ b, optional = .bool b → f.optional = b) →
      (∀ b, readonly = .bool b → f.readonly = b) →
        s.heap.Fits kept (.predicate id name f decider) m.name [q]) :
    Brings kept c n s (do
      let wrapped ← Build.productBy m.name [q] name optional readonly decider
      Build.logDecision m .wrap q
      return wrapped) fun v s' => v = q ∨ s'.Enters kept n [q] v := by
  refine (brings_productBy hc hs hn hne hlt [q] name _ _ _ hfits).bind fun v s₁ _ h₁ hv => ?_
  have hn₁ := Nat.le_trans hn h₁.heap.next
  refine .after (Keeps.logDecision hc.keeps _ _ _) h₁.wellFormed hn₁ fun _ s₂ h₂ => ?_
  obtain ⟨⟨id, name, f, hid, rfl, -⟩, hascribes⟩ := hv
  exact .pure _ h₂.wellFormed (.inr ⟨⟨id, name, f, decider, rfl, hid⟩, _, _,
    hascribes.leadsTo h₂.leadsTo, fun a ha => .given ha⟩)

/-- A modifier returns what has the facet already. -/
theorem brings_noop (m : Modifier) (q : Value) :
    Brings kept c n s (do Build.logDecision m .noop q; return q) fun v s' =>
      v = q ∨ s'.Enters kept n [q] v :=
  .skip (Keeps.logDecision hc.keeps _ _ _) hs hn fun _ _ hs₁ _ => .pure _ hs₁ (.inl rfl)

/-- What is returned was given, or is a new predicate that is registered. -/
theorem brings_optional (q : Value) :
    Brings kept c n s (Build.optional q) fun v s' => v = q ∨ s'.Enters kept n [q] v := by
  rw [Build.optional]
  refine (brings_requireCallable hc hs hn _ _ q).bind fun _ s₁ _ h₁ hcallable => ?_
  have hn₁ := Nat.le_trans hn h₁.heap.next
  rw [← bind_assoc]
  refine (brings_truth_optional hc h₁.wellFormed hn₁ q).bind fun isOptional s₂ _ h₂ hoptional => ?_
  have hn₂ := Nat.le_trans hn₁ h₂.heap.next
  cases isOptional with
  | true => exact brings_noop hc h₂.wellFormed hn₂ .optional q
  | false =>
    refine (brings_isReadonly hc h₂.wellFormed hn₂ q).bind fun readonly s₃ _ h₃ hreadonly => ?_
    have hn₃ := Nat.le_trans hn₂ h₃.heap.next
    refine .after (Keeps.callName hc.keeps _ _) h₃.wellFormed hn₃ fun name s₄ h₄ => ?_
    have hn₄ := Nat.le_trans hn₃ h₄.heap.next
    refine .after (Keeps.fresh hc.keeps) h₄.wellFormed hn₄ fun id s₅ h₅ => ?_
    have hn₅ := Nat.le_trans hn₄ h₅.heap.next
    have hheap := ((h₂.heap.trans h₃.heap).trans h₄.heap).trans h₅.heap
    refine brings_layer hc h₅.wellFormed hn₅ (by decide) (by decide) q name _ _ _
      fun id' name' f hid ho hr => ?_
    obtain ⟨o, r⟩ := f
    obtain rfl : o = true := ho true rfl
    -- The facets are those from before the name was put together, and `q` has told them since.
    refine .optional hid (hheap.callable q hcallable) fun f hf => ?_
    obtain ⟨o', r'⟩ := f
    have ho' : o' = false := (hoptional _ hf).symm
    have hr' : r = r' := hr _ (hreadonly _ hf)
    rw [ho', hr']

theorem brings_readonly (q : Value) :
    Brings kept c n s (Build.readonly q) fun v s' => v = q ∨ s'.Enters kept n [q] v := by
  rw [Build.readonly]
  refine (brings_requireCallable hc hs hn _ _ q).bind fun _ s₁ _ h₁ hcallable => ?_
  have hn₁ := Nat.le_trans hn h₁.heap.next
  rw [← bind_assoc]
  refine (brings_truth_readonly hc h₁.wellFormed hn₁ q).bind fun isReadonly s₂ _ h₂ hreadonly => ?_
  have hn₂ := Nat.le_trans hn₁ h₂.heap.next
  cases isReadonly with
  | true => exact brings_noop hc h₂.wellFormed hn₂ .readonly q
  | false =>
    refine (brings_isOptional hc h₂.wellFormed hn₂ q).bind fun optional s₃ _ h₃ hoptional => ?_
    have hn₃ := Nat.le_trans hn₂ h₃.heap.next
    refine .after (Keeps.callName hc.keeps _ _) h₃.wellFormed hn₃ fun name s₄ h₄ => ?_
    have hheap := (h₂.heap.trans h₃.heap).trans h₄.heap
    refine brings_layer hc h₄.wellFormed (Nat.le_trans hn₃ h₄.heap.next) (by decide) (by decide) q
      name _ _ _ fun id' name' f hid ho hr => ?_
    obtain ⟨o, r⟩ := f
    obtain rfl : r = true := hr true rfl
    refine .readonly hid (hheap.callable q hcallable) fun f hf => ?_
    obtain ⟨o', r'⟩ := f
    have ho' : o = o' := ho _ (hoptional _ hf)
    have hr' : r' = false := (hreadonly _ hf).symm
    rw [ho', hr']

end

section

variable (hc : c.Serves kept)
include hc

@[grind .] theorem Keeps.optional (q : Value) : Keeps (Session.Proceeds kept) c (Build.optional q) :=
  fun _ hs => (brings_optional hc hs (Nat.le_refl _) q).goes

@[grind .] theorem Keeps.readonly (q : Value) : Keeps (Session.Proceeds kept) c (Build.readonly q) :=
  fun _ hs => (brings_readonly hc hs (Nat.le_refl _) q).goes

@[grind .] theorem Keeps.requiredUpTo (fuel : Nat) (q : Value) :
    Keeps (Session.Proceeds kept) c (Build.requiredUpTo fuel q) := by
  have hk := hc.keeps
  induction fuel generalizing q with
  | zero => exact Keeps.throw hk _
  | succ fuel ih =>
    unfold Build.requiredUpTo
    refine Keeps.bind hk (Keeps.requireCallable hk _ _ _) fun _ => ?_
    refine Keeps.bind hk (Keeps.isOptional hk _) fun optional => ?_
    refine Keeps.bind hk (Keeps.truth hk _) fun isOptional => ?_
    cases isOptional with
    | false => grind
    | true =>
      have hlayer (metadata : Value) (m : Modifier) : Keeps (Session.Proceeds kept) c (do
          Build.logDecision .required .unwrap q
          let inner ← Build.wrappedBy metadata
          if m == .optional then return inner
          else Build.readonly (← Build.requiredUpTo fuel inner)) := by
        refine Keeps.bind hk (Keeps.logDecision hk _ _ _) fun _ => ?_
        refine Keeps.bind hk (Keeps.wrappedBy hk _) fun inner => ?_
        cases m with
        | optional => exact Keeps.pure hk inner
        | _ => exact Keeps.bind hk (ih inner) fun v => Keeps.readonly hc v
      have hrefusal : Keeps (Session.Proceeds kept) c (do
          MonadExcept.throw (Failure.refusal Modifier.required.name
            ("cannot unwrap optional predicate " ++ (← Run.shown (← Run.displayName q)) ++
              ": it was not produced by make_optional")) : Run Value) := by
        grind
      refine Keeps.bind hk (Keeps.metadata? hk _) fun metadata => ?_
      cases metadata with
      | none => exact hrefusal
      | some metadata =>
        refine Keeps.bind hk (Keeps.wrapper? hk _) fun m => ?_
        cases m with
        | none => exact hrefusal
        | some m => exact hlayer metadata m

@[grind .] theorem Keeps.required (q : Value) : Keeps (Session.Proceeds kept) c (Build.required q) := by
  have hk := hc.keeps
  unfold Build.required
  grind

end

end Run

end ValueShape
