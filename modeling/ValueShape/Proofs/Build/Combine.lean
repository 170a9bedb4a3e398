import ValueShape.Proofs.Build.Enter

/-!
# Combinators register what they build

What a factory returns has an entry, here for those without fields: sequences, choices, literals, classes
and records.  The arguments in the entry were given to the factory, or are asked by what it returns
(`Heap.Earlier`).  None of these entries is under a name that the library relies on.
-/

set_option autoImplicit false

namespace ValueShape

namespace Run

variable {kept : Nat → Prop} {c : Conduct} {n : Nat} {s : Session} {given : List Value}

section

variable (hc : c.Serves kept) (hs : s.WellFormed kept) (hn : n ≤ s.heap.next)
include hc hs hn

/-- A product under a name that the library does not rely on. -/
theorem brings_entering {factory : String} (hname : isReserved factory = false) (hne : factory ≠ "")
    (hlt : factory.length < maxIndex) {args : List Value} (name : String) {check : Rule}
    (hargs : ∀ id name id', ∀ a ∈ args,
      s.heap.Earlier kept given (.predicate id name .none (.rule id' check)) a) :
    Brings kept c n s (Build.product factory args name check) fun v s' => s'.Enters kept n given v := by
  have hproduct := (brings_product hc hs hn hne hlt args name check fun _ _ _ _ => .other hname).with_goes
  refine hproduct.imp fun v s' hv => ?_
  obtain ⟨hgoes, ⟨id, name, id', hid, rfl⟩, hascribes⟩ := hv
  exact ⟨⟨id, name, _, _, rfl, hid⟩, factory, args, hascribes, fun a ha =>
    (hargs id name id' a ha).evolves hgoes.heap⟩

/-- A product whose arguments were all given. -/
theorem brings_entering_given {factory : String} (hname : isReserved factory = false)
    (hne : factory ≠ "") (hlt : factory.length < maxIndex) (args : List Value) (name : String)
    (check : Rule) : Brings kept c n s (Build.product factory args name check) fun v s' =>
      s'.Enters kept n args v :=
  brings_entering hc hs hn hname hne hlt name fun _ _ _ _ ha => .given ha

/-! ## Sequences

A factory checks its arguments, which registers nothing, and ends with `Run.brings_product`. What
differs from factory to factory is which callables the product asks, and these have to be older than
the product. -/

theorem brings_array (item : Value) :
    Brings kept c n s (Build.array item) fun v s' => s'.Enters kept n [item] v := by
  rw [Build.array]
  refine .skip (Keeps.requireCallable hc.keeps _ _ _) hs hn fun _ s₁ hs₁ hn₁ => ?_
  refine .skip (Keeps.callName hc.keeps _ _) hs₁ hn₁ fun name s₂ hs₂ hn₂ => ?_
  exact brings_entering_given hc hs₂ hn₂ (by decide) (by decide) (by decide) _ name _

theorem brings_positionalArgs (head : List Value) (rest : Option Value) :
    Brings kept c n s (Build.positionalArgs head rest) fun args _ =>
      ∃ id, args = .tuple (.kind .tuple) id head :: rest.toList := by
  rw [Build.positionalArgs]
  refine (brings_tuple hc hs hn head).bind fun v s₁ _ h₁ hv => ?_
  obtain ⟨id, rfl⟩ := hv
  exact .pure _ h₁.wellFormed ⟨id, rfl⟩

/-- A product with positions and a rest, all of which it asks. -/
theorem brings_positional {factory : String} (hname : isReserved factory = false)
    (hne : factory ≠ "") (hlt : factory.length < maxIndex) (head : List Value) (rest : Option Value)
    {check : Rule} (hcheck : check.callables = head ++ rest.toList) :
    Brings kept c n s (do
      let args ← Build.positionalArgs head rest
      Build.product factory args (← Build.listName factory head rest) check) fun v s' =>
        s'.Enters kept n rest.toList v := by
  refine (brings_positionalArgs hc hs hn head rest).bind fun args s₁ _ h₁ hargs => ?_
  obtain ⟨idArgs, rfl⟩ := hargs
  have hn₁ := Nat.le_trans hn h₁.heap.next
  refine .skip (Keeps.listName hc.keeps _ _ _) h₁.wellFormed hn₁ fun name s₂ hs₂ hn₂ => ?_
  refine brings_entering hc hs₂ hn₂ hname hne hlt name fun id name id' a ha => ?_
  rcases List.mem_cons.mp ha with rfl | ha
  · refine .tuple fun q hq _ => Value.mem_asked_of_mem_callables ?_ id name _ id'
    rw [hcheck]
    exact List.mem_append_left _ hq
  · exact .given ha

theorem brings_tupleOf (naming : TupleNaming) (preds : Value) (rest : Option Value) :
    Brings kept c n s (Build.tuple naming preds rest) fun v s' =>
      s'.Enters kept n rest.toList v := by
  rw [Build.tuple]
  refine .skip (Keeps.requireCallables hc.keeps _ _ _) hs hn fun head s₁ hs₁ hn₁ => ?_
  refine .skip (Keeps.forM hc.keeps (Keeps.requireCallable hc.keeps _ _) rest) hs₁ hn₁
    fun _ s₂ hs₂ hn₂ => ?_
  cases naming <;>
    exact brings_positional hc hs₂ hn₂ (by decide) (by decide) (by decide) head rest rfl

theorem brings_parameters (preds : Value) (rest : Option Value) :
    Brings kept c n s (Build.parameters preds rest) fun v s' => s'.Enters kept n rest.toList v := by
  rw [Build.parameters]
  refine .skip (Keeps.requireCallables hc.keeps _ _ _) hs hn fun head s₁ hs₁ hn₁ => ?_
  refine .skip (Keeps.forM hc.keeps (Keeps.requireCallable hc.keeps _ _) rest) hs₁ hn₁
    fun _ s₂ hs₂ hn₂ => ?_
  refine .skip (Keeps.requiredCount hc.keeps _) hs₂ hn₂ fun required s₃ hs₃ hn₃ => ?_
  exact brings_positional hc hs₃ hn₃ (by decide) (by decide) (by decide) head rest rfl

/-! ## Choices -/

/-- A product with members, all of which it asks. -/
theorem brings_members {factory : String} (hname : isReserved factory = false)
    (hne : factory ≠ "") (hlt : factory.length < maxIndex) (members : List Value)
    {check : Rule} (hcheck : ∀ q ∈ members, q.coreKind? = some .predicate → q ∈ check.callables) :
    Brings kept c n s (do
      let args ← Run.tuple members
      Build.product factory [args] (← Build.listName factory members none) check) fun v s' =>
        s'.Enters kept n given v := by
  refine (brings_tuple hc hs hn members).bind fun args s₁ _ h₁ hargs => ?_
  obtain ⟨idArgs, rfl⟩ := hargs
  have hn₁ := Nat.le_trans hn h₁.heap.next
  refine .skip (Keeps.listName hc.keeps _ _ _) h₁.wellFormed hn₁ fun name s₂ hs₂ hn₂ => ?_
  refine brings_entering hc hs₂ hn₂ hname hne hlt name fun id name id' a ha => ?_
  obtain rfl := List.mem_singleton.mp ha
  exact .tuple fun q hq hkind => Value.mem_asked_of_mem_callables (hcheck q hq hkind) id name _ id'

theorem brings_oneOf (preds : Value) :
    Brings kept c n s (Build.oneOf preds) fun v s' => s'.Enters kept n [] v := by
  rw [Build.oneOf]
  refine .skip (Keeps.requireCallables hc.keeps _ _ _) hs hn fun members s₁ hs₁ hn₁ => ?_
  exact brings_members hc hs₁ hn₁ (by decide) (by decide) (by decide) members fun _ hq _ => hq

theorem brings_allOf (preds : Value) :
    Brings kept c n s (Build.allOf preds) fun v s' => s'.Enters kept n [] v := by
  rw [Build.allOf]
  refine .skip (Keeps.requireCallables hc.keeps _ _ _) hs hn fun members s₁ hs₁ hn₁ => ?_
  exact brings_members hc hs₁ hn₁ (by decide) (by decide) (by decide) members fun _ hq _ => hq

theorem brings_literal (literal : Value) :
    Brings kept c n s (Build.literal literal) fun v s' => s'.Enters kept n [literal] v := by
  rw [Build.literal]
  refine .skip (Keeps.isPrimitive hc.keeps _) hs hn fun isPrimitive s₁ hs₁ hn₁ => ?_
  have hbuild {s' : Session} (hs' : s'.WellFormed kept) (hn' : n ≤ s'.heap.next) :
      Brings kept c n s' (do
        Build.product Operation.literalOf.name [literal]
          (← Build.callName Operation.literalOf.name [literal]) (.literal literal))
        fun v s' => s'.Enters kept n [literal] v :=
    .skip (Keeps.callName hc.keeps _ _) hs' hn' fun name s₂ hs₂ hn₂ =>
      brings_entering_given hc hs₂ hn₂ (by decide) (by decide) (by decide) _ name _
  cases isPrimitive with
  | true => exact hbuild hs₁ hn₁
  | false =>
    refine .skip (Keeps.shownClass hc.keeps _) hs₁ hn₁ fun _ s₂ hs₂ hn₂ => ?_
    exact .throw_bind _ hs₂

theorem brings_instanceOf (cls : Value) :
    Brings kept c n s (Build.instanceOf cls) fun v s' => s'.Enters kept n [cls] v := by
  rw [Build.instanceOf]
  refine .skip (Keeps.isOfKind hc.keeps _ _) hs hn fun isClass s₁ hs₁ hn₁ => ?_
  cases cls.class?.filter fun _ => isClass with
  | none =>
    refine .skip (Keeps.shownClass hc.keeps _) hs₁ hn₁ fun _ s₂ hs₂ hn₂ => .throw _ hs₂
  | some k =>
    refine .skip (Keeps.callName hc.keeps _ _) hs₁ hn₁ fun name s₂ hs₂ hn₂ => ?_
    exact brings_entering_given hc hs₂ hn₂ (by decide) (by decide) (by decide) _ name _

/-! ## Mappings -/

theorem brings_record (item : Value) :
    Brings kept c n s (Build.record item) fun v s' => s'.Enters kept n [item] v := by
  rw [Build.record]
  refine .skip (Keeps.requireCallable hc.keeps _ _ _) hs hn fun _ s₁ hs₁ hn₁ => ?_
  refine .skip (Keeps.callName hc.keeps _ _) hs₁ hn₁ fun name s₂ hs₂ hn₂ => ?_
  exact brings_entering_given hc hs₂ hn₂ (by decide) (by decide) (by decide) _ name _

/-! ## Literals -/

/-- A predicate is no primitive. -/
theorem brings_isPrimitive (v : Value) :
    Brings kept c n s (Run.isPrimitive v) fun b _ => b = true → v.coreKind? ≠ some .predicate := by
  refine ⟨((Keeps.isPrimitive hc.keeps v) s hs).mono hn, ?_⟩
  rintro b s' hb rfl hv
  have hi := hs.guarded.toIntact
  have hplain : v.isPlain = false := by
    unfold Value.coreKind? at hv
    split at hv <;> first | rfl | cases hv
  rw [Run.isPrimitive, exec_bind, exec_asksForClass, Ending.andThen_ok, hi.readsAttributes hv] at hb
  simp only [Bool.false_eq_true, if_false, exec_bind, exec_heap, Ending.andThen_ok, exec_pure,
    Heap.isPrimitive, hplain, hi.isOfKind hv] at hb
  cases hb

theorem brings_requirePrimitives (factory : String) (index : Nat) (vs : List Value) :
    Brings kept c n s (Build.requirePrimitives factory index vs) fun _ _ =>
      ∀ v ∈ vs, v.coreKind? ≠ some .predicate := by
  induction vs generalizing index s with
  | nil => exact .pure _ hs nofun
  | cons v vs ih =>
    rw [Build.requirePrimitives]
    refine (brings_isPrimitive hc hs hn v).bind fun isPrimitive s₁ _ h₁ hv => ?_
    have hn₁ := Nat.le_trans hn h₁.heap.next
    cases isPrimitive with
    | true =>
      exact (ih h₁.wellFormed hn₁ (index + 1)).imp fun _ _ hvs =>
        List.forall_mem_cons.mpr ⟨hv rfl, hvs⟩
    | false =>
      refine .skip (Keeps.shownClass hc.keeps _) h₁.wellFormed hn₁ fun _ s₂ hs₂ hn₂ => ?_
      exact .throw_bind _ hs₂

theorem brings_toTuple (v : Value) :
    Brings kept c n s (Run.toTuple v) fun w _ => ∃ id items, w = .tuple (.kind .tuple) id items := by
  unfold Run.toTuple
  split
  · exact .pure _ hs ⟨_, _, rfl⟩
  · refine .skip (Keeps.iterate hc.keeps _) hs hn fun items s₁ hs₁ hn₁ => ?_
    exact (brings_tuple hc hs₁ hn₁ items).imp fun w _ ⟨id, hw⟩ => ⟨id, items, hw⟩

theorem brings_literals (values : Value) :
    Brings kept c n s (Build.literals values) fun v s' => s'.Enters kept n [] v := by
  have hbuild {s : Session} (hs : s.WellFormed kept) (hn : n ≤ s.heap.next) :
      Brings kept c n s (do
        let args ← Run.toTuple values
        let literals := ((← Run.heap).contained? args).getD []
        Build.requirePrimitives Operation.literalOneOf.name 0 literals
        Build.product Operation.literalOneOf.name [args]
          (← Build.listName Operation.literalOneOf.name literals none) (.literals literals))
        fun v s' => s'.Enters kept n [] v := by
    refine (brings_toTuple hc hs hn values).bind fun args s₁ _ h₁ hargs => ?_
    obtain ⟨id, items, rfl⟩ := hargs
    have hn₁ := Nat.le_trans hn h₁.heap.next
    refine .skip (Keeps.heap hc.keeps) h₁.wellFormed hn₁ fun h s₂ hs₂ hn₂ => ?_
    refine (brings_requirePrimitives hc hs₂ hn₂ _ 0 items).bind fun _ s₃ _ h₃ hitems => ?_
    have hn₃ := Nat.le_trans hn₂ h₃.heap.next
    refine .skip (Keeps.listName hc.keeps _ _ _) h₃.wellFormed hn₃ fun name s₄ hs₄ hn₄ => ?_
    refine brings_entering hc hs₄ hn₄ (by decide) (by decide) (by decide) name
      fun id name id' a ha => ?_
    obtain rfl := List.mem_singleton.mp ha
    exact .tuple fun q hq hkind => absurd hkind (hitems q hq)
  have hsuitable (b : Bool) {s : Session} (hs : s.WellFormed kept) (hn : n ≤ s.heap.next) :
      Brings kept c n s (do
        if !b then
          throw (.refusal Operation.literalOneOf.name
            ("values must be a sequence or set of primitives, got " ++ (← shownClass values)))
        let args ← Run.toTuple values
        let literals := ((← Run.heap).contained? args).getD []
        Build.requirePrimitives Operation.literalOneOf.name 0 literals
        Build.product Operation.literalOneOf.name [args]
          (← Build.listName Operation.literalOneOf.name literals none) (.literals literals))
        fun v s' => s'.Enters kept n [] v := by
    cases b with
    | true => exact hbuild hs hn
    | false =>
      refine .skip (Keeps.shownClass hc.keeps _) hs hn fun _ s₁ hs₁ hn₁ => ?_
      exact .throw_bind _ hs₁
  rw [Build.literals]
  refine .skip (Keeps.isTextual hc.keeps _) hs hn fun isTextual s₁ hs₁ hn₁ => ?_
  cases isTextual with
  | true => exact hsuitable false hs₁ hn₁
  | false =>
    exact .skip (Keeps.isOfAnyKind hc.keeps _ _) hs₁ hn₁ fun b s₂ hs₂ hn₂ => hsuitable b hs₂ hn₂

end

end Run

end ValueShape
