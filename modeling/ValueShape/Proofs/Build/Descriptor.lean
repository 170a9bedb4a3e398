import ValueShape.Proofs.Build.Modify

/-!
# Shapes of objects are registered

A factory for objects registers a mapping that describes the fields, and one that tells whether others are
allowed.  Both are new, and nobody else writes to them (`Run.brings_newView`), so they show the fields
as they were.  The factories that derive a shape from another one build it in the same way.  A product of
the caller is registered under the name that the caller has given.
-/

set_option autoImplicit false

namespace ValueShape

namespace Run

variable {kept : Nat → Prop} {c : Conduct} {n : Nat} {s : Session}

section

variable (hc : c.Serves kept) (hs : s.WellFormed kept) (hn : n ≤ s.heap.next)
include hc hs hn

/-! ## Iteration -/

/-- What holds of a result and is not undone holds after each element. -/
theorem brings_foldUpTo {α : Type} {f : α → Value → Run α} {I : α → Session → Prop}
    (hI : ∀ a s s', I a s → s.Goes kept n s' → I a s')
    (hstep : ∀ a v s, s.WellFormed kept → n ≤ s.heap.next → I a s → Brings kept c n s (f a v) I)
    (fuel : Nat) {a : α} (ha : I a s) (cursor : Cursor) :
    Brings kept c n s (foldUpTo f fuel a cursor) I := by
  induction fuel generalizing a cursor s with
  | zero => exact .throw _ hs
  | succ fuel ih =>
    rw [foldUpTo]
    refine .after (Keeps.next hc.keeps _) hs hn fun found s₁ h₁ => ?_
    have hn₁ := Nat.le_trans hn h₁.heap.next
    cases found with
    | none => exact .pure _ h₁.wellFormed (hI a s s₁ ha h₁)
    | some found =>
      refine (hstep a found.1 s₁ h₁.wellFormed hn₁ (hI a s s₁ ha h₁)).bind fun b s₂ _ h₂ hb => ?_
      exact ih h₂.wellFormed (Nat.le_trans hn₁ h₂.heap.next) hb found.2

/-- What is brought about by each use holds of all results. -/
theorem brings_each {α : Type} {use : Nat → Value → Run α} {Q : α → Session → Prop}
    (hQ : ∀ a s s', Q a s → s.Goes kept n s' → Q a s')
    (huse : ∀ i v s, s.WellFormed kept → n ≤ s.heap.next → Brings kept c n s (use i v) Q)
    (cursor : Cursor) :
    Brings kept c n s (each use cursor) fun as s' => ∀ a ∈ as, Q a s' := by
  have hall {as : List α} {s s' : Session} (h : s.Goes kept n s') (has : ∀ a ∈ as, Q a s) :
      ∀ a ∈ as, Q a s' := fun a ha => hQ a s s' (has a ha) h
  rw [each, fold, bind_assoc]
  refine .after (Keeps.limit hc.keeps _) hs hn fun fuel s₁ h₁ => ?_
  have hfold := brings_foldUpTo hc h₁.wellFormed (Nat.le_trans hn h₁.heap.next)
    (I := fun done s => ∀ a ∈ done.2, Q a s)
    (f := fun done v => do return (done.1 + 1, (← use done.1 v) :: done.2))
    (fun done s s' h hgoes => hall hgoes h)
    (fun done v s hs hn hdone => (huse done.1 v s hs hn).bind fun a s₂ _ h₂ ha =>
      .pure _ h₂.wellFormed (List.forall_mem_cons.mpr ⟨ha, hall h₂ hdone⟩))
    fuel (a := (0, [])) nofun cursor
  exact hfold.bind fun done s₂ _ h₂ hdone => .pure _ h₂.wellFormed (by simpa using hdone)

/-! ## New mappings

The mapping of fields is filled before anyone else gets hold of it.  From then on nobody writes to
it, so it is sealed when it is registered. -/

theorem brings_keyed (v : Value) : Brings kept c n s (keyed v) fun key _ => key.value = v := by
  rw [keyed]
  exact .skip (Keeps.hash hc.keeps _) hs hn fun _ _ hs₁ _ => .pure _ hs₁ rfl

theorem brings_insertEntry {A B : Value → Prop} {key : Key Value} {value : Value}
    (hkey : A key.value) (hvalue : B value) {es : List Entry} (hes : ∀ e ∈ es, A e.1.value ∧ B e.2) :
    Brings kept c n s (insertEntry key value es) fun es' _ => ∀ e ∈ es', A e.1.value ∧ B e.2 := by
  induction es generalizing s with
  | nil => exact .pure _ hs (by simp [hkey, hvalue])
  | cons e es ih =>
    obtain ⟨he, hes⟩ := List.forall_mem_cons.mp hes
    rw [insertEntry]
    refine .skip (Keeps.isKey hc.keeps _ _) hs hn fun isKey s₁ hs₁ hn₁ => ?_
    cases isKey with
    | true => exact .pure _ hs₁ (List.forall_mem_cons.mpr ⟨⟨he.1, hvalue⟩, hes⟩)
    | false =>
      exact (ih hs₁ hn₁ hes).bind fun es' s₂ _ h₂ hes' =>
        .pure _ h₂.wellFormed (List.forall_mem_cons.mpr ⟨he, hes'⟩)

/-- The entries that pairs amount to have keys and values of the pairs. -/
theorem brings_distinctEntries {A B : Value → Prop} {pairs : List (Value × Value)}
    (hpairs : ∀ p ∈ pairs, A p.1 ∧ B p.2) :
    Brings kept c n s (distinctEntries pairs) fun es _ => ∀ e ∈ es, A e.1.value ∧ B e.2 := by
  have hfold (es : List Entry) (hes : ∀ e ∈ es, A e.1.value ∧ B e.2) :
      Brings kept c n s (pairs.foldlM (fun es p => do insertEntry (← keyed p.1) p.2 es) es)
        fun es _ => ∀ e ∈ es, A e.1.value ∧ B e.2 := by
    induction pairs generalizing es s with
    | nil => exact .pure _ hs hes
    | cons p pairs ih =>
      obtain ⟨hp, hpairs⟩ := List.forall_mem_cons.mp hpairs
      rw [List.foldlM_cons]
      have hinsert : Brings kept c n s (do insertEntry (← keyed p.1) p.2 es)
          fun es _ => ∀ e ∈ es, A e.1.value ∧ B e.2 := by
        refine (brings_keyed hc hs hn p.1).bind fun key s₁ _ h₁ hkey => ?_
        exact brings_insertEntry hc h₁.wellFormed (Nat.le_trans hn h₁.heap.next) (hkey ▸ hp.1) hp.2
          hes
      exact hinsert.bind fun es' s₁ _ h₁ hes' =>
        ih h₁.wellFormed (Nat.le_trans hn h₁.heap.next) hpairs es' hes'
  exact hfold [] nofun

omit hs in
/-- A new read-only mapping shows a sealed one. -/
theorem brings_newView {pairs : List (Value × Value)} {P : List Entry → Prop}
    (hpairs : Brings kept c n s (distinctEntries pairs) fun es _ => P es) :
    Brings kept c n s (newView pairs) fun v s' => ∃ id place es, v = .view id (.ref place) ∧
      s'.heap.Seals place es ∧ P es := by
  rw [newView, newDict, bind_assoc]
  refine hpairs.bind fun es s₁ _ h₁ hes => ?_
  have hn₁ := Nat.le_trans hn h₁.heap.next
  have halloc : Brings kept c n s₁ (alloc (.kind .dict) (.dict es)) fun v s' =>
      v = .ref s₁.heap.cells.size ∧ s'.heap.Seals s₁.heap.cells.size es := by
    refine ⟨((Keeps.alloc hc.keeps _ _) s₁ h₁.wellFormed).mono hn₁, fun v s' hv => ?_⟩
    cases hv
    exact ⟨rfl, h₁.wellFormed.guarded.seals_alloc es⟩
  refine halloc.bind fun v s₂ _ h₂ hv => ?_
  obtain ⟨rfl, hseals⟩ := hv
  refine ⟨((Keeps.view hc.keeps _) s₂ h₂.wellFormed).mono (Nat.le_trans hn₁ h₂.heap.next),
    fun w s' hw => ?_⟩
  cases hw
  exact ⟨_, _, es, rfl, ⟨hseals.cell, hseals.bare⟩, hes⟩

/-! ## Fields -/

theorem brings_requireField (factory : String) (entry : Value) :
    Brings kept c n s (Build.requireField factory entry) fun field s' =>
      s'.heap.isCallable field.2 = true := by
  rw [Build.requireField]
  refine .skip (Keeps.unpackTwo hc.keeps _) hs hn fun pair s₁ hs₁ hn₁ => ?_
  obtain ⟨key, pred⟩ := pair
  refine .skip (Keeps.isOfKind hc.keeps _ _) hs₁ hn₁ fun isText s₂ hs₂ hn₂ => ?_
  cases key.name?.filter fun _ => isText with
  | none => exact .skip (Keeps.shownClass hc.keeps _) hs₂ hn₂ fun _ s₃ hs₃ _ => .throw _ hs₃
  | some name =>
    refine .skip (Keeps.shown hc.keeps _) hs₂ hn₂ fun _ s₃ hs₃ hn₃ => ?_
    exact (brings_requireCallable hc hs₃ hn₃ _ _ pred).bind fun _ s₄ _ h₄ hcallable =>
      .pure _ h₄.wellFormed hcallable

theorem brings_requireFields (factory : String) (descriptor : Value) :
    Brings kept c n s (Build.requireFields factory descriptor) fun fields s' =>
      ∀ field ∈ fields, s'.heap.isCallable field.2 = true := by
  have hread {s : Session} (hs : s.WellFormed kept) (hn : n ≤ s.heap.next) :
      Brings kept c n s (do
        let entries ← openListing (← listing .items descriptor)
        each (fun _ entry => Build.requireField factory entry) entries)
        fun fields s' => ∀ field ∈ fields, s'.heap.isCallable field.2 = true := by
    refine .skip (Keeps.listing hc.keeps _ _) hs hn fun l s₁ hs₁ hn₁ => ?_
    refine .skip (Keeps.openListing hc.keeps _) hs₁ hn₁ fun cursor s₂ hs₂ hn₂ => ?_
    exact brings_each hc hs₂ hn₂ (Q := fun (field : Name × Value) s => s.heap.isCallable field.2 = true)
      (fun _ _ _ h hgoes => hgoes.heap.callable _ h)
      (fun _ entry s hs hn => brings_requireField hc hs hn factory entry) cursor
  rw [Build.requireFields]
  refine .skip (Keeps.isOfKind hc.keeps _ _) hs hn fun isMapping s₁ hs₁ hn₁ => ?_
  cases isMapping with
  | true => exact hread hs₁ hn₁
  | false => exact .skip (Keeps.shownClass hc.keeps _) hs₁ hn₁ fun _ s₂ hs₂ _ => .throw_bind _ hs₂

/-! ## Products -/

theorem brings_objectOfFields {fields : List (Name × Value)}
    (hfields : ∀ field ∈ fields, s.heap.isCallable field.2 = true) (strict : Bool) :
    Brings kept c n s (Build.objectOfFields fields strict) fun v s' => s'.Enters kept n [] v := by
  have hentries : ∀ p ∈ fieldEntries fields,
      (∃ name, p.1 = .ofName name) ∧ p.2 ∈ fields.map (·.2) := by
    intro p hp
    obtain ⟨field, hfield, rfl⟩ := List.mem_map.mp hp
    exact ⟨⟨field.1, rfl⟩, List.mem_map.mpr ⟨field, hfield, rfl⟩⟩
  have hstrict {s : Session} (hs : s.WellFormed kept) (hn : n ≤ s.heap.next) :
      Brings kept c n s (distinctEntries [(.keptText strictKey, .bool strict)]) fun es _ =>
        ∃ hash, es = [(⟨.keptText strictKey, hash⟩, .bool strict)] := by
    rw [distinctEntries, List.foldlM_cons, bind_assoc]
    refine (brings_keyed hc hs hn _).bind fun key s₁ _ h₁ hkey => ?_
    obtain ⟨value, hash⟩ := key
    subst hkey
    exact .pure _ h₁.wellFormed ⟨hash, rfl⟩
  rw [Build.objectOfFields]
  refine (brings_newView hc hn (brings_distinctEntries hc hs hn
    (A := fun key => ∃ name, key = .ofName name) (B := fun q => q ∈ fields.map (·.2)) hentries)).bind
    fun recorded s₁ _ h₁ hrecorded => ?_
  obtain ⟨i, place, es, rfl, hseals, hes⟩ := hrecorded
  have hn₁ := Nat.le_trans hn h₁.heap.next
  refine (brings_newView hc hn₁ (hstrict h₁.wellFormed hn₁)).bind
    fun options s₂ _ h₂ hoptions => ?_
  obtain ⟨i', place', es', rfl, hseals', hash, rfl⟩ := hoptions
  have hn₂ := Nat.le_trans hn₁ h₂.heap.next
  refine .after (Keeps.toMembers hc.keeps _) h₂.wellFormed hn₂ fun allowed s₃ h₃ => ?_
  have hn₃ := Nat.le_trans hn₂ h₃.heap.next
  refine .after (Keeps.rendering hc.keeps _) h₃.wellFormed hn₃ fun rendering s₄ h₄ => ?_
  have hn₄ := Nat.le_trans hn₃ h₄.heap.next
  refine .after (Keeps.embeddedText hc.keeps _) h₄.wellFormed hn₄ fun shown s₅ h₅ => ?_
  have hn₅ := Nat.le_trans hn₄ h₅.heap.next
  have hheap := ((h₃.heap.trans h₄.heap).trans h₅.heap)
  have hheap' := h₂.heap.trans hheap
  have hallowed : (if strict then some allowed else none).isSome = strict := by
    cases strict <;> rfl
  have hproduct := brings_product hc h₅.wellFormed hn₅
    (show Operation.objectOf.name ≠ "" by decide) (by decide) [.view i (.ref place), .view i' (.ref place')]
    (Operation.objectOf.name ++ "(" ++ shown ++ (if strict then ", strict=True" else "") ++ ")")
    (.object fields (if strict then some allowed else none)) fun id name id' hid => by
      refine .object hid (fun field hfield => ?_) (fun hkept => ⟨es, ?_, hes⟩) fun hkept => ⟨hash, ?_⟩
      · exact hheap'.callable _ (h₁.heap.callable _ (hfields field hfield))
      · exact hheap'.seals _ _ hkept hseals
      · rw [hallowed]
        exact hheap.seals _ _ hkept hseals'
  refine hproduct.with_goes.imp fun v s' hv => ?_
  obtain ⟨h₆, ⟨id, name, id', hid, rfl⟩, hascribes⟩ := hv
  refine ⟨⟨id, name, _, _, rfl, hid⟩, _, _, hascribes, fun a ha => ?_⟩
  simp only [List.mem_cons, List.not_mem_nil, or_false] at ha
  rcases ha with rfl | rfl
  · refine .view fun hkept => ⟨es, (hheap'.trans h₆.heap).seals _ _ hkept hseals, fun e he _ => ?_⟩
    exact Value.mem_asked_of_mem_callables (hes e he).2 id name _ id'
  · refine .view fun hkept => ⟨_, (hheap.trans h₆.heap).seals _ _ hkept hseals', fun e he hkind => ?_⟩
    obtain rfl := List.mem_singleton.mp he
    cases hkind

theorem brings_object (descriptor strict : Value) :
    Brings kept c n s (Build.object descriptor strict) fun v s' => s'.Enters kept n [] v := by
  rw [Build.object]
  refine (brings_requireFields hc hs hn _ descriptor).bind fun fields s₁ _ h₁ hfields => ?_
  have hn₁ := Nat.le_trans hn h₁.heap.next
  refine .after (Keeps.isOfKind hc.keeps _ _) h₁.wellFormed hn₁ fun isBool s₂ h₂ => ?_
  split
  · exact brings_objectOfFields hc h₂.wellFormed (Nat.le_trans hn₁ h₂.heap.next)
      (fun field hfield => h₂.heap.callable _ (hfields field hfield)) _
  · exact .throw _ h₂.wellFormed

/-! ## Derived shapes

A derived combinator reads the fields that a product is registered with, and makes a product of what
is left of them. -/

theorem brings_changedObject {change : Value → Value → Run (Option Value)}
    (hchange : ∀ key field, Keeps (Session.Proceeds kept) c (change key field)) (descriptor : Value)
    (strict : Bool) :
    Brings kept c n s (Build.changedObject change descriptor strict) fun v s' =>
      s'.Enters kept n [] v := by
  have hk := hc.keeps
  rw [Build.changedObject]
  refine .skip (Keeps.listing hk _ _) hs hn fun l s₁ hs₁ hn₁ => ?_
  refine .skip (Keeps.openListing hk _) hs₁ hn₁ fun cursor s₂ hs₂ hn₂ => ?_
  refine .skip (Keeps.fold hk (fun es entry => ?_) _ _) hs₂ hn₂ fun es s₃ hs₃ hn₃ => ?_
  · refine Keeps.bind hk (Keeps.unpackTwo hk _) fun pair => ?_
    obtain ⟨key, field⟩ := pair
    refine Keeps.bind hk (hchange key field) fun changed => ?_
    cases changed <;> grind
  · refine .skip (Keeps.alloc hk _ _) hs₃ hn₃ fun dict s₄ hs₄ hn₄ => ?_
    exact brings_object hc hs₄ hn₄ dict (.bool strict)

theorem brings_modifiedObject (factory : String) {modify : Value → Run Value}
    (hmodify : ∀ field, Keeps (Session.Proceeds kept) c (modify field)) (pred : Value) :
    Brings kept c n s (Build.modifiedObject factory modify pred) fun v s' =>
      s'.Enters kept n [] v := by
  rw [Build.modifiedObject]
  refine .skip (Keeps.objectParts hc.keeps _ _) hs hn fun parts s₁ hs₁ hn₁ => ?_
  obtain ⟨descriptor, strict⟩ := parts
  exact brings_changedObject hc hs₁ hn₁ (fun _ field => Keeps.map hc.keeps _ (hmodify field)) _ _

theorem brings_selectedObject (factory : String) (keep : Bool) (pred keys : Value) :
    Brings kept c n s (Build.selectedObject factory keep pred keys) fun v s' =>
      s'.Enters kept n [] v := by
  have hk := hc.keeps
  have hselect (selected : List (Key Value)) (key field : Value) :
      Keeps (Session.Proceeds kept) c (do
        return if (← containsMember selected key) == keep then some field else none) := by
    grind
  rw [Build.selectedObject]
  refine .skip (Keeps.objectParts hk _ _) hs hn fun parts s₁ hs₁ hn₁ => ?_
  obtain ⟨descriptor, strict⟩ := parts
  refine .skip (Keeps.requireKnown hk _ _ _) hs₁ hn₁ fun selected s₂ hs₂ hn₂ => ?_
  exact brings_changedObject hc hs₂ hn₂ (hselect selected) _ _

theorem brings_strictObject (pred : Value) :
    Brings kept c n s (Build.strictObject pred) fun v s' => s'.Enters kept n [] v := by
  rw [Build.strictObject]
  refine .skip (Keeps.objectParts hc.keeps _ _) hs hn fun parts s₁ hs₁ hn₁ => ?_
  exact brings_object hc hs₁ hn₁ parts.1 (.bool true)

/-! ## Products of the caller -/

/-- A record that the caller names is one under that name. -/
theorem brings_namedMetadata (factory : Value) (idArgs : Nat) (items : List Value) :
    Brings kept c n s (newMetadata (.kind .metadata) factory (.tuple (.kind .tuple) idArgs items))
      fun m _ => ∃ id name id' args, factory.name? = some name ∧
        m = .metadata (.kind .metadata) id name (.tuple (.kind .tuple) id' args) := by
  have hk := hc.keeps
  rw [newMetadata]
  cases hname : factory.name? with
  | none => exact .throw _ hs
  | some name =>
    refine .skip (Keeps.fresh hk) hs hn fun id s₁ hs₁ hn₁ => ?_
    refine .skip (Keeps.storeField hk rfl _ _) hs₁ hn₁ fun _ s₂ hs₂ hn₂ => ?_
    refine .skip (Keeps.storeField hk rfl _ _) hs₂ hn₂ fun _ s₃ hs₃ hn₃ => ?_
    refine .skip (Keeps.readAttribute hk _ _) hs₃ hn₃ fun given s₄ hs₄ hn₄ => ?_
    refine .skip (Keeps.isName hk _) hs₄ hn₄ fun isName s₅ hs₅ hn₅ => ?_
    cases isName with
    | false => exact .throw_bind _ hs₅
    | true =>
      refine .skip (Keeps.readAttribute hk _ _) hs₅ hn₅ fun args' s₆ hs₆ hn₆ => ?_
      refine .skip (Keeps.isOfKind hk _ _) hs₆ hn₆ fun isTuple s₇ hs₇ hn₇ => ?_
      cases isTuple with
      | true => exact .pure _ hs₇ ⟨id, name, idArgs, items, rfl, rfl⟩
      | false =>
        refine (brings_toTuple hc hs₇ hn₇ args').bind fun copy s₈ _ h₈ hcopy => ?_
        obtain ⟨idCopy, items', rfl⟩ := hcopy
        have hn₈ := Nat.le_trans hn₇ h₈.heap.next
        refine .skip (Keeps.storeField hk rfl _ _) h₈.wellFormed hn₈ fun _ s₉ hs₉ _ => ?_
        exact .pure _ hs₉ ⟨id, name, idCopy, items', rfl, rfl⟩

theorem brings_custom (check name optional readonly : Value) :
    Brings kept c n s (Build.custom check name optional readonly) fun v s' => s'.Readies n v := by
  have hk := hc.keeps
  rw [Build.custom]
  refine .skip (Keeps.heap hk) hs hn fun h s₁ hs₁ hn₁ => ?_
  dsimp only
  split
  · exact .skip (Keeps.shownClass hk _) hs₁ hn₁ fun _ s₂ hs₂ _ => .throw_bind _ hs₂
  · refine .skip (Keeps.isName hk _) hs₁ hn₁ fun isName s₂ hs₂ hn₂ => ?_
    split
    · exact (brings_wrap hc hs₂ hn₂ check _ optional readonly).imp fun _ _ hv => hv.1
    · exact .throw _ hs₂

theorem brings_customProduct {factory : Value}
    (hfactory : ∀ name, factory.name? = some name → isReserved name.text = false)
    (args check name optional readonly : Value) :
    Brings kept c n s (Build.customProduct factory args check name optional readonly) fun v s' =>
      ∃ m, s'.Records v m := by
  have hk := hc.keeps
  have hbuild (idArgs : Nat) (items : List Value) (name : Value) {s : Session}
      (hs : s.WellFormed kept) (hn : n ≤ s.heap.next) :
      Brings kept c n s (do
        let pred ← Build.custom check name optional readonly
        attach pred (← newMetadata (.kind .metadata) factory (.tuple (.kind .tuple) idArgs items))
        return pred) fun v s' => ∃ m, s'.Records v m := by
    have hcustom : Brings kept c n s (Build.custom check name optional readonly) fun v s' =>
        s'.Readies n v ∧ True :=
      (brings_custom hc hs hn check name optional readonly).imp fun _ _ hv => ⟨hv, trivial⟩
    refine (brings_registered hc hcustom
      (fun s' hs' => brings_namedMetadata hc hs' (Nat.le_refl _) factory idArgs items) ?_ hn ?_).imp
      fun v s' ⟨_, m, _, hm⟩ => ⟨m, hm⟩
    · rintro m ⟨id, name, id', args, -, hm⟩
      exact ⟨id, name, id', args, hm⟩
    · rintro v m - ⟨id, name, id', args, hname, rfl⟩ ⟨_, heq, hreserved⟩
      cases heq
      rw [hfactory name hname] at hreserved
      cases hreserved
  rw [Build.customProduct]
  refine (brings_toTuple hc hs hn args).bind fun copy s₁ _ h₁ hcopy => ?_
  obtain ⟨idArgs, items, rfl⟩ := hcopy
  have hs₁ := h₁.wellFormed
  have hn₁ := Nat.le_trans hn h₁.heap.next
  split
  · refine .skip (Keeps.heap hk) hs₁ hn₁ fun h s₂ hs₂ hn₂ => ?_
    exact .skip (Keeps.customName hk _ _) hs₂ hn₂ fun name s₃ hs₃ hn₃ => hbuild _ _ name hs₃ hn₃
  · exact hbuild _ _ _ hs₁ hn₁

end

end Run

end ValueShape
