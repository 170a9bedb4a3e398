import ValueShape.Operation
import ValueShape.Proofs.Build.Descriptor

/-!
# Calls of the library go on from well-formed sessions

All operations together: what a factory returns is registered (`Run.brings_factory`), and any call leaves a
well-formed session, in which nothing is registered but what was made during the call
(`Run.Keeps.apply`).
-/

set_option autoImplicit false

namespace ValueShape

open Run

/-! ## Calls

There is one case for each operation, and it is a lemma of a module before.  Only attaching metadata
has to be restricted, since the caller is free in what it attaches. -/

/-- The values that a call is given, together with those that stand for arguments left out. -/
def Arguments.values (a : Arguments) : List Value :=
  .null :: .leaf .any :: (a.positional ++ a.named.map (·.2))

namespace Arguments

variable {a : Arguments} {i : Nat} {parameter : String}

theorem mem_values_of_at? {v : Value} (h : a.at? i parameter = some v) : v ∈ a.values := by
  have hmem : v ∈ a.positional ++ a.named.map (·.2) := by
    rw [at?, Option.or_eq_some_iff] at h
    rcases h with h | ⟨-, h⟩
    · exact List.mem_append_left _ (List.mem_of_getElem? h)
    · obtain ⟨e, he, rfl⟩ := Option.map_eq_some_iff.mp h
      exact List.mem_append_right _ (List.mem_map.mpr ⟨e, List.mem_of_find?_eq_some he, rfl⟩)
  exact List.mem_cons_of_mem _ (List.mem_cons_of_mem _ hmem)

theorem mem_values_of_getD {v : Value} (hv : v ∈ a.values) :
    (a.at? i parameter).getD v ∈ a.values := by
  cases h : a.at? i parameter with
  | none => exact hv
  | some w => exact mem_values_of_at? h

theorem get_mem_values : a.get i parameter ∈ a.values := mem_values_of_getD List.mem_cons_self

theorem optional?_subset_values : (a.optional? i parameter).toList ⊆ a.values := by
  intro v hv
  obtain ⟨h, -⟩ := Option.filter_eq_some_iff.mp (Option.mem_toList.mp hv)
  exact mem_values_of_at? h

end Arguments

theorem Session.Enters.mono {kept : Nat → Prop} {n : Nat} {given given' : List Value} {s : Session}
    {p : Value} (h : s.Enters kept n given p) (hsub : given ⊆ given') : s.Enters kept n given' p := by
  obtain ⟨hnew, factory, args, hascribes, hargs⟩ := h
  refine ⟨hnew, factory, args, hascribes, fun a ha => ?_⟩
  cases hargs a ha with
  | given ha => exact .given (hsub ha)
  | asked ha => exact .asked ha
  | tuple hitems => exact .tuple hitems
  | view hentries => exact .view hentries

/-- The operations that return a new predicate. -/
def Operation.isFactory : Operation → Bool
  | arrayOf | tupleOf | readonlyTupleOf | uniformTupleOf | readonlyUniformTupleOf | recordOf
  | objectOf | parametersOf | oneOf | allOf | literalOf | literalOneOf | instanceOf | partialOf
  | requiredOf | pickOf | omitOf | strictOf => true
  | _ => false

/-- A call registers only what it makes itself, under none of the names that the library relies on unless
it is the library that does so.  Attaching metadata to other values is considered apart, and calling the
class of the undefined value is left to the caller, like any class of its own. -/
def Operation.Respects (o : Operation) (a : Arguments) : Prop :=
  match o with
  | attachMetadata | newUndefined => False
  | customProduct => ∀ name, (a.get 0 "factory").name? = some name → isReserved name.text = false
  | _ => True

namespace Run

variable {kept : Nat → Prop} {c : Conduct} {n : Nat} {s : Session}

/-- **A factory returns a predicate that is registered.** -/
theorem brings_factory (hc : c.Serves kept) (hs : s.WellFormed kept) (hn : n ≤ s.heap.next)
    {o : Operation} (ho : o.isFactory = true) (a : Arguments) :
    Brings kept c n s (o.perform a) fun v s' => s'.Enters kept n a.values v := by
  have hnil : [] ⊆ a.values := List.nil_subset _
  have hpred : [a.get 0 "pred"] ⊆ a.values := by simpa using Arguments.get_mem_values
  have huniform : [a.get 0 "n", (a.at? 1 "pred").getD (.leaf .any)] ⊆ a.values := by
    simp only [List.cons_subset, hnil, and_true]
    exact ⟨Arguments.get_mem_values, Arguments.mem_values_of_getD (by simp [Arguments.values])⟩
  cases o with
  | arrayOf => exact (brings_array hc hs hn _).imp fun _ _ h => h.mono hpred
  | tupleOf =>
    exact (brings_tupleOf hc hs hn .plain _ _).imp fun _ _ h => h.mono Arguments.optional?_subset_values
  | readonlyTupleOf =>
    exact (brings_tupleOf hc hs hn .readonly _ _).imp fun _ _ h => h.mono Arguments.optional?_subset_values
  | uniformTupleOf => exact (brings_uniformTuple hc hs hn .plain _ _).imp fun _ _ h => h.mono huniform
  | readonlyUniformTupleOf =>
    exact (brings_uniformTuple hc hs hn .readonly _ _).imp fun _ _ h => h.mono huniform
  | recordOf => exact (brings_record hc hs hn _).imp fun _ _ h => h.mono hpred
  | objectOf => exact (brings_object hc hs hn _ _).imp fun _ _ h => h.mono hnil
  | parametersOf =>
    exact (brings_parameters hc hs hn _ _).imp fun _ _ h => h.mono Arguments.optional?_subset_values
  | oneOf => exact (brings_oneOf hc hs hn _).imp fun _ _ h => h.mono hnil
  | allOf => exact (brings_allOf hc hs hn _).imp fun _ _ h => h.mono hnil
  | literalOf =>
    exact (brings_literal hc hs hn _).imp fun _ _ h => h.mono (by simpa using Arguments.get_mem_values)
  | literalOneOf => exact (brings_literals hc hs hn _).imp fun _ _ h => h.mono hnil
  | instanceOf =>
    exact (brings_instanceOf hc hs hn _).imp fun _ _ h => h.mono (by simpa using Arguments.get_mem_values)
  | partialOf =>
    exact (brings_modifiedObject hc hs hn _ (Keeps.optional hc) _).imp fun _ _ h => h.mono hnil
  | requiredOf =>
    exact (brings_modifiedObject hc hs hn _ (Keeps.required hc) _).imp fun _ _ h => h.mono hnil
  | pickOf => exact (brings_selectedObject hc hs hn _ true _ _).imp fun _ _ h => h.mono hnil
  | omitOf => exact (brings_selectedObject hc hs hn _ false _ _).imp fun _ _ h => h.mono hnil
  | strictOf => exact (brings_strictObject hc hs hn _).imp fun _ _ h => h.mono hnil
  | _ => cases ho

/-- **Calls of the library go on from well-formed sessions.** -/
theorem Keeps.perform (hc : c.Serves kept) {o : Operation} {a : Arguments} (ho : o.Respects a) :
    Keeps (Session.Proceeds kept) c (o.perform a) := by
  have hk := hc.keeps
  cases hfactory : o.isFactory with
  | true => exact fun _ hs => (brings_factory hc hs (Nat.le_refl _) hfactory a).goes
  | false =>
    cases o with
    | makeOptional => exact Keeps.optional hc _
    | makeRequired => exact Keeps.required hc _
    | makeReadonly => exact Keeps.readonly hc _
    | isOptional => exact Keeps.isOptional hk _
    | isReadonly => exact Keeps.isReadonly hk _
    | metadataOf => exact Keeps.bind hk (Keeps.metadata? hk _) fun _ => Keeps.pure hk _
    | hasMetadata => exact Keeps.bind hk (Keeps.metadata? hk _) fun _ => Keeps.pure hk _
    | isProductOf => exact Keeps.isProductOf hk _ _
    | newPredicate =>
      unfold Operation.perform
      cases a.named? "name" with
      | none => exact Keeps.throw hk _
      | some name => exact Keeps.custom hk _ _ _ _
    | newMetadata => exact Keeps.newMetadata hk _ _ _
    | newOptions => exact Keeps.newOptions hk _ _ _
    | inspect => exact Keeps.inspect hk _ _
    | displayName => exact Keeps.bind hk (Keeps.displayName hk _) fun _ => Keeps.identified hk _
    | requireCallable => exact Keeps.requireFor hk _ _ _
    | requireCallables => exact Keeps.requireAllFor hk _ _ _
    | customProduct =>
      exact fun _ hs => (brings_customProduct hc hs (Nat.le_refl _) ho _ _ _ _ _).goes
    | demand => exact Keeps.demand hk _ _ _
    | ensure => exact Keeps.ensure hk _ _ _
    | maybe => exact Keeps.maybe hk _ _
    | attachMetadata | newUndefined => exact ho.elim
    | _ => cases hfactory

theorem Keeps.apply (hc : c.Serves kept) {o : Operation} {a : Arguments} (ho : o.Respects a) :
    Keeps (Session.Proceeds kept) c (o.apply a) := by
  unfold Operation.apply
  split
  · exact Keeps.perform hc ho
  · exact Keeps.throw hc.keeps _

end Run

end ValueShape
