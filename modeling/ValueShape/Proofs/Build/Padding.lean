import Mathlib.Data.List.Induction
import Mathlib.Order.Bounds.Defs
import ValueShape.Proofs.Ask.Containment
import ValueShape.Proofs.Ask.Padding
import ValueShape.Proofs.Build.Strictness

/-!
# Products about argument lists

`parameters_of` and `tuple_of` make products of the same predicates.  The first one may be called with
fewer elements.

* `Build.exec_requiredCount_ok` says that the elements that cannot be left out are those before the
  least index from which on all predicates are optional.
* `Build.parameters_padded` is the main result: a product about an argument list does what the product
  about a tuple does with the missing elements filled in by the absent value.

A sequence that is read by index otherwise than by iteration, or that is changed by a predicate, is
seen differently: `Build.parameters_differ_from_tuple`.
-/

set_option autoImplicit false

namespace ValueShape

open Run

/-! ## The least index

The factory counts from the end.  What it comes to can be said without counting, by the facets of
the predicates. -/

section Least

variable {α : Type} {p : α → Prop} {as : List α} {a : α} {k : Nat}

/-- The least index from which on all elements have a property stays the same with a further one that
has it. -/
theorem isLeast_drop_concat (hk : IsLeast {k | ∀ b ∈ as.drop k, p b} k) (ha : p a) :
    IsLeast {k | ∀ b ∈ (as ++ [a]).drop k, p b} k := by
  refine ⟨fun b hb => ?_, fun j hj => hk.2 fun b hb => hj b ?_⟩
  · rw [List.drop_append, List.mem_append] at hb
    rcases hb with hb | hb
    · exact hk.1 b hb
    · rwa [List.mem_singleton.mp (List.mem_of_mem_drop hb)]
  · rw [List.drop_append]
    exact List.mem_append_left _ hb

/-- With a further element that does not have the property, it comes after all elements. -/
theorem isLeast_drop_concat_not (ha : ¬p a) :
    IsLeast {k | ∀ b ∈ (as ++ [a]).drop k, p b} (as.length + 1) := by
  refine ⟨fun b hb => ?_, fun j hj => Nat.lt_of_not_le fun hle => ha (hj a ?_)⟩
  · rw [List.drop_eq_nil_of_le (by simp)] at hb
    exact absurd hb List.not_mem_nil
  · rw [List.drop_append_of_le_length hle]
    exact List.mem_append_right _ (List.mem_singleton_self a)

end Least

namespace Build

variable {c : Conduct} {I : Session → Prop} {s s' : Session} {p : Value}

/-- Callables tell whether they have the optional facet, wherever an invariant holds. -/
def TellOptional (c : Conduct) (I : Session → Prop) (optional : Value → Bool) (vs : List Value) :
    Prop :=
  ∀ v ∈ vs, ∀ s, I s → Settles c I s (isOptional v) fun a _ => a = .bool (optional v)

/-- The elements that cannot be left out are those before the least index from which on all predicates
are optional. -/
theorem exec_requiredCount_ok {optional : Value → Bool} {vs : List Value}
    (hvs : TellOptional c I optional vs) (hs : I s) {k : Nat}
    (h : exec c (requiredCount vs.reverse) s = .ok k s') :
    IsLeast {k | ∀ v ∈ vs.drop k, optional v = true} k ∧ k ≤ vs.length := by
  induction vs using List.reverseRecOn generalizing s with
  | nil =>
    cases h
    exact ⟨⟨fun _ hv => absurd hv List.not_mem_nil, fun _ _ => Nat.zero_le _⟩, Nat.zero_le _⟩
  | append_singleton vs v ih =>
    obtain ⟨_, s₁, ha, -, hs₁, rfl⟩ := hvs v (by simp) s hs
    rw [List.reverse_append, List.reverse_singleton, List.singleton_append, requiredCount, exec_bind,
      ha, Ending.andThen_ok, truth_bool, pure_bind] at h
    cases hv : optional v with
    | true =>
      rw [hv, if_pos rfl] at h
      obtain ⟨hleast, hle⟩ := ih (fun w hw => hvs w (List.mem_append_left _ hw)) hs₁ h
      exact ⟨isLeast_drop_concat hleast hv, by rw [List.length_append]; omega⟩
    | false =>
      rw [hv, if_neg Bool.false_ne_true] at h
      cases h
      rw [List.length_reverse]
      exact ⟨isLeast_drop_concat_not (by simp [hv]), by simp⟩

/-! ## What the factories make -/

/-- What is accepted as a predicate is not asked for anything. -/
theorem exec_requireCallable_ok {factory label : String} {v : Value} {u : Unit}
    (h : exec c (requireCallable factory label v) s = .ok u s') : s' = s := by
  obtain ⟨_, _, hheap, h⟩ := exists_of_exec_bind h
  cases hheap
  by_cases hv : s.heap.isCallable v = true
  · rw [hv] at h
    cases h
    rfl
  · simp only [hv, Bool.not_false, if_true] at h
    obtain ⟨_, _, -, h⟩ := exists_of_exec_bind h
    cases h

theorem exec_forM_requireCallable_ok {factory label : String} {rest : Option Value} {u : PUnit}
    (h : exec c (rest.forM (requireCallable factory label)) s = .ok u s') : s' = s := by
  rcases rest with _ | v
  · cases h
    rfl
  · exact exec_requireCallable_ok h

/-- A product about a tuple asks the predicates that have been read. -/
theorem exec_tuple_ok {naming : TupleNaming} {preds : Value} {rest : Option Value}
    (h : exec c (tuple naming preds rest) s = .ok p s') :
    ∃ head s₁, exec c (requireCallables naming.tupleOf.name "preds" preds) s = .ok head s₁ ∧
      ∃ id title facets id', p = .predicate id title facets (.rule id' (.tuple head rest)) := by
  obtain ⟨head, s₁, hread, h⟩ := exists_of_exec_bind h
  obtain ⟨_, _, -, h⟩ := exists_of_exec_bind h
  obtain ⟨_, _, -, h⟩ := exists_of_exec_bind h
  obtain ⟨_, _, -, h⟩ := exists_of_exec_bind h
  exact ⟨head, s₁, hread, exec_product_ok h⟩

/-- A product about an argument list asks the predicates that have been read, and wants as many
elements as have been counted. -/
theorem exec_parameters_ok {preds : Value} {rest : Option Value}
    (h : exec c (parameters preds rest) s = .ok p s') :
    ∃ head s₁ required s₂,
      exec c (requireCallables Operation.parametersOf.name "preds" preds) s = .ok head s₁ ∧
      exec c (requiredCount head.reverse) s₁ = .ok required s₂ ∧
      ∃ id title facets id',
        p = .predicate id title facets (.rule id' (.parameters head required rest)) := by
  obtain ⟨head, s₁, hread, h⟩ := exists_of_exec_bind h
  obtain ⟨_, _, hrest, h⟩ := exists_of_exec_bind h
  rw [exec_forM_requireCallable_ok hrest] at h
  obtain ⟨required, s₂, hrequired, h⟩ := exists_of_exec_bind h
  obtain ⟨_, _, -, h⟩ := exists_of_exec_bind h
  obtain ⟨_, _, -, h⟩ := exists_of_exec_bind h
  exact ⟨head, s₁, required, s₂, hread, hrequired, exec_product_ok h⟩

/-- **An argument list is a padded tuple.**  `parameters_of` and `tuple_of` make products of the same
predicates, and `m` is the least index from which on all of them are optional.  The first product is
called about a list or a tuple, the second one about the padded one, and no predicate tells these
apart or changes them.  If there are fewer than `m` elements, the first product is negative and asks
nothing.  Otherwise both ask the same predicates about the same arguments and end alike, if no
predicate ends an iteration; and if there are too many elements and no rest, both are negative and ask
nothing. -/
theorem parameters_padded (host : Host) (naming : TupleNaming) {preds preds' p q : Value}
    {rest : Option Value} {head : List Value} {optional : Value → Bool} {s₀ s₁ s₂ s₃ s₄ : Session}
    (hread : Settles c I s₀ (requireCallables Operation.parametersOf.name "preds" preds)
      fun vs _ => vs = head)
    (hoptional : TellOptional c I optional head)
    (hp : exec c (parameters preds rest) s₀ = .ok p s₁)
    (hread' : exec c (requireCallables naming.tupleOf.name "preds" preds') s₂ = .ok head s₃)
    (hq : exec c (tuple naming preds' rest) s₂ = .ok q s₄) :
    ∃ m, IsLeast {k | ∀ v ∈ head.drop k, optional v = true} m ∧
      ∀ (c : Conduct) (R : Session → Session → Prop) (items : List Value) (x y : Value),
        Padded R head.length items x y →
        (∀ f ∈ head, Check.AnswersAlike (fun f => (Ask.asked host f).accepts) c R
          (padded head.length items) f) →
        (∀ f ∈ rest, Check.RestAnswersAlike (fun f => (Ask.asked host f).accepts) c R head.length x y f) →
        ∀ s s', R s s' →
          let arguments := Ask.checking host c (.parameters head m rest) x s
          let elements := Ask.checking host c (.tuple head rest) y s'
          exec c (Ask.callWith host p [x]) s = arguments.ending.map .bool ∧
          exec c (Ask.callWith host q [y]) s' = elements.ending.map .bool ∧
          (items.length < m → arguments.RefusesAtOnce) ∧
          (m ≤ items.length →
            (∀ f ∈ head, Check.EndsNoIteration (Ask.asked host) c R (padded head.length items) f) →
            arguments.AlikeBy Check.SameCallable R SameArgument elements) ∧
          (head.length < items.length → rest = none →
            arguments.RefusesAtOnce ∧ elements.RefusesAtOnce) := by
  obtain ⟨_, t₁, hhead, -, ht₁, rfl⟩ := hread
  obtain ⟨_, _, m, t₂, hhead₁, hrequired, _, _, _, id, rfl⟩ := exec_parameters_ok hp
  cases hhead.symm.trans hhead₁
  obtain ⟨_, _, hhead₂, _, _, _, id', rfl⟩ := exec_tuple_ok hq
  cases hread'.symm.trans hhead₂
  obtain ⟨hleast, hle⟩ := exec_requiredCount_ok hoptional ht₁ hrequired
  refine ⟨m, hleast, fun c R items x y hpadded hfs hrest s s' hs => ⟨?_, ?_, ?_⟩⟩
  · rw [Ask.callWith_predicate_rule, ← Ask.callWith_rule host id]
    exact Ask.exec_callWith_rule host c id _ x s
  · rw [Ask.callWith_predicate_rule, ← Ask.callWith_rule host id']
    exact Ask.exec_callWith_rule host c id' _ y s'
  · exact Check.course_parameters hle hpadded hfs hrest hs

/-! ### No argument -/

/-- An argument list without any arguments for one optional predicate, and the tuple with the absent
value: both products do the same. -/
theorem parameters_padded_empty :
    let c := Ask.conduct .none 3
    let f := Value.predicate 5 ⟨"f", .kind .text, 6⟩ ⟨true, false⟩ Ask.yes
    let R := fun s s' => Session.Untouched s ∧ Session.Untouched s'
    let x := Value.tuple (.kind .tuple) 0 []
    let y := Value.tuple (.kind .tuple) 8 [.undefined]
    let s := Session.start
    ∃ preds p q s₁ s₃ s₄, (Settles c Session.Untouched s
        (requireCallables Operation.parametersOf.name "preds" preds) fun vs _ => vs = [f]) ∧
      TellOptional c Session.Untouched (fun _ => true) [f] ∧
      exec c (parameters preds none) s = .ok p s₁ ∧
      exec c (requireCallables TupleNaming.plain.tupleOf.name "preds" preds) s₁ = .ok [f] s₃ ∧
      exec c (tuple .plain preds none) s₁ = .ok q s₄ ∧ Padded R 1 [] x y ∧
      Check.AnswersAlike (fun f => (Ask.asked .none f).accepts) c R (padded 1 []) f ∧
      Check.EndsNoIteration (Ask.asked .none) c R (padded 1 []) f ∧
      (Ask.checking .none c (.parameters [f] 0 none) x s).AlikeBy Check.SameCallable R SameArgument
        (Ask.checking .none c (.tuple [f] none) y s) := by
  intro c f R x y s
  have hI := Session.enduring_untouched
  have hf : f.Steady c Session.Untouched ⟨true, false⟩ "f" := steady_predicate hI (by decide) _ _ _ _
  have hall : AllSteadyBy c Session.Untouched [f] ["f"] := .cons ⟨_, hf⟩ .nil
  have hread (factory : String) (s : Session) (hs : s.Untouched) :
      Settles c Session.Untouched s (requireCallables factory "preds" (.tuple (.kind .tuple) 9 [f]))
        fun vs _ => vs = [f] :=
    settles_requireCallables_tuple hI.toLasting hs factory "preds" 9 hall.forall
  have hoptional : TellOptional c Session.Untouched (fun _ => true) [f] := fun v hv s hs => by
    rw [List.mem_singleton.mp hv]
    exact hf.presents_self.optional hs
  obtain ⟨p, s₁, hp, -, hs₁, -⟩ := @settles_parameters .none 2 _ _ 0 hI.toLasting _ _ _ _ _ _
    (hread _ s .start) hall (.optional hf .nil) .none
  obtain ⟨q, s₄, hq, -, -, -⟩ := @settles_tupleOf .none 2 _ _ 0 hI.toLasting .plain _ _ _ _ _
    (hread _ s₁ hs₁) hall .none
  obtain ⟨_, s₃, hread', -, -, rfl⟩ := hread TupleNaming.plain.tupleOf.name s₁ hs₁
  have harray {s : Session} (hs : s.Untouched) (id : Nat) {items : List Value}
      (hlt : items.length < maxIndex) : (Value.tuple (.kind .tuple) id items).IsPlainArray s.heap items :=
    ⟨hs.intact.readsAttributes (k := .tuple) rfl, readsPlainly_tuple hs.intact rfl id items,
      readsPlainly_tuple hs.intact rfl id items, readsPlainly_tuple hs.intact rfl id items, hlt⟩
  have hpadded : Padded R 1 [] x y :=
    ⟨fun hs => harray hs.1 0 (by decide), fun hs => harray hs.2 8 (by decide), fun hs _ _ hm hm' =>
      ⟨hI.notes hs.1 (.withNext hm), hI.notes hs.2 (.withNext hm')⟩⟩
  have hanswers : Check.AnswersAlike (fun f => (Ask.asked .none f).accepts) c R (padded 1 []) f :=
    fun _ _ _ _ _ _ _ _ hs => .ok hs
  have hends : Check.EndsNoIteration (Ask.asked .none) c R (padded 1 []) f :=
    fun _ _ _ _ _ _ _ _ _ hask => by cases hask
  obtain ⟨m, hleast, hcalls⟩ := parameters_padded .none .plain (hread _ s .start) hoptional hp hread' hq
  obtain rfl : m = 0 := Nat.le_zero.mp (hleast.2 fun _ _ => rfl)
  obtain ⟨-, -, -, hsame, -⟩ := hcalls c R [] x y hpadded
    (fun f hf => by rw [List.mem_singleton.mp hf]; exact hanswers) nofun s s ⟨.start, .start⟩
  exact ⟨_, p, q, s₁, s₃, s₄, hread _ s .start, hoptional, hp, hread', hq, hpadded, hanswers, hends,
    hsame (Nat.zero_le _) (List.forall_mem_singleton.mpr hends)⟩

/-! ## Sequences that are seen differently

The sequence has to be read in the built-in way, and it has to stay as it is while it is asked
about.  Neither condition can be left out. -/

/-- A session with a list of one number whose class gives the same text under every index. -/
def ownItemsSession : Session :=
  let heap := Heap.start
  let c := Class.declared heap.declarations.size
  let item := Value.function 2 (.kept "item") false (.silent (.scalar (.kind .text) 3 (.text "text")))
  { Session.start with heap := { heap with
      cells := #[⟨c, .list [.scalar (.kind .int) 4 (.int 5)]⟩]
      declarations := heap.declarations.push
        ⟨.kept "L", [.kind .list, .kind .object], .kind .list, [.kind .list]⟩
      attributes := heap.attributes ++ [⟨.ofClass c, Method.item.name, .bound (.kind .bound) 5 item⟩] } }

/-- The surroundings in which a script puts two more elements into a list. -/
def appendingHost : Host where
  script _ _ := do
    modifyHeap fun h => { h with cells := h.cells.modify 0 fun cell =>
      { cell with contents := .list [.bool true, .bool false] } }
    return .bool true
  notice _ := return ()

/-- A list whose class has a method of its own for the elements under indices is accepted as an argument
list, and refused as a tuple.  An argument list that an optional predicate adds to while it is asked is
refused because of what remains then, and the padded tuple is accepted. -/
theorem parameters_differ_from_tuple :
    (exec (Ask.conduct .none 5) (do
        let preds := Value.tuple (.kind .tuple) 6 [.leaf .string]
        let p ← parameters preds none
        let q ← tuple .plain preds none
        return (← truth (← call p [.ref 0]), ← truth (← call q [.ref 0]))) ownItemsSession).result? =
      some (true, false) ∧
    (exec (Ask.conduct appendingHost 5) (do
        let f := Value.predicate 2 (.plain "f") ⟨true, false⟩
          (.function 3 (.kept "f") false (.script 0))
        let preds := Value.tuple (.kind .tuple) 4 [f]
        let empty ← tuple .plain (.tuple (.kind .tuple) 0 []) none
        let p ← parameters preds (some empty)
        let q ← tuple .plain preds (some empty)
        let padded := Value.tuple (.kind .tuple) 5 [.undefined]
        return (← truth (← call p [.ref 0]), ← truth (← call q [padded])))
      { Session.start with heap := { Heap.start with cells := #[⟨.kind .list, .list []⟩] } }).result? =
      some (false, true) := by
  decide +kernel

end Build

end ValueShape
