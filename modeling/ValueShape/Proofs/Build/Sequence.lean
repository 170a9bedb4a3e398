import ValueShape.Proofs.Ask.Sequence
import ValueShape.Proofs.Build.Padding

/-!
# Products about parts of a sequence

`tuple_of` asks about each position, and leaves what remains to a rest; `array_of` asks one predicate
about all elements; and the length of a `uniform_tuple_of` product is fixed.

* `Build.MakesTuple`, `Build.MakesArray` and `Build.MakesUniform` tell what these products have been made
  of, and `Build.Says` which verdict a product gives on a value.
* `Build.sequence_splits` is the main result: the predicates may be divided between a product and the
  rest of another one at any point, and which of the two namings a product has does not matter.

A sequence whose class has a method of its own for the elements under indices is cut otherwise, and a
number whose class has one for multiplication repeats a predicate otherwise:
`Build.own_sequence_does_not_split`.
-/

set_option autoImplicit false

namespace ValueShape

open Run

/-- What a class has under a name that is not one of the known methods, and that nothing was assigned
under to it or to a class above, is no method. -/
theorem Heap.hook?_eq_none {h : Heap} {cls : Class} {name : String} (hname : Method.ofName? name = none)
    (hassigned : ∀ above ∈ h.lineage cls, h.assigned? (.ofClass above) name = none) :
    h.hook? cls name = none := by
  have hfield : ∀ slot, h.inherited? cls name = some slot → ∃ k, slot = .assigned (.field k name) := by
    intro slot hslot
    rw [inherited?, hname] at hslot
    split at hslot
    · cases hslot
    · obtain ⟨above, habove, hslot⟩ := List.exists_of_findSome?_eq_some hslot
      simp only [ownMember?, hassigned above habove] at hslot
      cases above with
      | kind k =>
        obtain ⟨_, -, rfl⟩ := Option.map_eq_some_iff.mp hslot
        exact ⟨k, rfl⟩
      | declared place => cases hslot
  rw [hook?]
  rcases hfound : h.inherited? cls name with _ | slot
  · rfl
  · obtain ⟨k, rfl⟩ := hfield slot hfound
    rfl

namespace Build

/-! ## What the factories make -/

/-- `array_of` has made a product of a predicate. -/
def MakesArray (item p : Value) : Prop :=
  ∃ c s s', exec c (array item) s = .ok p s'

/-- `tuple_of`, of one naming or the other, has read some predicates and made a product of them, and of
a rest if there is one. -/
def MakesTuple (naming : TupleNaming) (head : List Value) (rest : Option Value) (p : Value) : Prop :=
  ∃ c preds s s₁ s', exec c (requireCallables naming.tupleOf.name "preds" preds) s = .ok head s₁ ∧
    exec c (tuple naming preds rest) s = .ok p s'

/-- What a list with one predicate comes to if it is repeated: a list of as many as the number says, or
what the class of the number makes of it. -/
inductive Repetition (c : Conduct) (n item : Value) (length : Nat) (s s' : Session) : List Value → Prop
  | plain (h : exec c (repeated? n item) s = .ok none s') :
      Repetition c n item length s s' (List.replicate length item)
  | assigned {preds : Value} {head : List Value} {s₁ : Session}
      (h : exec c (repeated? n item) s = .ok (some preds) s₁)
      (hread : exec c (requireCallables Operation.tupleOf.name "preds" preds) s₁ = .ok head s') :
      Repetition c n item length s s' head

/-- `uniform_tuple_of`, of one naming or the other, has read a length and made a product of what the
repetition of a predicate comes to. -/
def MakesUniform (naming : TupleNaming) (length : Nat) (item : Value) (head : List Value) (p : Value) :
    Prop :=
  ∃ c n s s₁ s₂ s', exec c (requireLength naming.uniformTupleOf.name n) s = .ok length s₁ ∧
    Repetition c n item length s₁ s₂ head ∧ exec c (uniformTuple naming n item) s = .ok p s'

variable {naming : TupleNaming} {n : Nat} {item p : Value} {head : List Value} {rest : Option Value}

theorem MakesArray.decided (h : MakesArray item p) :
    ∃ id title facets id', p = .predicate id title facets (.rule id' (.array item)) := by
  obtain ⟨c, s, s', h⟩ := h
  obtain ⟨_, _, -, h⟩ := exists_of_exec_bind h
  obtain ⟨_, _, -, h⟩ := exists_of_exec_bind h
  exact exec_product_ok h

theorem MakesTuple.decided (h : MakesTuple naming head rest p) :
    ∃ id title facets id', p = .predicate id title facets (.rule id' (.tuple head rest)) := by
  obtain ⟨c, preds, s, s₁, s', hread, h⟩ := h
  obtain ⟨_, _, hhead, hp⟩ := exec_tuple_ok h
  cases hread.symm.trans hhead
  exact hp

theorem exec_checkedTuple_ok {c : Conduct} {s s' : Session} {factory : String}
    (h : exec c (checkedTuple factory head rest) s = .ok p s') :
    ∃ id title facets id', p = .predicate id title facets (.rule id' (.tuple head rest)) := by
  obtain ⟨_, _, -, h⟩ := exists_of_exec_bind h
  obtain ⟨_, _, -, h⟩ := exists_of_exec_bind h
  exact exec_product_ok h

/-- A product of fixed length leaves the decision to a product about a tuple. -/
theorem MakesUniform.decided (h : MakesUniform naming n item head p) :
    ∃ id title facets inner, p = .predicate id title facets inner ∧
      ∃ id title facets id', inner = .predicate id title facets (.rule id' (.tuple head none)) := by
  obtain ⟨c, k, s, s₁, s₂, s', hlength, hrepeat, h⟩ := h
  obtain ⟨_, _, hlength', h⟩ := exists_of_exec_bind h
  cases hlength.symm.trans hlength'
  obtain ⟨_, _, hitem, h⟩ := exists_of_exec_bind h
  rw [exec_requireCallable_ok hitem] at h
  obtain ⟨_, _, hrepeat', h⟩ := exists_of_exec_bind h
  have hdecided {inner : Value} {t : Session} (h : exec c (do
      productBy naming.uniformTupleOf.name [k, item] (← callName naming.uniformTupleOf.name [k, item])
        (.bool false) (.bool false) inner) t = .ok p s') :
      ∃ id title facets, p = .predicate id title facets inner := by
    obtain ⟨_, _, -, h⟩ := exists_of_exec_bind h
    exact exec_productBy_ok h
  cases hrepeat with
  | plain hnone =>
    cases hnone.symm.trans hrepeat'
    by_cases hindex : maxIndex ≤ n
    · simp only [if_pos hindex] at h
      obtain ⟨_, _, -, h⟩ := exists_of_exec_bind h
      cases h
    by_cases hroom : maxListLength ≤ n
    · simp only [if_neg hindex, if_pos hroom] at h
      cases h
    simp only [if_neg hindex, if_neg hroom] at h
    obtain ⟨inner, _, hinner, h⟩ := exists_of_exec_bind h
    obtain ⟨id, title, facets, rfl⟩ := hdecided h
    exact ⟨id, title, facets, inner, rfl, exec_checkedTuple_ok hinner⟩
  | assigned hsome hread =>
    cases hsome.symm.trans hrepeat'
    obtain ⟨inner, _, hinner, h⟩ := exists_of_exec_bind h
    obtain ⟨id, title, facets, rfl⟩ := hdecided h
    have hmade : MakesTuple .plain head none inner := ⟨c, _, _, _, _, hread, hinner⟩
    exact ⟨id, title, facets, inner, rfl, hmade.decided⟩

/-! ## Verdicts

The laws were shown of functions on lists.  Here they are carried over to the calls of products. -/

section Verdicts

variable (host : Host) (c : Conduct) (I : Session → Prop)

/-- A call of a predicate about a value always gives the same verdict, wherever an invariant holds. -/
def Says (p x : Value) (b : Bool) : Prop :=
  ∀ s, I s → ∃ s', exec c (Ask.callWith host p [x]) s = .ok (.bool b) s' ∧ I s'

end Verdicts

variable {host : Host} {c : Conduct} {I : Session → Prop} {x : Value} {isArray : Bool}
  {items : List Value} {verdict : Value → Value → Bool} {restVerdict : Value → List Value → Bool}

theorem says_of_decides {id : Nat} {title : Name} {facets : Facets} {decider : Value} {b : Bool}
    (h : Decides c I ((Ask.asked host decider).accepts x) (some b)) :
    Says host c I (.predicate id title facets decider) x b := by
  intro s hs
  obtain ⟨s', hasked, hs'⟩ := h.exec_eq hs
  refine ⟨s', ?_, hs'⟩
  rw [Ask.callWith_predicate, exec_bind, hasked]
  rfl

section Products

variable (hI : Session.Spacious I) (hx : x.IsReadAs c I isArray items)
include hI hx

theorem MakesArray.says (h : MakesArray item p) {verdict : Value → Bool}
    (hitem : ∀ v ∈ items, item.TellsElement host c I v (verdict v)) :
    Says host c I p x (isArray && items.all verdict) := by
  obtain ⟨id, title, facets, id', rfl⟩ := h.decided
  refine says_of_decides ?_
  rw [Ask.accepts_rule_run]
  exact hx.decides_array hI hitem

theorem MakesTuple.says (h : MakesTuple naming head rest p)
    (hhead : Ask.TellElements host c I items verdict head)
    (hrest : Ask.TellsTails host c I x.isTuple items restVerdict rest) :
    Says host c I p x (isArray && Check.tupleVerdict verdict restVerdict head rest items) := by
  obtain ⟨id, title, facets, id', rfl⟩ := h.decided
  refine says_of_decides ?_
  rw [Ask.accepts_rule_run]
  exact hx.decides_tuple hI hhead hrest

theorem MakesUniform.says (h : MakesUniform naming n item head p)
    (hhead : Ask.TellElements host c I items verdict head) :
    Says host c I p x (isArray && Check.tupleVerdict verdict restVerdict head none items) := by
  obtain ⟨id, title, facets, inner, rfl, _, _, _, _, rfl⟩ := h.decided
  refine says_of_decides ?_
  rw [Ask.accepts_check]
  exact hx.decides_tuple hI hhead nofun

end Products

/-- A product about the second part of a head tells what remains of a sequence. -/
theorem MakesTuple.tellsTails {isTuple : Bool} (hI : Session.Spacious I) (hlt : items.length < maxIndex)
    (h : MakesTuple naming head rest p) (hhead : Ask.TellElements host c I items verdict head)
    (hrest : Ask.TellsTails host c I isTuple items restVerdict rest) :
    Ask.TellsTails host c I isTuple items (fun _ => Check.tupleVerdict verdict restVerdict head rest)
      (some p) := by
  rintro _ ⟨⟩ n
  obtain ⟨id, title, facets, id', rfl⟩ := h.decided
  have hle : (items.drop n).length ≤ items.length := List.length_drop ▸ Nat.sub_le _ _
  refine Value.tellsRest_tuple hI (Nat.lt_of_le_of_lt hle hlt)
    (fun f hf v hv => hhead f hf v (List.mem_of_mem_drop hv)) (fun r hr m => ?_) id id' title facets
  rw [List.drop_drop]
  exact hrest r hr (n + m)

/-- A product about all elements tells what remains of a sequence. -/
theorem MakesArray.tellsTails {isTuple : Bool} (hI : Session.Spacious I) (hlt : items.length < maxIndex)
    (h : MakesArray item p) {verdict : Value → Bool}
    (hitem : ∀ v ∈ items, item.TellsElement host c I v (verdict v)) :
    Ask.TellsTails host c I isTuple items (fun _ rest => rest.all verdict) (some p) := by
  rintro _ ⟨⟩ n
  obtain ⟨id, title, facets, id', rfl⟩ := h.decided
  have hle : (items.drop n).length ≤ items.length := List.length_drop ▸ Nat.sub_le _ _
  exact Value.tellsRest_array hI (Nat.lt_of_le_of_lt hle hlt)
    (fun v hv => hitem v (List.mem_of_mem_drop hv)) id id' title facets

/-- **Sequences split at any point.**  Products are called about a value, which is a list or a tuple that
is read in the built-in way, or neither of them, and all predicates and rests always give the same
verdicts on its elements and on what remains of it.  Then a product about a tuple and the one whose rest
is the product about the second part give the same verdict; so do a product about all elements and the
one that asks about the first `n` of them, if there are so many, and leaves the others to its rest; and
a product of length `n`, for which the predicate has been repeated as often, is positive if there are
`n` elements and the product about all of them is positive.  Products of both namings answer alike,
whatever value they are called about and whatever their predicates do. -/
theorem sequence_splits (host : Host) (hI : Session.Spacious I) (hx : x.IsReadAs c I isArray items) :
    (∀ {naming naming' naming'' : TupleNaming} {ps qs : List Value} {rest : Option Value}
      {p inner q : Value} {verdict : Value → Value → Bool} {restVerdict : Value → List Value → Bool},
      MakesTuple naming (ps ++ qs) rest p → MakesTuple naming' qs rest inner →
        MakesTuple naming'' ps (some inner) q → Ask.TellElements host c I items verdict (ps ++ qs) →
        Ask.TellsTails host c I x.isTuple items restVerdict rest →
        ∃ b, Says host c I p x b ∧ Says host c I q x b) ∧
    (∀ {item p : Value} {verdict : Value → Bool}, MakesArray item p →
      (∀ v ∈ items, item.TellsElement host c I v (verdict v)) →
        ∀ n, ∃ b, Says host c I p x b ∧
          (∀ {naming : TupleNaming} {inner q : Value}, n ≤ items.length → MakesArray item inner →
            MakesTuple naming (List.replicate n item) (some inner) q → Says host c I q x b) ∧
          (∀ {naming : TupleNaming} {q : Value},
            MakesUniform naming n item (List.replicate n item) q →
              Says host c I q x (decide (items.length = n) && b))) ∧
    (∀ {naming naming' : TupleNaming} {head : List Value} {rest : Option Value} {p q : Value},
      MakesTuple naming head rest p → MakesTuple naming' head rest q →
        ∀ y, Ask.callWith host p [y] = Ask.callWith host q [y]) ∧
    (∀ {naming naming' : TupleNaming} {n : Nat} {item : Value} {head : List Value} {p q : Value},
      MakesUniform naming n item head p → MakesUniform naming' n item head q →
        ∀ y, Ask.callWith host p [y] = Ask.callWith host q [y]) := by
  refine ⟨fun {naming naming' naming'' ps qs rest p inner q verdict restVerdict} hp hinner hq hhead hrest =>
    ?_, fun {item p verdict} hp hitem n => ⟨_, hp.says hI hx hitem,
      fun {naming inner q} hn hinner hq s hs => ?_, fun {naming q} hq => ?_⟩,
    fun {naming naming' head rest p q} hp hq y => ?_,
    fun {naming naming' n item head p q} hp hq y => ?_⟩
  · obtain ⟨hps, hqs⟩ := List.forall_mem_append.mp hhead
    refine ⟨_, hp.says hI hx hhead hrest, fun s hs => ?_⟩
    rw [Check.tupleVerdict_append verdict restVerdict ps qs rest inner]
    exact hq.says hI hx hps (hinner.tellsTails hI (hx.lt_maxIndex hs) hqs hrest) s hs
  · rw [← Check.tupleVerdict_replicate (fun _ => verdict) item inner hn]
    refine hq.says hI hx ?_ (hinner.tellsTails hI (hx.lt_maxIndex hs) hitem) s hs
    exact fun f hf => (List.eq_of_mem_replicate hf) ▸ hitem
  · rw [Bool.and_left_comm, ← Check.tupleVerdict_replicate_none (fun _ => verdict) (fun _ _ => false) item]
    exact hq.says hI hx fun f hf => (List.eq_of_mem_replicate hf) ▸ hitem
  · obtain ⟨_, _, _, _, rfl⟩ := hp.decided
    obtain ⟨_, _, _, _, rfl⟩ := hq.decided
    rw [Ask.callWith_predicate_rule, Ask.callWith_predicate_rule]
  · obtain ⟨_, _, _, inner, rfl, _, _, _, _, rfl⟩ := hp.decided
    obtain ⟨_, _, _, inner, rfl, _, _, _, _, rfl⟩ := hq.decided
    rw [Ask.callWith_predicate, Ask.callWith_predicate, Ask.accepts_check, Ask.accepts_check]

/-! ### A pair -/

/-- A product of a length that a list can have is made around the product about as many repetitions,
where the class of the number has no method for that. -/
theorem exec_uniformTuple {s s₁ s₂ s₃ : Session} {k : Value}
    (hlength : exec c (requireLength naming.uniformTupleOf.name k) s = .ok n s₁)
    (hitem : exec c (requireCallable naming.uniformTupleOf.name "pred" item) s₁ = .ok () s₂)
    (hrepeat : exec c (repeated? k item) s₂ = .ok none s₃) (hlt : n < maxListLength) :
    exec c (uniformTuple naming k item) s = exec c (do
      let inner ← checkedTuple Operation.tupleOf.name (List.replicate n item) none
      let name ← callName naming.uniformTupleOf.name [k, item]
      productBy naming.uniformTupleOf.name [k, item] name (.bool false) (.bool false) inner) s₃ := by
  have hindex : ¬maxIndex ≤ n := Nat.not_le.mpr (Nat.lt_trans hlt (by decide))
  rw [uniformTuple, exec_bind, hlength, Ending.andThen_ok, exec_bind, hitem, Ending.andThen_ok, exec_bind,
    hrepeat, Ending.andThen_ok]
  simp only [if_neg hindex, if_neg (Nat.not_le.mpr hlt)]

theorem exists_makesUniform_two : ∃ u, MakesUniform .plain 2 (.leaf .any) [.leaf .any, .leaf .any] u := by
  let c := Ask.conduct .none 3
  have hlength : exec c (requireLength TupleNaming.plain.uniformTupleOf.name (.int 2)) Session.start =
    .ok 2 Session.start := rfl
  have hhook : Session.start.heap.hook? (Session.start.heap.classOf (.int 2)) "__rmul__" = none :=
    Heap.hook?_eq_none rfl (List.forall_mem_cons.mpr ⟨rfl, List.forall_mem_singleton.mpr rfl⟩)
  have hrepeat : exec c (repeated? (.int 2) (.leaf .any)) Session.start = .ok none Session.start := by
    rw [repeated?, exec_bind, exec_heap, Ending.andThen_ok, hhook]
    rfl
  have hmade : (exec c (uniformTuple .plain (.int 2) (.leaf .any)) Session.start).result?.isSome = true := by
    rw [exec_uniformTuple hlength rfl hrepeat (by decide)]
    decide +kernel
  rcases hu : exec c (uniformTuple .plain (.int 2) (.leaf .any)) Session.start with ⟨u, s⟩ | ⟨e, s⟩
  · exact ⟨u, c, _, _, _, _, s, hlength, .plain hrepeat, hu⟩
  · rw [hu] at hmade
    cases hmade

/-- Products about a pair, which are made of the predicate that accepts everything: both are cut after
the first element, and one has the length two. -/
theorem sequence_splits_pair :
    let c := Ask.conduct .none 3
    let I := Session.Untouched
    let any := Value.leaf .any
    let x := Value.tuple (.kind .tuple) 8 [.null, .bool true]
    ∃ a inner p q u, MakesArray any a ∧ MakesTuple .plain [any] (some a) inner ∧
      MakesTuple .plain [any, any] (some a) p ∧ MakesTuple .readonly [any] (some inner) q ∧
      MakesUniform .plain 2 any [any, any] u ∧
      (∃ b, Says .none c I p x b ∧ Says .none c I q x b) ∧
      (∃ b, Says .none c I a x b ∧ Says .none c I inner x b) ∧
      (∃ b, Says .none c I a x b ∧ Says .none c I u x (decide (2 = 2) && b)) := by
  intro c I any x
  have hI := Session.enduring_untouched
  have hany : any.SteadyBy c I (shownFunctionName Leaf.any.name) :=
    ⟨_, steady_leaf hI.abiding (fun _ hs => hs) .any⟩
  have hanys (n : Nat) : AllSteadyBy c I (List.replicate n any)
      (List.replicate n (shownFunctionName Leaf.any.name)) := by
    induction n with
    | zero => exact .nil
    | succ n ih => exact .cons hany ih
  -- A rest is a predicate that has been made before.
  have hmake (naming : TupleNaming) (n : Nat) {r : Value} (hr : ∃ text, r.SteadyBy c I text)
      (hnull : r.identical .null = false) :
      ∃ p, MakesTuple naming (List.replicate n any) (some r) p ∧ ∃ text, p.SteadyBy c I text := by
    obtain ⟨text, hr⟩ := hr
    have hread := settles_requireCallables_tuple hI.toLasting .start naming.tupleOf.name "preds" 9
      (hanys n).forall
    obtain ⟨p, s, hp, -, -, hmade⟩ := @settles_tupleOf .none 2 _ _ 0 hI.toLasting naming _ _ _ _ _
      hread (hanys n) (.some ⟨hr, hnull⟩)
    obtain ⟨_, s', hread, -, -, rfl⟩ := hread
    exact ⟨p, ⟨_, _, _, s', s, hread, hp⟩, _, _, hmade.product.steady hI⟩
  obtain ⟨a, s, ha, -, -, hmade⟩ := @settles_array .none 2 _ _ 0 hI.toLasting .start _ _ hany
  have ha : MakesArray any a := ⟨_, _, _, ha⟩
  have hsteady : ∃ text, a.SteadyBy c I text := ⟨_, _, hmade.product.steady hI⟩
  obtain ⟨inner, hinner, hrest⟩ := hmake .plain 1 hsteady (by obtain ⟨_, _, _, _, rfl⟩ := ha.decided; rfl)
  obtain ⟨p, hp, -⟩ := hmake .plain 2 hsteady (by obtain ⟨_, _, _, _, rfl⟩ := ha.decided; rfl)
  obtain ⟨q, hq, -⟩ := hmake .readonly 1 hrest (by obtain ⟨_, _, _, _, rfl⟩ := hinner.decided; rfl)
  obtain ⟨u, hu⟩ := exists_makesUniform_two
  have hx : x.IsReadAs c I true [.null, .bool true] :=
    (Value.IsArrayOf.tuple 8).isReadAs Session.spacious_untouched (by decide)
  have htells (v : Value) : any.TellsElement .none c I v true := fun cells w _ =>
    .verdict fun s hs => ⟨s, exec_accepts_any .none _ w s, hs⟩
  have hall : Ask.TellElements .none c I [.null, .bool true] (fun _ _ => true) [any, any] :=
    fun f hf v _ => (List.eq_of_mem_replicate (n := 2) hf) ▸ htells v
  have htails : Ask.TellsTails .none c I x.isTuple [.null, .bool true] (fun _ rest => rest.all fun _ => true)
      (some a) :=
    ha.tellsTails Session.spacious_untouched (by decide) fun v _ => htells v
  have hsplit := sequence_splits .none Session.spacious_untouched hx
  obtain ⟨b₁, ha₁, hinner₁, -⟩ := hsplit.2.1 ha (fun v _ => htells v) 1
  obtain ⟨b₂, ha₂, -, hu₂⟩ := hsplit.2.1 ha (fun v _ => htells v) 2
  have hp' : MakesTuple .plain ([any] ++ [any]) (some a) p := hp
  exact ⟨a, inner, p, q, u, ha, hinner, hp, hq, hu, hsplit.1 hp' hinner hq hall htails,
    ⟨b₁, ha₁, hinner₁ (by decide) ha hinner⟩, b₂, ha₂, hu₂ hu⟩

/-! ### Methods of classes -/

/-- A session with a class of numbers that repeats every list as the empty tuple. -/
def ownRepetitionSession : Session :=
  let heap := Heap.start
  let c := Class.declared heap.declarations.size
  let empty := Value.function 2 (.kept "empty") false (.silent (.tuple (.kind .tuple) 0 []))
  { Session.start with heap := { heap with
      declarations := heap.declarations.push
        ⟨.kept "N", [.kind .int, .kind .object], .kind .int, [.kind .int]⟩
      attributes := heap.attributes ++ [⟨.ofClass c, "__rmul__", .bound (.kind .bound) 5 empty⟩] } }

/-- What remains of a list whose class has a method of its own for the elements under indices is not a
list: a product about all elements accepts the list, and the one that leaves all of them to its rest
does not.  Where the class of a number repeats a list otherwise, the product of that length refuses
a sequence which has it. -/
theorem own_sequence_does_not_split :
    (exec (Ask.conduct .none 5) (do
        let p ← array (.leaf .any)
        let q ← tuple .plain (.tuple (.kind .tuple) 0 []) (some p)
        if ← truth (← call p [.ref 0]) then return !(← truth (← call q [.ref 0])) else return false)
      ownItemsSession).result? = some true ∧
    (exec (Ask.conduct .none 5) (do
        let n := Value.scalar (.declared Heap.start.declarations.size) 6 (.int 1)
        let x := Value.tuple (.kind .tuple) 7 [.null]
        let p ← array (.leaf .any)
        let q ← uniformTuple .plain n (.leaf .any)
        if ← truth (← call p [x]) then return !(← truth (← call q [x])) else return false)
      ownRepetitionSession).result? = some true := by
  decide +kernel

end Build

end ValueShape
