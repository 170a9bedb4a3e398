import ValueShape.Proofs.Ask.Containment
import ValueShape.Proofs.Ask.Mapping

/-!
# Predicates that are products

What calling a product of the library does, in terms of its obligations.

* `Ask.callWith_fulfils` is the main result: a product asks its obligations in the order of
  declaration, up to the first one that is not answered positively.
* `Value.IsPlainArray h items x` says that `x` is a list or a tuple with the elements `items` whose
  class reads it in the built-in way.  `Check.finds_of_isPlainArray` says that a product about such a
  value finds these elements, as long as it stays one.
* A list or a tuple whose class reads it in another way may fail to be read, and then so does the
  product, although nothing was asked: `Ask.tuple_fails_unmeasured`.
-/

set_option autoImplicit false

namespace ValueShape

open Run (exec)

/-! ## Lists and tuples -/

/-- A list or a tuple with these elements, whose class reads it in the built-in way. -/
structure Value.IsPlainArray (h : Heap) (items : List Value) (x : Value) : Prop where
  attributes : h.readsAttributes x = false
  length : h.ReadsPlainly .length items x
  iteration : h.ReadsPlainly .iteration items x
  item : h.ReadsPlainly .item items x
  lt_maxIndex : items.length < maxIndex

namespace Value.IsPlainArray

variable (c : Conduct) {s : Session} {items : List Value} {x : Value}

theorem withNext (h : x.IsPlainArray s.heap items) (n : Nat) :
    x.IsPlainArray (s.withNext n).heap items := by
  have next {m : Method} (hm : s.heap.ReadsPlainly m items x) :
      (s.withNext n).heap.ReadsPlainly m items x := by
    cases hm with
    | tuple slot => exact .tuple slot
    | list contents slot => exact .list contents slot
  exact ⟨h.attributes, next h.length, next h.iteration, next h.item, h.lt_maxIndex⟩

theorem reads_array : Reads c (fun s => x.IsPlainArray s.heap items) (Look.array x).read
    fun b => b = true := by
  intro s hs
  refine ⟨true, s, ?_, hs, rfl⟩
  have harray : s.heap.isArray x = true := by rw [Heap.isArray, hs.length.sequence?]; rfl
  exact harray ▸ Run.exec_isArray c hs.attributes

theorem measures : Measures c (fun s => x.IsPlainArray s.heap items) x items :=
  fun s hs => ⟨items.length, s, Run.exec_size c hs.length hs.lt_maxIndex, hs, rfl⟩

theorem indexes : Indexes c (fun s => x.IsPlainArray s.heap items) x items := by
  intro i v hi s hs
  have hlt : i < items.length := (List.getElem?_eq_some_iff.mp hi).1
  obtain ⟨w, n, -, hw, hshows⟩ := Run.exec_item c hs.item hi (Nat.lt_trans hlt hs.lt_maxIndex)
  exact ⟨w, _, hw, hs.withNext n, hshows⟩

theorem remains (n : Nat) : Remains c (fun s => x.IsPlainArray s.heap items) x items n :=
  fun _ hs => Run.exec_dropFirst c hs.item n

theorem yields_rest (vs : List Value) :
    Yields c (fun s => x.IsPlainArray s.heap items) vs (.rest vs) := by
  induction vs with
  | nil => exact fun s hs => ⟨none, s, rfl, hs, rfl⟩
  | cons v vs ih =>
    intro s hs
    obtain ⟨w, n, -, hw, hshows⟩ := Run.exec_next_rest c s v vs
    exact ⟨_, _, hw, hs.withNext n, w, _, rfl, hshows, ih⟩

theorem yields_elements {i : Nat} {vs : List Value} (hvs : items.drop i = vs) :
    Yields c (fun s => x.IsPlainArray s.heap items) vs (.elements x i) := by
  induction vs generalizing i with
  | nil =>
    intro s hs
    obtain ⟨r, n, -, hr, hmatch⟩ := Run.exec_next_elements c s x i
    rw [hs.iteration.contained?, Option.getD_some,
      List.getElem?_eq_none (List.drop_eq_nil_iff.mp hvs)] at hmatch
    exact ⟨r, _, hr, hs.withNext n, hmatch⟩
  | cons v vs ih =>
    intro s hs
    have hi : items[i]? = some v := by
      rw [← List.head?_drop, hvs, List.head?_cons]
    have hdrop : items.drop (i + 1) = vs := by rw [← List.tail_drop, hvs, List.tail_cons]
    obtain ⟨r, n, -, hr, hmatch⟩ := Run.exec_next_elements c s x i
    rw [hs.iteration.contained?, Option.getD_some, hi] at hmatch
    obtain ⟨w, rfl, hshows⟩ := hmatch
    exact ⟨_, _, hr, hs.withNext n, w, _, rfl, hshows, ih hdrop⟩

theorem iterates : Iterates c (fun s => x.IsPlainArray s.heap items) x items := by
  intro s hs
  refine ⟨Run.arrayCursor items x, s, Run.exec_cursor c hs.iteration, hs, ?_, ?_⟩
  · cases hs.iteration with
    | tuple => exact yields_rest c items
    | list => exact yields_elements c (List.drop_zero)
  · intro s' hs'
    refine ⟨_, s', Run.exec_limit c _, hs', ?_⟩
    have hremaining : (Run.arrayCursor items x).remaining s'.heap = items.length := by
      have hcount := hs'.iteration.count
      cases hs'.iteration with
      | tuple => rfl
      | list => exact hcount
    rw [hremaining]
    exact Nat.lt_add_of_pos_right (by decide)

end Value.IsPlainArray

/-- A check about a list or a tuple finds its elements, as long as it stays as it is. -/
theorem Check.finds_of_isPlainArray {κ : Type} {check : Check κ Value}
    (hcheck : check.isSequential = true) (c : Conduct) (items : List Value) (x : Value) :
    check.Finds c (fun s => x.IsPlainArray s.heap items) x ⟨some items, none⟩ := by
  have harray : Reads c (fun s => x.IsPlainArray s.heap items) (Look.array x).read _ :=
    Value.IsPlainArray.reads_array c
  have hmeasures : Measures c (fun s => x.IsPlainArray s.heap items) x items :=
    Value.IsPlainArray.measures c
  have hiterates : Iterates c (fun s => x.IsPlainArray s.heap items) x items :=
    Value.IsPlainArray.iterates c
  cases check with
  | array f =>
    refine ⟨harray, fun is his => ?_⟩
    cases his
    exact hiterates
  | tuple fs rest =>
    refine ⟨harray, fun is his => ?_⟩
    cases his
    exact ⟨hmeasures, hiterates, fun _ => Value.IsPlainArray.remains c fs.length⟩
  | parameters fs required rest =>
    refine ⟨harray, fun is his => ?_⟩
    cases his
    exact ⟨hmeasures, Value.IsPlainArray.indexes c,
      fun _ => Value.IsPlainArray.remains c fs.length⟩
  | _ => exact absurd hcheck Bool.false_ne_true

/-! ## Predicates -/

namespace Ask

/-- **Short circuits in the order of declaration.**  A product of the library is called about a value
that reads as the outlook says, as long as `P` holds, and its callables leave `P` as it is.  If the
outside of the value does not fit, the answer is negative and nothing is asked.  Otherwise the
questions fulfil the obligations: they are the obligations in their order, up to the first one that
is not answered positively, and the answer is positive if and only if all of them are. -/
theorem callWith_fulfils (host : Host) (c : Conduct) (P : Session → Prop) (id id' : Nat)
    (name : Name) (facets : Facets) (check : Check Value Value) (hproduct : check.isProduct = true)
    {x : Value} {o : Outlook} (hfinds : check.Finds c P x o)
    (hspares : ∀ f ∈ check.callables, ∀ v s s', P s →
      exec c ((asked host f).accepts v) s = .ok true s' → P s')
    {s : Session} (hs : P s) :
    let t := checking host c check x s
    exec c (callWith host (.predicate id name facets (.rule id' check)) [x]) s =
        t.ending.map .bool ∧
      match check.queries.obligations x o with
      | none => t.questions = [] ∧ ∃ s', t.ending = .ok false s'
      | some ds => Fulfils ds t.questions t.ending ∧
        t.questions.map Moment.callable? = (ds.take t.questions.length).map (fun d => some d.1) ∧
        ((∃ s', t.ending = .ok true s') ↔
          t.questions.length = ds.length ∧ ∀ m ∈ t.questions, m.isAccepted = true) := by
  intro t
  have hspares : ∀ q ∈ check.queries.callables, Dialogue.Spares (answer host) c P q :=
    fun q hq v s s' hs hok => hspares q.callable (Check.callable_mem_of_mem_queries hq) v s s' hs
      (Asked.exec_accepts_of_apply hok)
  have hmeets := Check.course_fulfils (check.isProduct_queries.trans hproduct)
    ((Check.finds_queries c P check).mpr hfinds) hspares hs
  constructor
  · rw [callWith_predicate_rule, ← callWith_rule host id' check x]
    exact exec_callWith_rule host c id' check x s
  · rcases hds : check.queries.obligations x o with _ | ds
    · rw [hds] at hmeets
      exact hmeets
    · rw [hds] at hmeets
      have hfulfils : Fulfils ds t.questions t.ending := hmeets
      exact ⟨hfulfils, hfulfils.callables, hfulfils.ending_iff⟩

/-- A function that always says yes, and is not recorded. -/
def yes : Value := .function 2 (.kept "<lambda>") false (.silent (.bool true))

theorem exec_accepts_yes (host : Host) (c : Conduct) (v : Value) (s : Session) :
    exec c ((asked host yes).accepts v) s = .ok true s := rfl

theorem isPlainArray_tuple_start (id : Nat) {items : List Value} (hlt : items.length < maxIndex) :
    (Value.tuple (.kind .tuple) id items).IsPlainArray Heap.start items :=
  ⟨rfl, .tuple rfl, .tuple rfl, .tuple rfl, hlt⟩

/-- A foreign mapping without entries, which refuses to tell what is under a name. -/
def withholdingCell : Cell := ⟨.kind .foreign, .foreign ⟨[], [.get], ⟨.runtime, failureText⟩⟩⟩

/-- A session with that mapping and no other container. -/
def withholdingSession : Session :=
  { Session.start with heap := { Heap.start with cells := #[withholdingCell] } }

/-- A head of one element and a rest, about a pair: both are asked, in this order.  A field of a mapping
that refuses to be read: nothing is asked, and the verdict is negative. -/
theorem callWith_fulfils_pair :
    let c := conduct .none 1
    let pair : Check Value Value := .tuple [yes] (some yes)
    let x := Value.tuple (.kind .tuple) 3 [.null, .bool true]
    let asked := checking .none c pair x .start
    let field : Check Value Value := .object [(.kept "a", yes)] none
    let unasked := checking .none c field (.ref 0) withholdingSession
    (exec c (callWith .none (.predicate 4 (.plain "") .none (.rule 5 pair)) [x]) .start =
        asked.ending.map .bool ∧
      Fulfils [(⟨.yielding, yes⟩, .value .null), (⟨.plain, yes⟩, .remainder [.bool true])]
        asked.questions asked.ending ∧
      asked.questions.length = 2) ∧
    exec c (callWith .none (.predicate 4 (.plain "") .none (.rule 5 field)) [.ref 0]) withholdingSession =
        unasked.ending.map .bool ∧
      Fulfils [(⟨.plain, yes⟩, .unreadable)] unasked.questions unasked.ending := by
  intro c pair x asked field unasked
  have hyes : ∀ v s s', exec c ((Ask.asked .none yes).accepts v) s = .ok true s' → s = s' := by
    intro v s s' hok
    rw [exec_accepts_yes] at hok
    cases hok
    rfl
  constructor
  · have hx : x.IsPlainArray Heap.start [.null, .bool true] :=
      isPlainArray_tuple_start 3 (by decide)
    have hspares : ∀ f ∈ pair.callables, ∀ v s s', x.IsPlainArray s.heap [.null, .bool true] →
        exec c ((Ask.asked .none f).accepts v) s = .ok true s' →
          x.IsPlainArray s'.heap [.null, .bool true] := by
      intro f hf v s s' hs hok
      obtain rfl : f = yes := by simpa [pair, Check.callables] using hf
      exact hyes v s s' hok ▸ hs
    obtain ⟨hcall, hfulfils, -, -⟩ := callWith_fulfils .none c
      (fun s => x.IsPlainArray s.heap [.null, .bool true]) 4 5 (.plain "") .none
      pair rfl (Check.finds_of_isPlainArray rfl _ _ x) hspares (s := .start) hx
    exact ⟨hcall, hfulfils, rfl⟩
  · let I := Session.Holding Session.Untouched [(0, withholdingCell)]
    have hI : Session.Lasting I := Session.enduring_untouched.toLasting.holding _
    have hs : I withholdingSession :=
      ⟨⟨rfl, rfl, rfl, by decide, List.forall_mem_nil _⟩, List.forall_mem_singleton.mpr rfl⟩
    have hholds : ∀ s, I s → s.heap.HoldsForeign 0 ⟨[], [.get], ⟨.runtime, failureText⟩⟩ := fun s hs =>
      ⟨hs.2 _ List.mem_cons_self, hs.isOrdinary List.mem_cons_self, hs.1.bare fun _ => rfl⟩
    have hfinds : field.Finds c I (.ref 0) ⟨none, some (.ofForeign ⟨[], [.get], ⟨.runtime, failureText⟩⟩
        (fun _ _ => none) fun _ => true)⟩ :=
      Check.finds_of_holdsForeign hI.steadfast hholds (fun _ => rfl) rfl (List.forall_mem_nil _)
        (List.forall_mem_nil _) (fun _ _ => List.forall_mem_nil _)
        fun _ h => absurd h (Option.not_mem_none _)
    have hspares : ∀ f ∈ field.callables, ∀ v s s', I s →
        exec c ((Ask.asked .none f).accepts v) s = .ok true s' → I s' := by
      intro f hf v s s' hs hok
      obtain rfl : f = yes := by simpa [field, Check.callables] using hf
      exact hyes v s s' hok ▸ hs
    obtain ⟨hcall, hfulfils, -, -⟩ := callWith_fulfils .none c I 4 5 (.plain "") .none field rfl hfinds
      hspares hs
    exact ⟨hcall, hfulfils⟩

/-! ## A value that refuses to be measured

The readings have to be known beforehand.  A class may have a method of its own for the length, and
no check catches the failure of that. -/

/-- A session with an empty list whose class has a method for its length that fails. -/
def unmeasuredSession : Session :=
  let heap := Heap.start
  let c := Class.declared heap.declarations.size
  { Session.start with heap := { heap with
      cells := heap.cells.push ⟨c, .list []⟩
      declarations := heap.declarations.push
        ⟨.kept "L", [.kind .list, .kind .object], .kind .list, [.kind .list]⟩
      attributes := heap.attributes ++ [⟨.ofClass c, Method.length.name,
        .function 2 (.kept "refuse") false (.raises ⟨.runtime, "field failed"⟩)⟩] } }

/-- The failure of that method escapes from a predicate about a tuple of one element, where a list
without elements should be turned down.  Nothing has been asked. -/
theorem tuple_fails_unmeasured :
    let c := conduct .none 2
    let p := Value.predicate 3 (.plain "") .none (.rule 4 (.tuple [.leaf .any] none))
    let x := Value.ref Heap.start.cells.size
    (exec c (callWith .none p [x]) unmeasuredSession).failure?.map (·.1) =
        some (.raised ⟨.runtime, "field failed"⟩) ∧
      (questioning .none c p x unmeasuredSession).questions = [] :=
  ⟨rfl, rfl⟩

end Ask

end ValueShape
