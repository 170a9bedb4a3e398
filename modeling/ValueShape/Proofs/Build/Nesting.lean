import ValueShape.Proofs.Ask.Inquiry
import ValueShape.Proofs.Build.Factory
import ValueShape.Proofs.Build.Strictness

/-!
# Choices inside choices

A choice among predicates asks one of them after the other and stops at the first answer that settles
the verdict.  If a member is a choice of the same kind, its members may stand in its place.

* `Choice` are the two kinds: `one_of`, which a positive answer settles, and `all_of`, which a negative
  one does.  What follows is said once for both of them.
* `Choice.dialogue_append` is the reason for all of it: the dialogue about some members and then others
  is the first dialogue, and the second one unless the first has settled the verdict.
* A `Nest` is a finite tree of predicates, in which each node stands for a choice among what is below.
  `Nest.dialogue` is its dialogue, in which each inner choice is replaced by its own.
* `Nest.queries` are the queries that asking a tree comes down to.  A leaf below an inner choice is asked
  inside of another generator, so its answer is told true from false inside of that.
* `Build.choice_flattens` is the main result: a tree does what the only choice among its leaves does,
  unless telling an answer true from false ends an iteration.
-/

set_option autoImplicit false

namespace ValueShape

open Run

/-! ## Dialogues inside dialogues

A member that is a choice itself brings its own dialogue with it, and the readings in that are made
inside one generator more. -/

namespace Dialogue

variable {κ ι α β : Type}

theorem bind_bind {γ : Type} (d : Dialogue κ α) (k : α → Dialogue κ β) (k' : β → Dialogue κ γ) :
    (d.bind k).bind k' = d.bind fun a => (k a).bind k' := by
  induction d with
  | done a => rfl
  | look l k ih | glance l k ih | ask f x k ih => simp only [Dialogue.bind, ih]

theorem bind_done (d : Dialogue κ α) : d.bind done = d := by
  induction d with
  | done a => rfl
  | look l k ih | glance l k ih | ask f x k ih => simp only [Dialogue.bind, ih]

theorem inline_bind (g : κ → Value → Dialogue ι Bool) (d : Dialogue κ α) (k : α → Dialogue κ β) :
    (d.bind k).inline g = (d.inline g).bind fun a => (k a).inline g := by
  induction d with
  | done a => rfl
  | look l k' ih | glance l k' ih => simp only [Dialogue.bind, inline, ih]
  | ask f x k' ih => simp only [Dialogue.bind, inline, ih, bind_bind]

/-- Where each question is replaced by itself, nothing changes. -/
theorem inline_asking (d : Dialogue κ α) : d.inline asking = d := by
  induction d with
  | done a => rfl
  | look l k ih | glance l k ih => simp only [inline, ih]
  | ask f x k ih => simp only [inline, asking, Dialogue.bind, ih]

/-- A reading, whoever makes it. -/
def bareLook : (l : Look) → (l.Answer → Dialogue κ α) → Dialogue κ α
  | .yielded l, k => bareLook l k
  | l, k => look l k

/-- A dialogue without the manners in which its questions are asked and its readings are made. -/
def bare : Dialogue (Query κ) α → Dialogue κ α
  | done a => done a
  | look l k => bareLook l fun a => (k a).bare
  | glance g k => glance g fun a => (k a).bare
  | ask q x k => ask q.callable x fun b => (k b).bare

theorem bareLook_bind (l : Look) (k : l.Answer → Dialogue κ α) (k' : α → Dialogue κ β) :
    (bareLook l k).bind k' = bareLook l fun a => (k a).bind k' := by
  induction l with
  | yielded l ih => exact ih k
  | _ => rfl

theorem bare_bind (d : Dialogue (Query κ) α) (k : α → Dialogue (Query κ) β) :
    (d.bind k).bare = d.bare.bind fun a => (k a).bare := by
  induction d with
  | done a => rfl
  | look l k' ih => simp only [Dialogue.bind, bare, bareLook_bind, ih]
  | glance l k' ih | ask f x k' ih => simp only [Dialogue.bind, bare, ih]

theorem bare_yielded (d : Dialogue (Query κ) α) : d.yielded.bare = d.bare := by
  induction d with
  | done a => rfl
  | look l k ih | glance l k ih | ask f x k ih => simp only [yielded, bare, bareLook, Query.inside, ih]

end Dialogue

/-- What a query comes down to is what its callable comes down to, but for manners. -/
theorem Ask.bare_queryInquiry (q : Query Value) (x : Value) :
    (Ask.queryInquiry q x).bare = (Ask.inquiry q.callable x).bare := by
  obtain ⟨m, f⟩ := q
  have hyielded : (Ask.yieldedInquiry f (Ask.inquiry f) x).bare = (Ask.inquiry f x).bare := by
    cases hf : f.isLeaf with
    | true =>
      rw [Ask.yieldedInquiry, if_pos hf, Ask.inquiry_leaf hf]
      rfl
    | false => rw [Ask.yieldedInquiry, hf, if_neg Bool.false_ne_true, Dialogue.bare_yielded]
  cases m with
  | plain => rfl
  | yielding | inside => exact hyielded

/-! ## Kinds of choices

Both of them go through their members with a generator, and they differ in nothing but the answer that
settles the verdict. -/

/-- The two ways to combine predicates about the same value. -/
inductive Choice
  /-- The value is accepted by one of the members. -/
  | any
  /-- The value is accepted by all of the members. -/
  | all
deriving DecidableEq, Repr

namespace Choice

/-- The combinator. -/
def operation : Choice → Operation
  | any => .oneOf
  | all => .allOf

/-- Building a predicate from a sequence of members. -/
def build : Choice → Value → Run Value
  | any => Build.oneOf
  | all => Build.allOf

/-- The answer that settles the verdict. -/
def settling : Choice → Bool
  | any => true
  | all => false

variable {κ ι β : Type}

/-- What a choice among callables checks. -/
def check : Choice → List κ → Check κ Value
  | any => .oneOf
  | all => .allOf

/-- What is asked about a value. -/
def dialogue (ch : Choice) (x : Value) (fs : List κ) : Dialogue κ Bool := (ch.check fs).dialogue x

/-- What is asked after an answer, as long as the verdict is not settled. -/
def proceed (ch : Choice) (d : Dialogue κ Bool) (b : Bool) : Dialogue κ Bool :=
  if b = ch.settling then .done b else d

theorem callables_check (ch : Choice) (fs : List κ) : (ch.check fs).callables = fs := by
  cases ch <;> rfl

theorem map_check (ch : Choice) (g : κ → ι) (fs : List κ) :
    (ch.check fs).map g = ch.check (fs.map g) := by
  cases ch <;> rfl

/-- Its members are asked by a generator. -/
theorem queries_check (ch : Choice) (fs : List κ) :
    (ch.check fs).queries = ch.check (fs.map (⟨.yielding, ·⟩)) := by
  cases ch <;> rfl

variable (ch : Choice) (x : Value)

theorem dialogue_nil : ch.dialogue x ([] : List κ) = .done (!ch.settling) := by
  cases ch <;> rfl

theorem dialogue_cons (f : κ) (fs : List κ) :
    ch.dialogue x (f :: fs) = .ask f x (ch.proceed (ch.dialogue x fs)) := by
  cases ch <;>
  · refine congrArg (Dialogue.ask f x) (funext fun b => ?_)
    cases b <;> rfl

theorem dialogue_singleton (f : κ) : ch.dialogue x [f] = .asking f x := by
  rw [dialogue_cons, dialogue_nil]
  cases ch <;>
  · refine congrArg (Dialogue.ask f x) (funext fun b => ?_)
    cases b <;> rfl

/-- After a verdict that is settled nothing is asked, whatever would have been asked then. -/
theorem bind_proceed (d e : Dialogue κ Bool) (b : Bool) :
    (ch.proceed d b).bind (ch.proceed e) = ch.proceed (d.bind (ch.proceed e)) b := by
  by_cases hb : b = ch.settling
  · simp only [proceed, if_pos hb, Dialogue.bind]
  · simp only [proceed, if_neg hb]

theorem inline_proceed (g : κ → Value → Dialogue ι Bool) (d : Dialogue κ Bool) (b : Bool) :
    (ch.proceed d b).inline g = ch.proceed (d.inline g) b := by
  by_cases hb : b = ch.settling
  · simp only [proceed, if_pos hb, Dialogue.inline]
  · simp only [proceed, if_neg hb]

theorem bare_proceed (d : Dialogue (Query κ) Bool) (b : Bool) :
    (ch.proceed d b).bare = ch.proceed d.bare b := by
  by_cases hb : b = ch.settling
  · simp only [proceed, if_pos hb, Dialogue.bare]
  · simp only [proceed, if_neg hb]

theorem yielded_proceed (d : Dialogue (Query κ) Bool) (b : Bool) :
    (ch.proceed d b).yielded = ch.proceed d.yielded b := by
  by_cases hb : b = ch.settling
  · simp only [proceed, if_pos hb, Dialogue.yielded]
  · simp only [proceed, if_neg hb]

/-- **Members are asked part by part**: the later ones as long as the earlier ones do not settle the
verdict. -/
theorem dialogue_append (fs gs : List κ) :
    ch.dialogue x (fs ++ gs) = (ch.dialogue x fs).bind (ch.proceed (ch.dialogue x gs)) := by
  induction fs with
  | nil =>
    have hne : (!ch.settling) ≠ ch.settling := by cases ch <;> decide
    rw [List.nil_append, dialogue_nil, Dialogue.bind, proceed, if_neg hne]
  | cons f fs ih =>
    rw [List.cons_append, dialogue_cons, dialogue_cons, ih, Dialogue.bind]
    exact congrArg (Dialogue.ask f x) (funext fun b => (ch.bind_proceed _ _ b).symm)

theorem inline_dialogue_map (g : ι → Value → Dialogue κ Bool) (h : β → ι) (fs : List β) :
    (ch.dialogue x (fs.map h)).inline g = (ch.dialogue x fs).inline fun f => g (h f) := by
  induction fs with
  | nil => simp only [List.map_nil, dialogue_nil, Dialogue.inline]
  | cons f fs ih => simp only [List.map_cons, dialogue_cons, Dialogue.inline, inline_proceed, ih]

/-- Where each member is replaced by a choice of the same kind, all their members are asked in a row. -/
theorem inline_dialogue {g : κ → Value → Dialogue ι Bool} {g' : β → Value → Dialogue ι Bool}
    {parts : κ → List β} {fs : List κ}
    (h : ∀ f ∈ fs, g f x = (ch.dialogue x (parts f)).inline g') :
    (ch.dialogue x fs).inline g = (ch.dialogue x (fs.flatMap parts)).inline g' := by
  induction fs with
  | nil => simp only [List.flatMap_nil, dialogue_nil, Dialogue.inline]
  | cons f fs ih =>
    obtain ⟨hf, hfs⟩ := List.forall_mem_cons.mp h
    rw [List.flatMap_cons, dialogue_append, Dialogue.inline_bind, dialogue_cons, Dialogue.inline, hf]
    simp only [inline_proceed, ih hfs]

theorem bare_inline_dialogue (g : κ → Value → Dialogue (Query ι) Bool) (fs : List κ) :
    ((ch.dialogue x fs).inline g).bare = (ch.dialogue x fs).inline fun f y => (g f y).bare := by
  induction fs with
  | nil => simp only [dialogue_nil, Dialogue.inline, Dialogue.bare]
  | cons f fs ih =>
    simp only [dialogue_cons, Dialogue.inline, inline_proceed, Dialogue.bare_bind, bare_proceed, ih]

/-- If a generator asks the choice, then everything is inside. -/
theorem yielded_dialogue (qs : List (Query κ)) :
    (ch.dialogue x qs).yielded = ch.dialogue x (qs.map Query.inside) := by
  induction qs with
  | nil => simp only [List.map_nil, dialogue_nil, Dialogue.yielded]
  | cons q qs ih => simp only [List.map_cons, dialogue_cons, Dialogue.yielded, yielded_proceed, ih]

/-- Members may stand in the place of a choice among them. -/
theorem run_flatMap {answer : κ → Value → Run Bool} {answer' : ι → Value → Run Bool}
    {parts : κ → List ι} {fs : List κ}
    (h : ∀ f ∈ fs, ∀ y, answer f y = (ch.dialogue y (parts f)).run answer') :
    (ch.dialogue x fs).run answer = (ch.dialogue x (fs.flatMap parts)).run answer' := by
  have hinline : (ch.dialogue x fs).inline (fun f y => ch.dialogue y (parts f)) =
      ch.dialogue x (fs.flatMap parts) :=
    (ch.inline_dialogue x fun f _ => (Dialogue.inline_asking _).symm).trans (Dialogue.inline_asking _)
  rw [← hinline, Dialogue.run_inline]
  refine Ask.dialogue_run_congr (fun f hf => funext (h f ?_)) x
  rwa [callables_check] at hf

/-! ### Products -/

/-- A predicate has been built from a sequence with the given members. -/
def Combines (members : List Value) (p : Value) : Prop :=
  ∃ c preds s s₁ s₂,
    exec c (Build.requireCallables ch.operation.name "preds" preds) s = .ok members s₁ ∧
      exec c (ch.build preds) s = .ok p s₂

namespace Combines

variable {ch} {members : List Value} {p : Value}

/-- A product checks the choice among its members. -/
theorem decided (h : ch.Combines members p) :
    ∃ id title facets id', p = .predicate id title facets (.rule id' (ch.check members)) := by
  obtain ⟨c, preds, s, s₁, s₂, hread, hp⟩ := h
  cases ch <;>
  · obtain ⟨head, _, hhead, hp⟩ := exists_of_exec_bind hp
    cases hread.symm.trans hhead
    obtain ⟨_, _, -, hp⟩ := exists_of_exec_bind hp
    obtain ⟨_, _, -, hp⟩ := exists_of_exec_bind hp
    exact Build.exec_product_ok hp

/-- A product answers with the truth value that asking it comes to. -/
theorem callWith (h : ch.Combines members p) (host : Host) :
    Ask.callWith host p [x] = .bool <$> (Ask.asked host p).accepts x := by
  obtain ⟨id, title, facets, id', rfl⟩ := h.decided
  exact Ask.callWith_predicate_accepts host id title facets _ x

/-- A product is not a leaf, so its verdict may be told inside of a generator. -/
theorem isTold (h : ch.Combines members p) (host : Host) : (Ask.asked host p).IsTold := by
  obtain ⟨id, title, facets, id', rfl⟩ := h.decided
  exact Ask.isTold_of_not_isLeaf host rfl

/-- Asking a product is to hold the dialogue about its members, which a generator asks. -/
theorem accepts (h : ch.Combines members p) (host : Host) : (Ask.asked host p).accepts x =
    (ch.dialogue x (members.map (⟨.yielding, ·⟩))).run (Ask.answer host) := by
  obtain ⟨id, title, facets, id', rfl⟩ := h.decided
  rw [Ask.accepts_predicate, Ask.accepts_rule, queries_check]
  rfl

theorem inquiry (h : ch.Combines members p) : (Ask.inquiry p x).bare =
    (ch.dialogue x members).inline fun f y => (Ask.inquiry f y).bare := by
  obtain ⟨id, title, facets, id', rfl⟩ := h.decided
  rw [Ask.inquiry, Ask.inquiry_rule, queries_check, map_check]
  refine (congrArg Dialogue.bare (ch.inline_dialogue_map x (fun d => d) Ask.queryInquiry _)).trans ?_
  rw [bare_inline_dialogue, inline_dialogue_map]
  simp only [Ask.bare_queryInquiry]

end Combines

end Choice

/-! ## Answers that are neither true nor false

Here is the only difference that flattening makes.  A generator asks the leaf, but the truth value
of the answer is taken outside of it.  If the leaf belongs to a choice inside, this is still within
the generator of the outer one. -/

/-- A callable answers about a value, but telling the answer true from false ends an iteration. -/
def Asked.LeavesUntold (ask : Asked) (c : Conduct) (x : Value) (e : Failure) (s' : Session) : Prop :=
  ∃ s v s₁, exec c (ask x) s = .ok v s₁ ∧ exec c (truth v) s₁ = .error e s' ∧ e.isOfEnd = true

/-- Two endings are the same, unless an answer of a callable is neither true nor false: then both are
the failure to tell, but the first one has left another generator. -/
def Ending.SameUnlessUntold {κ α : Type} (asked : κ → Asked) (c : Conduct) (x : Value) (fs : List κ)
    (r r' : Ending α) : Prop :=
  r = r' ∨ ∃ f ∈ fs, ∃ e s', (asked f).LeavesUntold c x e s' ∧ r' = .error e s' ∧
    r = .error e.yielded s'

/-- If all answers are true or false, they are the same. -/
theorem Ending.SameUnlessUntold.eq {κ α : Type} {asked : κ → Asked} {c : Conduct} {x : Value}
    {fs : List κ} {r r' : Ending α} (h : r.SameUnlessUntold asked c x fs r')
    (htold : ∀ f ∈ fs, ∀ e s', ¬(asked f).LeavesUntold c x e s') : r = r' := by
  rcases h with heq | ⟨f, hf, e, s', huntold, -⟩
  · exact heq
  · exact absurd huntold (htold f hf e s')

theorem Ending.SameUnlessUntold.map {κ α β : Type} {asked : κ → Asked} {c : Conduct} {x : Value}
    {fs : List κ} {r r' : Ending α} (h : r.SameUnlessUntold asked c x fs r') (g : α → β) :
    (r.map g).SameUnlessUntold asked c x fs (r'.map g) := by
  rcases h with rfl | ⟨f, hf, e, s', huntold, rfl, rfl⟩
  · exact .inl rfl
  · exact .inr ⟨f, hf, e, s', huntold, rfl, rfl⟩

namespace Query

variable {κ : Type} (q : Query κ)

/-- The query, where a generator asks the leaf that it is for, or the choice that it comes from. -/
def yielded : Query κ := if q.manner = .plain then ⟨.yielding, q.callable⟩ else q.inside

theorem callable_yielded : q.yielded.callable = q.callable := by
  unfold yielded
  split <;> rfl

theorem manner_yielded : q.yielded.manner ≠ .plain := by
  unfold yielded
  split <;> exact nofun

theorem yielded_of_ne (h : q.manner ≠ .plain) : q.yielded = q.inside := if_neg h

/-- A query that a generator asks is answered as if it asked nothing but the callable. -/
theorem exec_accepts_sameUnlessUntold (asked : κ → Asked) (c : Conduct) (x : Value) (s : Session)
    (h : q.manner ≠ .plain) : (exec c (q.accepts asked x) s).SameUnlessUntold asked c x [q.callable]
      (exec c ((asked q.callable).yielded.accepts x) s) := by
  obtain ⟨m, f⟩ := q
  cases m with
  | plain => exact absurd rfl h
  | yielding => exact .inl rfl
  | inside =>
    change Ending.SameUnlessUntold asked c x [f] (exec c ((Manner.inside.apply (asked f)).accepts x) s) _
    rw [Asked.accepts_inside, exec_yielded, Asked.accepts, Asked.accepts, exec_bind, exec_bind,
      Asked.yielded, exec_yielded]
    rcases hask : exec c (asked f x) s with ⟨v, s₁⟩ | ⟨e, s₁⟩
    · dsimp only [Ending.andThen_ok, Ending.yielded_ok]
      rcases htruth : exec c (truth v) s₁ with ⟨b, s'⟩ | ⟨e, s'⟩
      · exact .inl rfl
      · cases he : e.isOfEnd with
        | true => exact .inr ⟨f, List.mem_singleton_self f, e, s', ⟨s, v, s₁, hask, htruth, he⟩, rfl, rfl⟩
        | false => exact .inl (by rw [Ending.yielded_error, Failure.yielded_of_not he])
    · exact .inl rfl

end Query

/-- A choice among members that are asked below other choices ends as the choice among the members
themselves does. -/
theorem Choice.exec_dialogue_sameUnlessUntold {κ : Type} (ch : Choice) (x : Value)
    (asked : κ → Asked) (c : Conduct) {qs : List (Query κ)} (h : ∀ q ∈ qs, q.manner ≠ .plain)
    (s : Session) : (exec c ((ch.dialogue x qs).run (Query.accepts asked)) s).SameUnlessUntold asked c x
      (qs.map Query.callable) (exec c ((ch.dialogue x ((qs.map Query.callable).map
        (⟨.yielding, ·⟩))).run (Query.accepts asked)) s) := by
  induction qs generalizing s with
  | nil => exact .inl rfl
  | cons q qs ih =>
    obtain ⟨hq, hqs⟩ := List.forall_mem_cons.mp h
    simp only [List.map_cons, dialogue_cons, Dialogue.run_ask, exec_bind]
    rcases q.exec_accepts_sameUnlessUntold asked c x s hq with heq | ⟨f, hf, e, s', huntold, hr', hr⟩
    · rw [heq, show Query.accepts asked ⟨.yielding, q.callable⟩ x = (asked q.callable).yielded.accepts x
        from rfl]
      rcases exec c ((asked q.callable).yielded.accepts x) s with ⟨b, s₁⟩ | ⟨e, s₁⟩
      · dsimp only [Ending.andThen_ok]
        by_cases hb : b = ch.settling
        · simp only [proceed, if_pos hb]
          exact .inl rfl
        · simp only [proceed, if_neg hb]
          rcases ih hqs s₁ with heq | ⟨f, hf, hfails⟩
          · exact .inl heq
          · exact .inr ⟨f, List.mem_cons_of_mem _ hf, hfails⟩
      · exact .inl rfl
    · refine .inr ⟨f, List.mem_cons.mpr (.inl (List.mem_singleton.mp hf)), e, s', huntold, ?_, ?_⟩
      · rw [show Query.accepts asked ⟨.yielding, q.callable⟩ x = (asked q.callable).yielded.accepts x
          from rfl, hr', Ending.andThen_error]
      · rw [hr, Ending.andThen_error]

/-! ## Trees

The leaves of a tree may be predicates of any sort, even choices that are to be left as they are. -/

/-- A finite tree of predicates. -/
inductive Nest
  /-- A predicate, whatever it is. -/
  | leaf (p : Value)
  /-- A predicate that is a choice among what is below it. -/
  | node (p : Value) (below : List Nest)

namespace Nest

/-- The predicate on top. -/
def top : Nest → Value
  | leaf p | node p _ => p

mutual

/-- The predicates at the leaves, from left to right. -/
def leaves : Nest → List Value
  | leaf p => [p]
  | node _ below => allLeaves below

/-- The predicates at the leaves of some trees. -/
def allLeaves : List Nest → List Value
  | [] => []
  | t :: ts => t.leaves ++ allLeaves ts

end

theorem allLeaves_eq_flatMap (ts : List Nest) : allLeaves ts = ts.flatMap leaves := by
  induction ts with
  | nil => rfl
  | cons t ts ih => rw [allLeaves, ih, List.flatMap_cons]

mutual

/-- The dialogue of a tree: at a leaf the predicate is asked, and at a node there is the dialogue about
the members, in which each of them is replaced by the dialogue of its own tree. -/
def dialogue (ch : Choice) : Nest → Value → Dialogue Value Bool
  | leaf p, x => .asking p x
  | node _ below, x => (ch.dialogue x (dialogues ch below)).inline fun d => d

/-- The dialogues of some trees. -/
def dialogues (ch : Choice) : List Nest → List (Value → Dialogue Value Bool)
  | [] => []
  | t :: ts => t.dialogue ch :: dialogues ch ts

end

theorem dialogues_eq_map (ch : Choice) (ts : List Nest) : dialogues ch ts = ts.map (dialogue ch) := by
  induction ts with
  | nil => rfl
  | cons t ts ih => rw [dialogues, ih, List.map_cons]

mutual

/-- The queries that asking the top of a tree comes down to, from left to right. -/
def queries : Nest → List (Query Value)
  | leaf p => [⟨.plain, p⟩]
  | node _ below => allQueries below

/-- The queries that asking some trees comes down to if a generator asks them. -/
def allQueries : List Nest → List (Query Value)
  | [] => []
  | t :: ts => t.queries.map Query.yielded ++ allQueries ts

end

theorem allQueries_eq_flatMap (ts : List Nest) :
    allQueries ts = ts.flatMap fun t => t.queries.map Query.yielded := by
  induction ts with
  | nil => rfl
  | cons t ts ih => rw [allQueries, ih, List.flatMap_cons]

/-- Below a node everything is asked by a generator. -/
theorem manner_of_mem_allQueries {ts : List Nest} {q : Query Value} (hq : q ∈ allQueries ts) :
    q.manner ≠ .plain := by
  rw [allQueries_eq_flatMap, List.mem_flatMap] at hq
  obtain ⟨t, -, hq⟩ := hq
  obtain ⟨q, -, rfl⟩ := List.mem_map.mp hq
  exact q.manner_yielded

/-- Every node of a tree has been built from what is right below it. -/
inductive Built (ch : Choice) : Nest → Prop
  | leaf (p : Value) : Built ch (leaf p)
  | node {p : Value} {below : List Nest} (combines : ch.Combines (below.map top) p)
      (built : ∀ t ∈ below, Built ch t) : Built ch (node p below)

namespace Built

variable {ch : Choice} {t : Nest} (x : Value)

theorem combines_below {p : Value} {below : List Nest} (h : (Nest.node p below).Built ch) :
    ch.Combines (below.map top) p := by
  cases h with
  | node hp _ => exact hp

/-- **The dialogue of a tree is the one about its leaves.** -/
theorem dialogue_eq (h : t.Built ch) : t.dialogue ch x = ch.dialogue x t.leaves := by
  induction h with
  | leaf p => exact (ch.dialogue_singleton x p).symm
  | node _ _ ih =>
    rw [Nest.dialogue, dialogues_eq_map, ch.inline_dialogue_map, leaves, allLeaves_eq_flatMap]
    exact (ch.inline_dialogue x fun t ht => (ih t ht).trans (Dialogue.inline_asking _).symm).trans
      (Dialogue.inline_asking _)

/-- What asking the top of a tree comes down to is what asking the leaves comes down to. -/
theorem inquiry_eq (h : t.Built ch) : (Ask.inquiry t.top x).bare =
    (ch.dialogue x t.leaves).inline fun f y => (Ask.inquiry f y).bare := by
  induction h with
  | leaf p =>
    rw [leaves, ch.dialogue_singleton, top]
    exact (Dialogue.bind_done _).symm
  | node hp _ ih =>
    rw [top, hp.inquiry, ch.inline_dialogue_map, leaves, allLeaves_eq_flatMap]
    exact ch.inline_dialogue x ih

/-- The queries are for the leaves. -/
theorem map_callable_queries (h : t.Built ch) : t.queries.map Query.callable = t.leaves := by
  induction h with
  | leaf p => rfl
  | @node p below _ _ ih =>
    rw [queries, leaves, allQueries_eq_flatMap, allLeaves_eq_flatMap, List.map_flatMap]
    refine List.flatMap_congr fun t ht => ?_
    rw [← ih t ht, List.map_map]
    exact List.map_congr_left fun q _ => q.callable_yielded

/-- Asking the top of a tree is to hold the dialogue about its queries. -/
theorem accepts_eq (h : t.Built ch) (host : Host) :
    (Ask.asked host t.top).accepts x = (ch.dialogue x t.queries).run (Ask.answer host) := by
  induction h generalizing x with
  | leaf p =>
    rw [queries, ch.dialogue_singleton, Dialogue.run_asking]
    rfl
  | @node p below hp hbelow ih =>
    have hyielded : ∀ t ∈ below, ∀ y, Ask.answer host ⟨.yielding, t.top⟩ y =
        (ch.dialogue y (t.queries.map Query.yielded)).run (Ask.answer host) := by
      intro t ht y
      have hask := ih t ht y
      cases hbelow t ht with
      | leaf p =>
        rw [queries, List.map_singleton, ch.dialogue_singleton, Dialogue.run_asking]
        rfl
      | @node p' below' hp' _ =>
        -- What is below an inner choice is asked inside of the generator that asks the choice.
        have hinside : (allQueries below').map Query.yielded = (allQueries below').map Query.inside :=
          List.map_congr_left fun q hq => q.yielded_of_ne (manner_of_mem_allQueries hq)
        change (Ask.asked host p').yielded.accepts y = _
        rw [hp'.isTold host y, queries, hinside, ← ch.yielded_dialogue]
        exact (congrArg Run.yielded hask).trans
          (Dialogue.yielded_run (Ask.asked host) (ch.dialogue y (allQueries below'))).symm
    have hmembers : (below.map top).map (fun p => (⟨.yielding, p⟩ : Query Value)) =
        below.map fun t => ⟨.yielding, t.top⟩ := List.map_map
    rw [top, hp.accepts, hmembers, queries, allQueries_eq_flatMap, Choice.dialogue, ← ch.map_check,
      Ask.dialogue_map_run]
    exact ch.run_flatMap x hyielded

end Built

/-- A choice with a choice of the same kind among its members. -/
def spliced (p : Value) (ps : List Value) (inner : Value) (qs rs : List Value) : Nest :=
  node p (ps.map leaf ++ node inner (qs.map leaf) :: rs.map leaf)

theorem allLeaves_map_leaf (ps : List Value) : allLeaves (ps.map leaf) = ps := by
  induction ps with
  | nil => rfl
  | cons p ps ih => rw [List.map_cons, allLeaves, ih, leaves, List.singleton_append]

theorem map_top_leaf (ps : List Value) : (ps.map leaf).map top = ps := by
  rw [List.map_map]
  exact List.map_id ps

theorem leaves_spliced (p : Value) (ps : List Value) (inner : Value) (qs rs : List Value) :
    (spliced p ps inner qs rs).leaves = ps ++ qs ++ rs := by
  have hleaves (vs : List Value) : (vs.map leaf).flatMap leaves = vs := by
    rw [← allLeaves_eq_flatMap, allLeaves_map_leaf]
  rw [spliced, leaves, allLeaves_eq_flatMap, List.flatMap_append, List.flatMap_cons, hleaves, hleaves,
    leaves, allLeaves_map_leaf, List.append_assoc]

theorem built_spliced {ch : Choice} {p : Value} {ps : List Value} {inner : Value} {qs rs : List Value}
    (hinner : ch.Combines qs inner) (hp : ch.Combines (ps ++ inner :: rs) p) :
    (spliced p ps inner qs rs).Built ch := by
  have hleaf (vs : List Value) : ∀ t ∈ vs.map leaf, t.Built ch := by
    intro t ht
    obtain ⟨v, -, rfl⟩ := List.mem_map.mp ht
    exact .leaf v
  refine .node ?_ (List.forall_mem_append.mpr ⟨hleaf ps, List.forall_mem_cons.mpr ⟨?_, hleaf rs⟩⟩)
  · rwa [List.map_append, List.map_cons, map_top_leaf, map_top_leaf]
  · exact .node (by rwa [map_top_leaf]) (hleaf qs)

end Nest

namespace Build

/-- What is on top of a tree and the only choice among the leaves are called with the same ending. -/
theorem exec_callWith_nest {ch : Choice} {p q : Value} {below : List Nest}
    (hp : (Nest.node p below).Built ch) (hq : ch.Combines (Nest.node p below).leaves q) (host : Host)
    (x : Value) (c : Conduct) (s : Session) :
    (exec c (Ask.callWith host p [x]) s).SameUnlessUntold (Ask.asked host) c x
      (Nest.node p below).leaves (exec c (Ask.callWith host q [x]) s) := by
  have haccepts : (Ask.asked host p).accepts x = _ := hp.accepts_eq x host
  have hmanner : ∀ q ∈ (Nest.node p below).queries, q.manner ≠ .plain :=
    fun q hq => Nest.manner_of_mem_allQueries hq
  have hsame := ch.exec_dialogue_sameUnlessUntold x (Ask.asked host) c hmanner s
  rw [hp.map_callable_queries] at hsame
  rw [hp.combines_below.callWith, hq.callWith, exec_map, exec_map, haccepts, hq.accepts]
  exact hsame.map Value.bool

/-- **Choices inside choices flatten.**  Where a member of a choice is a choice of the same kind, both
together do what the only choice among all these members does, and so does a tree of such choices, of
whatever shape.  That is to say, a call about any value ends alike under every conduct and in every
session, with the same verdict or the same failure, and it asks the same members about that value in
the same order.  (If telling an answer true from false ends an iteration, then the failure is that of
the generator around it; but such an answer is neither true nor false.)  A choice without members gives
the verdict that no answer would have settled. -/
theorem choice_flattens (ch : Choice) (host : Host) :
    (∀ {ps qs rs : List Value} {inner p q : Value}, ch.Combines qs inner →
      ch.Combines (ps ++ inner :: rs) p → ch.Combines (ps ++ qs ++ rs) q → ∀ x,
        (∀ c s, (exec c (Ask.callWith host p [x]) s).SameUnlessUntold (Ask.asked host) c x
          (ps ++ qs ++ rs) (exec c (Ask.callWith host q [x]) s)) ∧
        (Nest.spliced p ps inner qs rs).dialogue ch x = ch.dialogue x (ps ++ qs ++ rs)) ∧
    (∀ {p q : Value} {below : List Nest}, (Nest.node p below).Built ch →
      ch.Combines (Nest.node p below).leaves q → ∀ x,
        (∀ c s, (exec c (Ask.callWith host p [x]) s).SameUnlessUntold (Ask.asked host) c x
          (Nest.node p below).leaves (exec c (Ask.callWith host q [x]) s)) ∧
        (Nest.node p below).queries.map Query.callable = (Nest.node p below).leaves ∧
        (∀ c s, exec c (Ask.callWith host p [x]) s = ((ch.dialogue x (Nest.node p below).queries).course
          (Ask.answer host) c s).ending.map .bool) ∧
        (Nest.node p below).dialogue ch x = ch.dialogue x (Nest.node p below).leaves ∧
        (Ask.inquiry p x).bare = (Ask.inquiry q x).bare) ∧
    (∀ {p : Value}, ch.Combines [] p → ∀ x,
      Ask.callWith host p [x] = pure (.bool (!ch.settling))) := by
  refine ⟨fun {ps qs rs inner p q} hinner hp hq x => ?_, fun {p q below} hp hq x => ?_,
    fun {p} hp x => ?_⟩
  · have hbuilt : (Nest.spliced p ps inner qs rs).Built ch := Nest.built_spliced hinner hp
    have hleaves := Nest.leaves_spliced p ps inner qs rs
    refine ⟨fun c s => ?_, by rw [hbuilt.dialogue_eq, hleaves]⟩
    rw [← hleaves]
    exact exec_callWith_nest hbuilt (by rwa [← hleaves] at hq) host x c s
  · refine ⟨fun c s => exec_callWith_nest hp hq host x c s, hp.map_callable_queries, fun c s => ?_,
      hp.dialogue_eq x, (hp.inquiry_eq x).trans (hq.inquiry x).symm⟩
    have haccepts : (Ask.asked host p).accepts x = _ := hp.accepts_eq x host
    rw [hp.combines_below.callWith, haccepts, Dialogue.course_ending, exec_map]
  · rw [hp.callWith, hp.accepts, List.map_nil, ch.dialogue_nil, Dialogue.run_done, map_pure]

/-! ### Texts and what is absent -/

/-- A choice between a leaf and a choice of two more, and the only choice among all three. -/
theorem choice_flattens_nullish :
    ∃ p inner q, Choice.any.Combines [.leaf .null, .leaf .undefined] inner ∧
      Choice.any.Combines [.leaf .string, inner] p ∧
      Choice.any.Combines [.leaf .string, .leaf .null, .leaf .undefined] q ∧
      (∀ l x c e s', ¬(Ask.asked .none (.leaf l)).LeavesUntold c x e s') ∧
      ∀ x c s, exec c (Ask.callWith .none p [x]) s = exec c (Ask.callWith .none q [x]) s := by
  have hI := Session.enduring_untouched
  have hleaf (l : Leaf) : (Value.leaf l).SteadyBy (Ask.conduct .none 3) Session.Untouched
      (shownFunctionName l.name) := ⟨_, steady_leaf hI.abiding (fun _ hs => hs) l⟩
  have hmake {vs : List Value} {texts : List String}
      (hvs : AllSteadyBy (Ask.conduct .none 3) Session.Untouched vs texts) :
      ∃ p, Choice.any.Combines vs p ∧
        p.SteadyBy (Ask.conduct .none 3) Session.Untouched (listTitle Operation.oneOf.name texts none) := by
    have hread := settles_requireCallables_tuple hI.toLasting .start Operation.oneOf.name "preds" 9
      hvs.forall
    obtain ⟨p, s, hp, -, -, hmade⟩ := @settles_oneOf .none 2 _ _ 0 hI.toLasting _ _ _ hvs hread
    obtain ⟨_, s', hread, -, -, rfl⟩ := hread
    exact ⟨p, ⟨_, _, _, s', s, hread, hp⟩, _, hmade.product.steady hI⟩
  obtain ⟨inner, hinner, hsteady⟩ := hmake (.cons (hleaf .null) (.cons (hleaf .undefined) .nil))
  obtain ⟨p, hp, -⟩ := hmake (.cons (hleaf .string) (.cons hsteady .nil))
  obtain ⟨q, hq, -⟩ := hmake
    (.cons (hleaf .string) (.cons (hleaf .null) (.cons (hleaf .undefined) .nil)))
  have hp' : Choice.any.Combines ([.leaf .string] ++ inner :: []) p := hp
  have htold (l : Leaf) (x : Value) (c : Conduct) (e : Failure) (s' : Session) :
      ¬(Ask.asked .none (.leaf l)).LeavesUntold c x e s' := by
    rintro ⟨s, v, s₁, hask, htruth, -⟩
    obtain ⟨b, _, -, hv⟩ := exists_of_exec_bind hask
    cases hv
    cases htruth
  refine ⟨p, inner, q, hinner, hp, hq, htold, fun x c s => ?_⟩
  have hleaves : ∀ f ∈ [Value.leaf .string] ++ [.leaf .null, .leaf .undefined] ++ [],
      ∃ l, f = .leaf l := by simp
  refine (((choice_flattens .any .none).1 hinner hp' hq x).1 c s).eq fun f hf e s' => ?_
  obtain ⟨l, rfl⟩ := hleaves f hf
  exact htold l x c e s'

end Build

end ValueShape
