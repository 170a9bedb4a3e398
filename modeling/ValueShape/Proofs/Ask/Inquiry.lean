import ValueShape.Proofs.Ask.Course

/-!
# Asking predicates down to their leaves

A predicate of the library asks callables that may be predicates of the library as well.  An inquiry
is the dialogue with all of these dialogues in it, so that only leaves are asked.

* A leaf is a callable that is neither a predicate nor a rule: `Value.isLeaf`.
  `Value.callable_induction` goes from the leaves to the predicates built on them.
* `Dialogue.yielded d` is the dialogue `d` as a predicate holds it that a generator asks.
* `Ask.inquiry p x` is the dialogue that asking `p` about `x` comes down to, and `Ask.inquiry_run`
  says that it gives the same verdict.
* `Ask.inquiry_asksOnly` says that it asks leaves only.
-/

set_option autoImplicit false

namespace ValueShape

open Run (exec)

/-! ## Leaves

A predicate is bigger than the callables that it asks.  So what is claimed of all callables can be
shown by going from the leaves to what is built on them. -/

namespace Value

/-- Whether a callable is a leaf: it is neither a predicate nor the function of one. -/
def isLeaf : Value → Bool
  | predicate .. | rule .. => false
  | _ => true

theorem sizeOf_lt_of_mem_toList {rest : Option Value} {f : Value} (hf : f ∈ rest.toList) :
    sizeOf f < sizeOf rest := by
  obtain rfl := Option.mem_toList.mp hf
  simp

theorem sizeOf_lt_of_mem_fields {fields : List (Name × Value)} {f : Value}
    (hf : f ∈ fields.map (·.2)) : sizeOf f < sizeOf fields := by
  obtain ⟨⟨name, g⟩, he, rfl⟩ := List.mem_map.mp hf
  have h := List.sizeOf_lt_of_mem he
  rw [Prod.mk.sizeOf_spec] at h
  change sizeOf g < sizeOf fields
  omega

/-- The callables of a rule are smaller than the rule. -/
theorem sizeOf_lt_rule {c : Check Value Value} {f : Value} (hf : f ∈ c.callables) (id : Nat) :
    sizeOf f < sizeOf (Value.rule id c) := by
  rw [rule.sizeOf_spec]
  cases c with
  | array g | record g | optional g =>
    obtain rfl := List.mem_singleton.mp hf
    simp only [Check.array.sizeOf_spec, Check.record.sizeOf_spec, Check.optional.sizeOf_spec]
    omega
  | tuple fs rest | parameters fs required rest =>
    simp only [Check.tuple.sizeOf_spec, Check.parameters.sizeOf_spec]
    rcases List.mem_append.mp hf with hf | hf
    · have h := List.sizeOf_lt_of_mem hf
      omega
    · have h := sizeOf_lt_of_mem_toList hf
      omega
  | object fields allowed =>
    have h := sizeOf_lt_of_mem_fields hf
    rw [Check.object.sizeOf_spec]
    omega
  | oneOf fs | allOf fs =>
    have h : sizeOf f < sizeOf fs := List.sizeOf_lt_of_mem hf
    simp only [Check.oneOf.sizeOf_spec, Check.allOf.sizeOf_spec]
    omega
  | literal l | literals ls | instanceOf cls => exact absurd hf List.not_mem_nil

/-- **From the leaves to the predicates that are built on them.** -/
theorem callable_induction {P : Value → Prop} (leaf : ∀ v, v.isLeaf = true → P v)
    (predicate : ∀ id name facets decider, P decider → P (.predicate id name facets decider))
    (rule : ∀ id c, (∀ f ∈ c.callables, P f) → P (.rule id c)) (v : Value) : P v := by
  induction hn : sizeOf v using Nat.strongRecOn generalizing v with
  | ind n ih =>
    subst hn
    cases v with
    | predicate id name facets decider =>
      refine predicate id name facets decider (ih _ ?_ decider rfl)
      rw [Value.predicate.sizeOf_spec]
      omega
    | rule id c => exact rule id c fun f hf => ih _ (sizeOf_lt_rule hf id) f rfl
    | _ => exact leaf _ rfl

end Value

/-! ## Dialogues about leaves -/

namespace Dialogue

variable {κ ι α β : Type}

/-- A dialogue that asks only callables of a certain sort. -/
inductive AsksOnly (sort : κ → Prop) : Dialogue κ α → Prop
  | done (a : α) : AsksOnly sort (done a)
  | look {l : Look} {k : l.Answer → Dialogue κ α} (h : ∀ a, AsksOnly sort (k a)) :
      AsksOnly sort (look l k)
  | glance {g : Glance} {k : Option g.Answer → Dialogue κ α} (h : ∀ a, AsksOnly sort (k a)) :
      AsksOnly sort (glance g k)
  | ask {f : κ} {x : Value} {k : Bool → Dialogue κ α} (hf : sort f)
      (h : ∀ b, AsksOnly sort (k b)) : AsksOnly sort (ask f x k)

variable {sort : κ → Prop}

theorem AsksOnly.bind {d : Dialogue κ α} (hd : d.AsksOnly sort) {k : α → Dialogue κ β}
    (hk : ∀ a, (k a).AsksOnly sort) : (d.bind k).AsksOnly sort := by
  induction hd with
  | done a => exact hk a
  | look _ ih => exact .look ih
  | glance _ ih => exact .glance ih
  | ask hf _ ih => exact .ask hf ih

/-- Where every question of a dialogue asks only callables of a sort, so does the whole. -/
theorem Heeds.asksOnly_inline {d : Dialogue ι Bool} {sort' : ι → Prop} (hd : d.Heeds sort')
    {g : ι → Value → Dialogue κ Bool} (hg : ∀ f, sort' f → ∀ x, (g f x).AsksOnly sort) :
    (d.inline g).AsksOnly sort := by
  induction hd with
  | done b => exact .done b
  | look _ ih => exact .look ih
  | @glance l k _ hnone ih =>
    refine .glance fun a => ?_
    rcases a with _ | a
    · rw [hnone]
      exact .done false
    · exact ih a
  | ask hf _ ih => exact (hg _ hf _).bind ih

/-- In the course of a dialogue only callables of that sort are asked. -/
theorem forall_mem_callable?_looked (l : Look) (s : Session) (r : Ending l.Answer) :
    ∀ f ∈ (Moment.looked l s r : Moment κ).callable?, sort f := by
  intro f hf
  cases hf

theorem forall_mem_callable?_glanced (g : Glance) (s : Session) (r : Ending g.Answer) :
    ∀ f ∈ (Moment.glanced g s r : Moment κ).callable?, sort f := by
  intro f hf
  cases hf

theorem AsksOnly.course (answer : κ → Value → Run Bool) (c : Conduct) {d : Dialogue κ α}
    (hd : d.AsksOnly sort) (s : Session) :
    ∀ m ∈ (d.course answer c s).moments, ∀ f ∈ m.callable?, sort f := by
  induction hd generalizing s with
  | done a => exact fun m hm => absurd hm List.not_mem_nil
  | @look l k _ ih =>
    rw [Dialogue.course]
    rcases exec c l.read s with ⟨a, s'⟩ | ⟨e, s'⟩
    · exact List.forall_mem_cons.mpr ⟨forall_mem_callable?_looked l s _, ih a s'⟩
    · exact List.forall_mem_singleton.mpr (forall_mem_callable?_looked l s _)
  | @glance g k _ ih =>
    rw [Dialogue.course]
    rcases exec c g.read s with ⟨a, s'⟩ | ⟨e, s'⟩
    · exact List.forall_mem_cons.mpr ⟨forall_mem_callable?_glanced g s _, ih (some a) s'⟩
    · by_cases he : e.isOrdinary = true
      · simp only [he, if_true]
        exact List.forall_mem_cons.mpr ⟨forall_mem_callable?_glanced g s _, ih none s'⟩
      · simp only [he]
        exact List.forall_mem_singleton.mpr (forall_mem_callable?_glanced g s _)
  | @ask f x k hf _ ih =>
    have asked (r : Ending Bool) : ∀ g ∈ (Moment.asked f x s r).callable?, sort g := by
      intro g hg
      cases hg
      exact hf
    rw [Dialogue.course]
    rcases exec c (answer f x) s with ⟨b, s'⟩ | ⟨e, s'⟩
    · exact List.forall_mem_cons.mpr ⟨asked _, ih b s'⟩
    · exact List.forall_mem_singleton.mpr (asked _)

/-- A dialogue as a predicate holds it that a generator asks. -/
def yielded : Dialogue (Query κ) α → Dialogue (Query κ) α
  | done a => done a
  | look l k => look (.yielded l) fun a => (k a).yielded
  | glance g k => glance g fun a => (k a).yielded
  | ask q x k => ask q.inside x fun b => (k b).yielded

/-- A predicate that a generator asks gives its verdict inside of the generator. -/
theorem yielded_run (asked : κ → Asked) (d : Dialogue (Query κ) α) :
    d.yielded.run (Query.accepts asked) = Run.yielded (d.run (Query.accepts asked)) := by
  induction d with
  | done a => rfl
  | look l k ih =>
    rw [yielded, run_look, run_look, Run.yielded_bind]
    exact bind_congr ih
  | glance g k ih =>
    rw [yielded, run_glance, run_glance, Run.yielded_bind, Run.yielded_guarded]
    exact bind_congr ih
  | ask q x k ih =>
    rw [yielded, run_ask, run_ask, Run.yielded_bind]
    rw [Query.accepts_inside]
    exact bind_congr ih

theorem AsksOnly.yielded {sort : Query κ → Prop} (hsort : ∀ q, sort q → sort q.inside)
    {d : Dialogue (Query κ) α} (hd : d.AsksOnly sort) : d.yielded.AsksOnly sort := by
  induction hd with
  | done a => exact .done a
  | look _ ih => exact .look ih
  | glance _ ih => exact .glance ih
  | ask hf _ ih => exact .ask (hsort _ hf) ih

end Dialogue

/-! ## Inquiries

A check keeps its callables in lists, in fields, or in a place that may be empty, and there is a
function for each of these.  They are recursive together; the lemmas say that all of them are
maps. -/

namespace Ask

open Dialogue

/-- What asking a callable comes down to if a generator asks it, where `inquiry` is what it comes down
to otherwise. -/
def yieldedInquiry (p : Value) (inquiry : Value → Dialogue (Query Value) Bool) (x : Value) :
    Dialogue (Query Value) Bool :=
  if p.isLeaf then asking ⟨.yielding, p⟩ x else (inquiry x).yielded

mutual

/-- The dialogue that asking a callable about a value comes down to. -/
def inquiry : Value → Value → Dialogue (Query Value) Bool
  | .predicate _ _ _ decider, x => inquiry decider x
  | .rule _ check, x => ((inquiryCheck check).dialogue x).inline id
  | leaf, x => asking ⟨.plain, leaf⟩ x

/-- A check whose callables are the dialogues that asking them comes down to. -/
def inquiryCheck : Check Value Value → Check (Value → Dialogue (Query Value) Bool) Value
  | .array p => .array (yieldedInquiry p (inquiry p))
  | .record p => .record (yieldedInquiry p (inquiry p))
  | .tuple ps rest => .tuple (yieldedInquiryList ps) (inquiryOption rest)
  | .parameters ps required rest => .parameters (inquiryList ps) required (inquiryOption rest)
  | .object fields allowed => .object (inquiryFields fields) allowed
  | .oneOf ps => .oneOf (yieldedInquiryList ps)
  | .allOf ps => .allOf (yieldedInquiryList ps)
  | .literal l => .literal l
  | .literals ls => .literals ls
  | .instanceOf cls => .instanceOf cls
  | .optional p => .optional (inquiry p)

/-- The dialogues that asking callables comes down to. -/
def inquiryList : List Value → List (Value → Dialogue (Query Value) Bool)
  | [] => []
  | p :: ps => inquiry p :: inquiryList ps

/-- The dialogues that asking callables comes down to if a generator asks them. -/
def yieldedInquiryList : List Value → List (Value → Dialogue (Query Value) Bool)
  | [] => []
  | p :: ps => yieldedInquiry p (inquiry p) :: yieldedInquiryList ps

/-- The dialogue that asking a callable that may be missing comes down to. -/
def inquiryOption : Option Value → Option (Value → Dialogue (Query Value) Bool)
  | none => none
  | some p => some (inquiry p)

/-- Fields with the dialogues that asking their callables comes down to. -/
def inquiryFields : List (Name × Value) → List (Name × (Value → Dialogue (Query Value) Bool))
  | [] => []
  | (name, p) :: fields => (name, inquiry p) :: inquiryFields fields

end

/-- What a query of a check comes down to. -/
def queryInquiry (q : Query Value) : Value → Dialogue (Query Value) Bool :=
  match q.manner with
  | .plain => inquiry q.callable
  | _ => yieldedInquiry q.callable (inquiry q.callable)

theorem inquiryList_eq_map (ps : List Value) :
    inquiryList ps = ps.map fun p => queryInquiry ⟨.plain, p⟩ := by
  induction ps with
  | nil => rfl
  | cons p ps ih => rw [inquiryList, ih, List.map_cons]; rfl

theorem yieldedInquiryList_eq_map (ps : List Value) :
    yieldedInquiryList ps = ps.map fun p => queryInquiry ⟨.yielding, p⟩ := by
  induction ps with
  | nil => rfl
  | cons p ps ih => rw [yieldedInquiryList, ih, List.map_cons]; rfl

theorem inquiryOption_eq_map (p : Option Value) :
    inquiryOption p = p.map fun p => queryInquiry ⟨.plain, p⟩ := by
  cases p <;> rfl

theorem inquiryFields_eq_map (fields : List (Name × Value)) :
    inquiryFields fields = fields.map fun e => (e.1, queryInquiry ⟨.plain, e.2⟩) := by
  induction fields with
  | nil => rfl
  | cons e fields ih =>
    obtain ⟨name, p⟩ := e
    rw [inquiryFields, ih, List.map_cons]; rfl

theorem inquiryCheck_eq_map (c : Check Value Value) :
    inquiryCheck c = c.queries.map queryInquiry := by
  cases c with
  | array | record | literal | literals | instanceOf | optional => rfl
  | tuple | parameters | object | oneOf | allOf =>
    simp only [inquiryCheck, Check.queries, Check.map, inquiryList_eq_map, inquiryOption_eq_map,
      yieldedInquiryList_eq_map, inquiryFields_eq_map, List.map_map, Option.map_map,
      Function.comp_def]

theorem inquiry_rule (id : Nat) (c : Check Value Value) (x : Value) :
    inquiry (.rule id c) x = ((c.queries.map queryInquiry).dialogue x).inline fun d => d := by
  rw [inquiry, inquiryCheck_eq_map]
  rfl

theorem inquiry_leaf {p : Value} (hp : p.isLeaf = true) (x : Value) :
    inquiry p x = asking ⟨.plain, p⟩ x := by
  cases p with
  | predicate id name facets decider => exact absurd hp Bool.false_ne_true
  | rule id c => exact absurd hp Bool.false_ne_true
  | _ => rfl

/-! ## What an inquiry gives -/

/-- The dialogue of a check with other callables asks what these stand for. -/
theorem dialogue_map_run {κ ι : Type} (answer : ι → Value → Run Bool) (g : κ → ι)
    (c : Check κ Value) (x : Value) :
    ((c.map g).dialogue x).run answer = (c.dialogue x).run fun f => answer (g f) := by
  -- An answer is the truth of an answer, so both sides are checks that run.
  let asked (f : ι) : Asked := fun x => Value.bool <$> answer f x
  have haccepts : ∀ f, (asked f).accepts = answer f := by
    intro f
    funext x
    simp only [asked, Asked.accepts, map_eq_pure_bind, bind_assoc, pure_bind, Run.truth_bool,
      bind_pure]
  have hι := Check.dialogue_consult asked (c.map g) x
  have hκ := Check.dialogue_consult (fun f => asked (g f)) c x
  simp only [haccepts] at hι hκ
  rw [hι, hκ, Check.map_map]

/-- The dialogue of a check depends on the answers of its callables only. -/
theorem dialogue_run_congr {κ : Type} {answer answer' : κ → Value → Run Bool}
    {c : Check κ Value} (h : ∀ f ∈ c.callables, answer f = answer' f) (x : Value) :
    (c.dialogue x).run answer = (c.dialogue x).run answer' := by
  have hmap : c.map answer = c.map answer' := Check.map_congr h
  have hid := dialogue_map_run (fun (a : Value → Run Bool) => a) answer c x
  rw [← hid, hmap]
  exact dialogue_map_run (fun (a : Value → Run Bool) => a) answer' c x

variable (host : Host)

/-- The verdict of a predicate is that of what decides for it. -/
theorem accepts_predicate (id : Nat) (name : Name) (facets : Facets) (decider x : Value) :
    (asked host (.predicate id name facets decider)).accepts x =
      (asked host decider).accepts x := by
  simp only [Asked.accepts, asked, callWith_predicate, bind_assoc, pure_bind, Run.truth_bool,
    bind_pure]

/-- A predicate answers with its verdict. -/
theorem callWith_predicate_accepts (id : Nat) (name : Name) (facets : Facets) (decider x : Value) :
    callWith host (.predicate id name facets decider) [x] =
      .bool <$> (asked host (.predicate id name facets decider)).accepts x := by
  rw [accepts_predicate, callWith_predicate, map_eq_pure_bind]

/-- How a query is answered. -/
def answer : Query Value → Value → Run Bool := Query.accepts (asked host)

/-- The verdict of a rule is that of its check. -/
theorem accepts_rule_run (id : Nat) (c : Check Value Value) (x : Value) :
    (asked host (.rule id c)).accepts x = (c.map (asked host)).run x := by
  simp only [Asked.accepts, asked, callWith_rule, bind_assoc, pure_bind, Run.truth_bool, bind_pure]

/-- So it is that of the dialogue. -/
theorem accepts_rule (id : Nat) (c : Check Value Value) (x : Value) :
    (asked host (.rule id c)).accepts x = (c.queries.dialogue x).run (answer host) :=
  (accepts_rule_run host id c x).trans (Check.dialogue_run (asked host) c x).symm

/-- Callables other than leaves answer with truth values. -/
theorem asked_eq_map_accepts {p : Value} (hp : p.isLeaf = false) (x : Value) :
    asked host p x = .bool <$> (asked host p).accepts x := by
  cases p with
  | predicate id name facets decider => exact callWith_predicate_accepts host id name facets decider x
  | rule id c =>
    simp only [Asked.accepts, asked, callWith_rule, map_eq_pure_bind, bind_assoc, pure_bind,
      Run.truth_bool]
  | _ => exact absurd hp Bool.true_eq_false.mp

/-- So a generator may take the truth values of their answers as well. -/
theorem isTold_of_not_isLeaf {p : Value} (hp : p.isLeaf = false) : (asked host p).IsTold :=
  Asked.isTold_of_bool (asked_eq_map_accepts host hp)

/-- **An inquiry gives the verdict of the callable.** -/
theorem inquiry_run (p x : Value) :
    (inquiry p x).run (answer host) = (asked host p).accepts x := by
  induction p using Value.callable_induction generalizing x with
  | leaf p hp => rw [inquiry_leaf hp, run_asking]; rfl
  | predicate id name facets decider ih => rw [inquiry, ih, accepts_predicate]
  | rule id c ih =>
    rw [inquiry_rule, run_inline, dialogue_map_run, accepts_rule]
    refine dialogue_run_congr (fun q hq => funext fun y => ?_) x
    have hask := ih q.callable (Check.callable_mem_of_mem_queries hq)
    have hmanner := Check.manner_of_mem_queries hq
    obtain ⟨m, f⟩ := q
    cases m with
    | plain => exact hask y
    | inside => exact absurd rfl hmanner
    | yielding =>
      change (yieldedInquiry f (inquiry f) y).run (answer host) = (asked host f).yielded.accepts y
      cases hf : f.isLeaf with
      | true =>
        rw [yieldedInquiry, if_pos hf, run_asking]
        rfl
      | false =>
        rw [yieldedInquiry, hf, if_neg Bool.false_ne_true, isTold_of_not_isLeaf host hf y, ← hask y]
        exact yielded_run (asked host) (inquiry f y)

/-- An inquiry asks leaves only. -/
theorem inquiry_asksOnly (p x : Value) :
    (inquiry p x).AsksOnly fun q => q.callable.isLeaf = true := by
  induction p using Value.callable_induction generalizing x with
  | leaf p hp =>
    rw [inquiry_leaf hp]
    exact .ask hp .done
  | predicate id name facets decider ih =>
    rw [inquiry]
    exact ih x
  | rule id c ih =>
    rw [inquiry_rule]
    refine (Check.dialogue_heeds (fun _ hd => hd) x).asksOnly_inline fun d hd y => ?_
    rw [Check.callables_map] at hd
    obtain ⟨q, hq, rfl⟩ := List.mem_map.mp hd
    have hask := ih q.callable (Check.callable_mem_of_mem_queries hq) y
    obtain ⟨m, f⟩ := q
    have hyielded : (yieldedInquiry f (inquiry f) y).AsksOnly fun q => q.callable.isLeaf = true := by
      rw [yieldedInquiry]
      split
      · exact .ask ‹_› .done
      · exact hask.yielded fun _ hq => hq
    cases m with
    | plain => exact hask
    | yielding | inside => exact hyielded

end Ask

end ValueShape
