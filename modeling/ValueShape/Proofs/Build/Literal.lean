import ValueShape.Proofs.Build.Nesting
import ValueShape.Proofs.Conduct.Literal

/-!
# Products about literals

`literal_of` makes a predicate for one literal, `literal_one_of` one for several.

* `Build.ForLiteral l p` says that `p` has been made for the literal `l`, and `Build.ForLiterals ls p`
  that it has been made for the literals `ls` that were read from a sequence or set.
* `Build.callWith_literals` says that a predicate for several literals does what the choice among the
  predicates for each of them does, whatever their classes do when they are compared.  Only the truth
  value of a comparison is taken inside of the generator there, and outside of it here.
* `Build.literal_equivalence` is the main result: between literals that are compared in the built-in way,
  matching is an equivalence, and which of those that match each other a predicate is made for, how often
  and in which order, makes no difference.

A class with a comparison of its own need not treat both sides alike: `Build.literal_asymmetric`.
-/

set_option autoImplicit false

namespace ValueShape

open Run

namespace Build

/-! ## Making predicates for literals -/

/-- The literals in a sequence or set, and the tuple that holds them. -/
def readLiterals (values : Value) : Run (Value × List Value) := do
  let factory := Operation.literalOneOf.name
  let isSuitable ← if ← isTextual values then pure false
    else isOfAnyKind values [.sequence, .setLike]
  if !isSuitable then
    throw (.refusal factory
      ("values must be a sequence or set of primitives, got " ++ (← shownClass values)))
  let args ← toTuple values
  return (args, ((← heap).contained? args).getD [])

/-- Literals are read first, and then a predicate is made for them. -/
theorem literals_eq (values : Value) :
    literals values = (do
      let (args, ls) ← readLiterals values
      requirePrimitives Operation.literalOneOf.name 0 ls
      product Operation.literalOneOf.name [args] (← listName Operation.literalOneOf.name ls none)
        (.literals ls)) := by
  simp only [literals, readLiterals, bind_assoc, pure_bind]
  refine bind_congr fun isTextual => ?_
  cases isTextual with
  | true => simp only [Bool.not_false, if_true, bind_assoc, pure_bind]
  | false =>
    simp only [Bool.false_eq_true, if_false, bind_assoc]
    refine bind_congr fun isSuitable => ?_
    cases isSuitable <;>
      simp only [Bool.not_false, Bool.not_true, Bool.false_eq_true, if_true, if_false, bind_assoc, pure_bind]

/-- A predicate has been made for a literal. -/
def ForLiteral (l p : Value) : Prop := ∃ c s s', exec c (literal l) s = .ok p s'

/-- A predicate has been made for the literals that have been read from a sequence or set. -/
def ForLiterals (ls : List Value) (p : Value) : Prop :=
  ∃ c values args s s₁ s', exec c (readLiterals values) s = .ok (args, ls) s₁ ∧
    exec c (literals values) s = .ok p s'

variable {l p q r : Value} {ls : List Value} (host : Host) (x : Value)

theorem ForLiteral.decided (h : ForLiteral l p) :
    ∃ id title facets id', p = .predicate id title facets (.rule id' (.literal l)) := by
  obtain ⟨c, s, s', h⟩ := h
  obtain ⟨isPrimitive, _, -, h⟩ := exists_of_exec_bind h
  cases isPrimitive with
  | false =>
    -- What is not primitive has been refused.
    obtain ⟨_, _, -, h⟩ := exists_of_exec_bind h
    obtain ⟨_, _, hthrow, -⟩ := exists_of_exec_bind h
    cases hthrow
  | true =>
    obtain ⟨_, _, -, h⟩ := exists_of_exec_bind h
    exact exec_product_ok h

theorem ForLiterals.decided (h : ForLiterals ls p) :
    ∃ id title facets id', p = .predicate id title facets (.rule id' (.literals ls)) := by
  obtain ⟨c, values, args, s, s₁, s', hread, h⟩ := h
  rw [literals_eq] at h
  obtain ⟨_, _, hread', h⟩ := exists_of_exec_bind h
  cases hread.symm.trans hread'
  obtain ⟨_, _, -, h⟩ := exists_of_exec_bind h
  obtain ⟨_, _, -, h⟩ := exists_of_exec_bind h
  exact exec_product_ok h

theorem ForLiteral.callWith (h : ForLiteral l p) :
    Ask.callWith host p [x] = .bool <$> matchesLiteral x l := by
  obtain ⟨id, title, facets, id', rfl⟩ := h.decided
  rw [Ask.callWith_predicate_rule, map_eq_pure_bind]
  rfl

theorem ForLiteral.accepts (h : ForLiteral l p) :
    (Ask.asked host p).accepts x = matchesLiteral x l := by
  simp only [Asked.accepts, Ask.asked, h.callWith, map_eq_pure_bind, bind_assoc, pure_bind, truth_bool,
    bind_pure]

theorem ForLiterals.callWith (h : ForLiterals ls p) :
    Ask.callWith host p [x] = .bool <$> ls.anyM fun l => (Look.among x l).read := by
  obtain ⟨id, title, facets, id', rfl⟩ := h.decided
  rw [Ask.callWith_predicate_rule, map_eq_pure_bind]
  rfl

theorem ForLiteral.isTold (h : ForLiteral l p) : (Ask.asked host p).IsTold := by
  obtain ⟨id, title, facets, id', rfl⟩ := h.decided
  exact Ask.isTold_of_not_isLeaf host rfl

/-- A match inside of a generator. -/
theorem yielded_among (l : Value) :
    yielded (Look.among x l).read = yielded (matchesLiteral x l) := by
  rw [Look.read, matchesLiteral, yielded_bind, yielded_bind, yielded_yielded]

/-- **A predicate for several literals does what the choice among the predicates for each does.**  The
choice takes the truth values of the comparisons inside of its generator. -/
theorem callWith_literals {members : List Value} (hq : ForLiterals ls q)
    (hmembers : List.Forall₂ ForLiteral ls members) (hr : Choice.any.Combines members r) :
    Ask.callWith host r [x] = yielded (Ask.callWith host q [x]) := by
  rw [hq.callWith, hr.callWith, hr.accepts, yielded_map]
  refine congrArg (Value.bool <$> ·) ?_
  clear hq hr
  induction hmembers with
  | nil => rfl
  | @cons l p ls members hp _ ih =>
    rw [List.anyM, yielded_bind, yielded_among, List.map_cons, Choice.dialogue_cons, Dialogue.run_ask]
    change (Ask.asked host p).yielded.accepts x >>= _ = _
    rw [hp.isTold host x, hp.accepts host x]
    refine bind_congr fun b => ?_
    cases b
    · exact ih
    · rfl

/-! ## Verdicts -/

section Verdicts

variable (n : Nat) {s : Session}

theorem ForLiteral.exec_callWith (h : ForLiteral l p) (hl : s.heap.IsPlainLiteral l) :
    exec (Ask.conduct host (n + 1)) (Ask.callWith host p [x]) s =
      .ok (.bool (s.heap.matchesPlainly x l)) s := by
  rw [h.callWith, exec_map, exec_matchesLiteral host n hl.comparesPlainly]
  rfl

theorem exec_among {l : Value} (hl : s.heap.IsPlainLiteral l) :
    exec (Ask.conduct host (n + 1)) (Look.among x l).read s =
      .ok (s.heap.matchesPlainly x l) s := by
  rw [Look.read, exec_bind, exec_yielded, exec_matchLiteral host n hl.comparesPlainly]
  rfl

theorem exec_anyM_among (hls : ∀ l ∈ ls, s.heap.IsPlainLiteral l) :
    exec (Ask.conduct host (n + 1)) (ls.anyM fun l => (Look.among x l).read) s =
      .ok (ls.any (s.heap.matchesPlainly x)) s := by
  induction ls with
  | nil => rfl
  | cons l ls ih =>
    obtain ⟨hl, hls⟩ := List.forall_mem_cons.mp hls
    rw [List.anyM, exec_bind, exec_among host x n hl, Ending.andThen_ok,
      List.any_cons]
    cases s.heap.matchesPlainly x l
    · exact ih hls
    · rfl

theorem ForLiterals.exec_callWith (h : ForLiterals ls p) (hls : ∀ l ∈ ls, s.heap.IsPlainLiteral l) :
    exec (Ask.conduct host (n + 1)) (Ask.callWith host p [x]) s =
      .ok (.bool (ls.any (s.heap.matchesPlainly x))) s := by
  rw [h.callWith, exec_map, exec_anyM_among host x n hls]
  rfl

/-- **Matching literals is an equivalence**, if they are compared in the built-in way.  A predicate for a
literal accepts that literal, predicates for two literals give the same verdict on each other's, and if
that is positive they give the same verdict on every value.  What is of another class is not accepted.
A predicate for several literals does what the choice among the predicates for each of them does, and its
verdict stays the same if they stand in another order or more than once, or if one that matches
another one of them is left out. -/
theorem literal_equivalence :
    let verdict (p x : Value) := exec (Ask.conduct host (n + 1)) (Ask.callWith host p [x]) s
    (∀ {a b p q}, s.heap.IsPlainLiteral a → s.heap.IsPlainLiteral b → ForLiteral a p → ForLiteral b q →
      verdict p a = .ok (.bool true) s ∧ verdict p b = verdict q a ∧
      (verdict p b = .ok (.bool true) s → ∀ x, verdict p x = verdict q x) ∧
      ∀ x, s.heap.classOf x ≠ s.heap.classOf a → verdict p x = .ok (.bool false) s) ∧
    (∀ {vs members q r}, ForLiterals vs q → List.Forall₂ ForLiteral vs members →
      Choice.any.Combines members r → ∀ x,
        Ask.callWith host r [x] = yielded (Ask.callWith host q [x]) ∧
        ∀ c s, (exec c (Ask.callWith host r [x]) s).result? =
          (exec c (Ask.callWith host q [x]) s).result?) ∧
    (∀ {vs ws q r}, (∀ v ∈ vs, s.heap.IsPlainLiteral v) → ForLiterals vs q → ForLiterals ws r →
      (∀ v, v ∈ vs ↔ v ∈ ws) → ∀ x, verdict q x = verdict r x) ∧
    (∀ {vs ws a b p q r}, (∀ v ∈ vs ++ a :: ws, s.heap.IsPlainLiteral v) → ForLiterals (vs ++ a :: ws) q →
      ForLiterals (vs ++ ws) r → b ∈ vs ++ ws → ForLiteral b p → verdict p a = .ok (.bool true) s →
      ∀ x, verdict q x = verdict r x) := by
  simp only
  have positive_iff {b : Bool} {s : Session} :
      (EStateM.Result.ok (Value.bool b) s : Ending Value) = .ok (.bool true) s ↔ b = true := by simp
  have hself {v : Value} {vs : List Value} (hv : v ∈ vs) (hplain : s.heap.IsPlainLiteral v) :
      ∃ w ∈ vs, s.heap.matchesPlainly v w = true := ⟨v, hv, hplain.matches_self⟩
  refine ⟨fun {a b p q} ha hb hp hq => ⟨?_, ?_, fun hpb x => ?_, fun x hx => ?_⟩,
    fun hq hmembers hr x => ⟨callWith_literals host x hq hmembers hr, fun c s => ?_⟩,
    fun {vs ws q r} hvs hq hr hmem x => ?_, fun {vs ws a b p q r} hall hq hr hb hp hpa x => ?_⟩
  · rw [hp.exec_callWith host a n ha, ha.matches_self]
  · rw [hp.exec_callWith host b n ha, hq.exec_callWith host a n hb, hb.matches_comm ha]
  · rw [hp.exec_callWith host b n ha, positive_iff] at hpb
    rw [hp.exec_callWith host x n ha, hq.exec_callWith host x n hb,
      ha.matches_congr hb ((ha.matches_comm hb).trans hpb)]
  · rw [hp.exec_callWith host x n ha, ha.not_matches hx]
  · rw [callWith_literals host x hq hmembers hr, exec_yielded, Ending.result?_yielded]
  · have hws : ∀ w ∈ ws, s.heap.IsPlainLiteral w := fun w hw => hvs w ((hmem w).mpr hw)
    rw [hq.exec_callWith host x n hvs, hr.exec_callWith host x n hws, Heap.any_matches_congr hvs hws
      (fun v hv => hself ((hmem v).mp hv) (hvs v hv)) fun w hw => hself ((hmem w).mpr hw) (hws w hw)]
  · -- What is left out matches the literal `b`, which is still there.
    have hsub : ∀ v ∈ vs ++ ws, v ∈ vs ++ a :: ws := fun v hv =>
      List.mem_append.mpr ((List.mem_append.mp hv).imp_right (List.mem_cons_of_mem a))
    have hrest : ∀ v ∈ vs ++ ws, s.heap.IsPlainLiteral v := fun v hv => hall v (hsub v hv)
    rw [hp.exec_callWith host a n (hrest b hb), positive_iff] at hpa
    have hcovers : ∀ v ∈ vs ++ a :: ws, ∃ w ∈ vs ++ ws, s.heap.matchesPlainly v w = true := by
      intro v hv
      rcases List.mem_append.mp hv with hv | hv
      · exact hself (List.mem_append_left ws hv) (hrest v (List.mem_append_left ws hv))
      rcases List.mem_cons.mp hv with rfl | hv
      · exact ⟨b, hb, hpa⟩
      · exact hself (List.mem_append_right vs hv) (hrest v (List.mem_append_right vs hv))
    rw [hq.exec_callWith host x n hall, hr.exec_callWith host x n hrest,
      Heap.any_matches_congr hall hrest hcovers fun w hw => hself (hsub w hw) (hrest w hw)]

end Verdicts

/-! ### The two zeros -/

/-- The two zeros among the doubles are different values that match each other, so that a predicate for
both of them may do without the second one. -/
theorem literal_equivalence_zeros :
    let a := Value.scalar (.kind .float) 5 (.float (Double.zero false))
    let b := Value.scalar (.kind .float) 6 (.float (Double.zero true))
    let s := Session.start
    ∃ p p' q r, s.heap.IsPlainLiteral a ∧ s.heap.IsPlainLiteral b ∧ a.identical b = false ∧
      ForLiteral a p ∧ ForLiteral b p' ∧ ForLiterals [a, b] q ∧ ForLiterals [a] r ∧
      exec (Ask.conduct .none 1) (Ask.callWith .none p [b]) s = .ok (.bool true) s ∧
      ∀ x, exec (Ask.conduct .none 1) (Ask.callWith .none p [x]) s =
          exec (Ask.conduct .none 1) (Ask.callWith .none p' [x]) s ∧
        exec (Ask.conduct .none 1) (Ask.callWith .none q [x]) s =
          exec (Ask.conduct .none 1) (Ask.callWith .none r [x]) s := by
  intro a b s
  have hplain {id : Nat} (hid : id ≠ 0) (bits : UInt64) :
      s.heap.IsPlainLiteral (.scalar (.kind .float) id (.float bits)) :=
    ⟨.inl rfl, by simp [Value.isIdentified, unidentified, hid], rfl⟩
  have hmade {m : Run Value} (hm : (exec (Ask.conduct .none 3) m s).result?.isSome = true) :
      ∃ p s', exec (Ask.conduct .none 3) m s = .ok p s' := by
    rcases h : exec (Ask.conduct .none 3) m s with ⟨p, s'⟩ | ⟨e, s'⟩
    · exact ⟨p, s', rfl⟩
    · rw [h] at hm
      cases hm
  have hread (id : Nat) (vs : List Value) : exec (Ask.conduct .none 3)
      (readLiterals (.tuple (.kind .tuple) id vs)) s = .ok (.tuple (.kind .tuple) id vs, vs) s := rfl
  have ha : s.heap.IsPlainLiteral a := hplain (by decide) _
  have hb : s.heap.IsPlainLiteral b := hplain (by decide) _
  obtain ⟨p, s₁, hp⟩ := hmade (m := literal a) (by decide +kernel)
  obtain ⟨p', s₂, hp'⟩ := hmade (m := literal b) (by decide +kernel)
  obtain ⟨q, s₃, hq⟩ := hmade (m := literals (.tuple (.kind .tuple) 7 [a, b])) (by decide +kernel)
  obtain ⟨r, s₄, hr⟩ := hmade (m := literals (.tuple (.kind .tuple) 8 [a])) (by decide +kernel)
  have hp : ForLiteral a p := ⟨_, _, _, hp⟩
  have hp' : ForLiteral b p' := ⟨_, _, _, hp'⟩
  have hq : ForLiterals ([a] ++ b :: []) q := ⟨_, _, _, _, _, _, hread 7 [a, b], hq⟩
  have hr : ForLiterals ([a] ++ []) r := ⟨_, _, _, _, _, _, hread 8 [a], hr⟩
  have hmatch : exec (Ask.conduct .none 1) (Ask.callWith .none p [b]) s = .ok (.bool true) s := by
    have hzeros : s.heap.matchesPlainly b a = true := by decide
    rw [hp.exec_callWith .none b 0 ha, hzeros]
  obtain ⟨hmatching, -, -, hdrop⟩ := literal_equivalence .none 0 (s := s)
  obtain ⟨-, -, hsame, -⟩ := hmatching ha hb hp hp'
  have hall : ∀ v ∈ [a] ++ b :: [], s.heap.IsPlainLiteral v :=
    List.forall_mem_cons.mpr ⟨ha, List.forall_mem_singleton.mpr hb⟩
  exact ⟨p, p', q, r, ha, hb, rfl, hp, hp', hq, hr, hmatch, fun x =>
    ⟨hsame hmatch x, hdrop hall hq hr List.mem_cons_self hp hmatch x⟩⟩

/-! ## Classes that compare in their own way

Where the comparison is up to a class, one literal may match another one without being matched by
it. -/

/-- A session with a class of texts whose comparison says whether the other text is not empty. -/
def lengthSession : Session :=
  let heap := Heap.start
  let c := Class.declared heap.declarations.size
  { Session.start with heap := { heap with
      declarations := heap.declarations.push
        ⟨.kept "K", [.kind .text, .kind .object], .kind .text, [.kind .text]⟩
      attributes := heap.attributes ++ [⟨.ofClass c, Method.equality.name, .builtin 5 .length⟩] } }

/-- Of two texts of a class that compares in its own way, one matches the other one only. -/
theorem literal_asymmetric :
    (exec (Ask.conduct .none 5) (do
        let c := Class.declared Heap.start.declarations.size
        let a := Value.scalar c 2 (.text "")
        let b := Value.scalar c 3 (.text "x")
        let p ← literal a
        let q ← literal b
        return (← truth (← call p [b]), ← truth (← call q [a]))) lengthSession).result? =
      some (false, true) := by
  decide +kernel

end Build

end ValueShape
