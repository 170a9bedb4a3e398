import ValueShape.Proofs.Ask.Dialogue
import ValueShape.Proofs.Exec

/-!
# The course of a dialogue

What happens in the course of a dialogue, moment by moment.

* A `Moment` is a reading or a question, with the session that it found and with how it ended.  The
  failure that leaves it, if there is one, is its `Moment.escape?`.
* `Dialogue.course` are the moments of a dialogue and how it ends; `Dialogue.course_ending` says
  that this is what holding the dialogue gives.
* `Dialogue.course_failsLast` says that a dialogue fails as its last moment does, and that no moment
  before that fails.
* `Check.course_refusal` says that where a glance comes to nothing, the check is negative, and
  nothing else happens.
-/

set_option autoImplicit false

namespace ValueShape

open Run (exec)

/-! ## Moments

A moment keeps the session that it found, so what was done in it can be done again with the same
ending.  This is what it means that a course is faithful. -/

/-- What happened at one moment of a dialogue. -/
inductive Moment (κ : Type)
  /-- A reading. -/
  | looked (l : Look) (s : Session) (r : Ending l.Answer)
  /-- A reading that may come to nothing. -/
  | glanced (g : Glance) (s : Session) (r : Ending g.Answer)
  /-- A question. -/
  | asked (f : κ) (x : Value) (s : Session) (r : Ending Bool)

namespace Moment

variable {κ : Type}

/-- The failure that leaves a moment, and the session then. -/
def escape? : Moment κ → Option (Failure × Session)
  | looked _ _ r => r.failure?
  | glanced _ _ r => r.failure?.filter fun e => !e.1.isOrdinary
  | asked _ _ _ r => r.failure?

/-- The callable that is asked. -/
def callable? : Moment κ → Option κ
  | asked f _ _ _ => some f
  | _ => none

/-- Whether a moment is a question that was answered positively. -/
def isAccepted : Moment κ → Bool
  | asked _ _ _ (.ok b _) => b
  | _ => false

/-- Whether a moment is a glance that came to nothing. -/
def isRefusal : Moment κ → Bool
  | glanced _ _ (.error e _) => e.isOrdinary
  | _ => false

/-- How a moment ended is how the reading or the question ends in the session that it found. -/
def IsFaithful (answer : κ → Value → Run Bool) (c : Conduct) : Moment κ → Prop
  | looked l s r => r = exec c l.read s
  | glanced g s r => r = exec c g.read s
  | asked f x s r => r = exec c (answer f x) s

end Moment

/-- The moments of a dialogue, in order, and how it ends. -/
structure Course (κ α : Type) where
  /-- The moments. -/
  moments : List (Moment κ)
  /-- How it ends. -/
  ending : Ending α

/-- The questions among the moments of a course. -/
def Course.questions {κ α : Type} (t : Course κ α) : List (Moment κ) :=
  t.moments.filter fun m => m.callable?.isSome

/-- A course with a moment before it. -/
def Course.after {κ α : Type} (m : Moment κ) (t : Course κ α) : Course κ α :=
  ⟨m :: t.moments, t.ending⟩

namespace Dialogue

variable {κ α β : Type} (answer : κ → Value → Run Bool) (c : Conduct)

/-- The course of a dialogue under a conduct, from a session on. -/
def course : Dialogue κ α → Session → Course κ α
  | done a, s => ⟨[], .ok a s⟩
  | look l k, s =>
    match exec c l.read s with
    | .ok a s' => ((k a).course s').after (.looked l s (.ok a s'))
    | .error e s' => ⟨[.looked l s (.error e s')], .error e s'⟩
  | glance g k, s =>
    match exec c g.read s with
    | .ok a s' => ((k (some a)).course s').after (.glanced g s (.ok a s'))
    | .error e s' =>
      if e.isOrdinary then ((k none).course s').after (.glanced g s (.error e s'))
      else ⟨[.glanced g s (.error e s')], .error e s'⟩
  | ask f x k, s =>
    match exec c (answer f x) s with
    | .ok b s' => ((k b).course s').after (.asked f x s (.ok b s'))
    | .error e s' => ⟨[.asked f x s (.error e s')], .error e s'⟩

/-- **The course of a dialogue ends as the dialogue does.** -/
theorem course_ending (d : Dialogue κ α) (s : Session) :
    (d.course answer c s).ending = exec c (d.run answer) s := by
  induction d generalizing s with
  | done a => rfl
  | look l k ih =>
    rw [course, run_look, Run.exec_bind]
    rcases exec c l.read s with ⟨a, s'⟩ | ⟨e, s'⟩
    · exact ih a s'
    · rfl
  | glance g k ih =>
    rw [course, run_glance, Run.exec_bind, Run.guarded, Run.exec_recovering]
    rcases exec c g.read s with ⟨a, s'⟩ | ⟨e, s'⟩
    · exact ih (some a) s'
    · by_cases he : e.isOrdinary = true
      · simp only [he, if_true]
        exact ih none s'
      · simp only [he]
        rfl
  | ask f x k ih =>
    rw [course, run_ask, Run.exec_bind]
    rcases exec c (answer f x) s with ⟨b, s'⟩ | ⟨e, s'⟩
    · exact ih b s'
    · rfl

end Dialogue

namespace Dialogue

variable {κ α : Type} (answer : κ → Value → Run Bool) (c : Conduct)

/-- Every moment of a course is faithful. -/
theorem course_isFaithful (d : Dialogue κ α) (s : Session) :
    ∀ m ∈ (d.course answer c s).moments, m.IsFaithful answer c := by
  induction d generalizing s with
  | done a => exact fun m hm => absurd hm List.not_mem_nil
  | look l k ih =>
    rw [course]
    rcases h : exec c l.read s with ⟨a, s'⟩ | ⟨e, s'⟩
    · exact List.forall_mem_cons.mpr ⟨h.symm, ih a s'⟩
    · exact List.forall_mem_singleton.mpr h.symm
  | glance g k ih =>
    rw [course]
    rcases h : exec c g.read s with ⟨a, s'⟩ | ⟨e, s'⟩
    · exact List.forall_mem_cons.mpr ⟨h.symm, ih (some a) s'⟩
    · by_cases he : e.isOrdinary = true
      · simp only [he, if_true]
        exact List.forall_mem_cons.mpr ⟨h.symm, ih none s'⟩
      · simp only [he]
        exact List.forall_mem_singleton.mpr h.symm
  | ask f x k ih =>
    rw [course]
    rcases h : exec c (answer f x) s with ⟨b, s'⟩ | ⟨e, s'⟩
    · exact List.forall_mem_cons.mpr ⟨h.symm, ih b s'⟩
    · exact List.forall_mem_singleton.mpr h.symm

end Dialogue

/-! ## Failures

A dialogue never goes on after a failure: a glance turns the failures that it notices into results.
So the moment that fails is the last one. -/

namespace Course

variable {κ α : Type}

/-- A course fails as its last moment does, and no moment before that fails. -/
structure FailsLast (t : Course κ α) : Prop where
  /-- The failure at the end is that of the last moment. -/
  failure : t.ending.failure? = t.moments.getLast?.bind Moment.escape?
  /-- No moment before the last one fails. -/
  before : ∀ m ∈ t.moments.dropLast, m.escape? = none

theorem FailsLast.after {t : Course κ α} (h : t.FailsLast) {m : Moment κ}
    (hm : m.escape? = none) : (t.after m).FailsLast := by
  obtain ⟨ms, r⟩ := t
  cases ms with
  | nil => exact ⟨h.failure.trans hm.symm, fun n hn => absurd hn List.not_mem_nil⟩
  | cons m' ms =>
    refine ⟨h.failure.trans (by rw [Course.after, List.getLast?_cons_cons]), fun n hn => ?_⟩
    rw [Course.after, List.dropLast_cons_cons, List.mem_cons] at hn
    rcases hn with rfl | hn
    · exact hm
    · exact h.before n hn

theorem failsLast_done (a : α) (s : Session) : (⟨[], .ok a s⟩ : Course κ α).FailsLast :=
  ⟨rfl, fun _ hn => absurd hn List.not_mem_nil⟩

theorem failsLast_single {m : Moment κ} {e : Failure} {s : Session}
    (hm : m.escape? = some (e, s)) : (⟨[m], .error e s⟩ : Course κ α).FailsLast :=
  ⟨hm.symm, fun _ hn => absurd hn List.not_mem_nil⟩

end Course

namespace Dialogue

variable {κ α β : Type} (answer : κ → Value → Run Bool) (c : Conduct)

/-- **A failure ends a dialogue**, and nothing else makes it fail. -/
theorem course_failsLast (d : Dialogue κ α) (s : Session) :
    (d.course answer c s).FailsLast := by
  induction d generalizing s with
  | done a => exact Course.failsLast_done a s
  | look l k ih =>
    rw [course]
    rcases exec c l.read s with ⟨a, s'⟩ | ⟨e, s'⟩
    · exact (ih a s').after rfl
    · exact Course.failsLast_single rfl
  | glance g k ih =>
    rw [course]
    rcases exec c g.read s with ⟨a, s'⟩ | ⟨e, s'⟩
    · exact (ih (some a) s').after rfl
    · by_cases he : e.isOrdinary = true
      · simp only [he, if_true]
        exact (ih none s').after (by simp [Moment.escape?, Ending.failure?, he])
      · simp only [he]
        exact Course.failsLast_single (by simp [Moment.escape?, Ending.failure?, he])
  | ask f x k ih =>
    rw [course]
    rcases exec c (answer f x) s with ⟨b, s'⟩ | ⟨e, s'⟩
    · exact (ih b s').after rfl
    · exact Course.failsLast_single rfl

end Dialogue

/-! ## Refusals

That a dialogue heeds refusals is shown along its definition, one lemma for each recursion.  What
follows for the course is then the same for all checks. -/

/-- Where a glance comes to nothing, a course ends with a negative verdict. -/
def Course.EndsAtRefusal {κ : Type} (t : Course κ Bool) : Prop :=
  ∀ ms m ms', t.moments = ms ++ m :: ms' → m.isRefusal = true →
    ms' = [] ∧ ∃ s, t.ending = .ok false s

theorem Course.EndsAtRefusal.after {κ : Type} {t : Course κ Bool} (h : t.EndsAtRefusal)
    {m : Moment κ} (hm : m.isRefusal = false) : (t.after m).EndsAtRefusal := by
  intro ms n ms' heq hn
  rcases ms with _ | ⟨m', ms⟩
  · obtain ⟨rfl, -⟩ := List.cons.inj heq
    rw [hm] at hn
    exact absurd hn Bool.false_ne_true
  · exact h ms n ms' (List.cons.inj heq).2 hn

theorem Course.endsAtRefusal_single {κ : Type} {m : Moment κ} {r : Ending Bool}
    (h : m.isRefusal = true → ∃ s, r = .ok false s) : (⟨[m], r⟩ : Course κ Bool).EndsAtRefusal := by
  intro ms n ms' heq hn
  rcases ms with _ | ⟨m', ms⟩
  · obtain ⟨rfl, rfl⟩ := List.cons.inj heq
    exact ⟨rfl, h hn⟩
  · exact absurd (List.cons.inj heq).2.symm (by simp)

namespace Dialogue

variable {κ : Type}

/-- A dialogue that asks only callables of a certain sort, and that is negative as soon as a glance
comes to nothing. -/
inductive Heeds (sort : κ → Prop) : Dialogue κ Bool → Prop
  | done (b : Bool) : Heeds sort (done b)
  | look {l : Look} {k : l.Answer → Dialogue κ Bool} (h : ∀ a, Heeds sort (k a)) :
      Heeds sort (look l k)
  | glance {g : Glance} {k : Option g.Answer → Dialogue κ Bool} (h : ∀ a, Heeds sort (k (some a)))
      (none : k none = .done false) : Heeds sort (glance g k)
  | ask {f : κ} {x : Value} {k : Bool → Dialogue κ Bool} (hf : sort f)
      (h : ∀ b, Heeds sort (k b)) : Heeds sort (ask f x k)

variable {sort : κ → Prop}

theorem Heeds.bind {d : Dialogue κ Bool} (hd : d.Heeds sort) {k : Bool → Dialogue κ Bool}
    (hk : ∀ b, (k b).Heeds sort) (hf : k false = .done false) : (d >>= k).Heeds sort := by
  change (d.bind k).Heeds sort
  induction hd with
  | done b => exact hk b
  | look _ ih => exact .look ih
  | @glance g k' _ hnone ih =>
    refine .glance ih ?_
    rw [hnone]
    exact hf
  | ask hsort _ ih => exact .ask hsort ih

theorem course_endsAtRefusal (answer : κ → Value → Run Bool) (c : Conduct) {d : Dialogue κ Bool}
    (hd : d.Heeds sort) (s : Session) : (d.course answer c s).EndsAtRefusal := by
  induction hd generalizing s with
  | done b =>
    intro ms m ms' heq
    exact absurd heq (by simp [course])
  | @look l k h ih =>
    rw [course]
    rcases exec c l.read s with ⟨a, s'⟩ | ⟨e, s'⟩
    · exact (ih a s').after rfl
    · exact Course.endsAtRefusal_single nofun
  | @glance g k h hnone ih =>
    rw [course]
    rcases exec c g.read s with ⟨a, s'⟩ | ⟨e, s'⟩
    · exact (ih a s').after rfl
    · by_cases he : e.isOrdinary = true
      · simp only [he, if_true, hnone, course, Course.after]
        exact Course.endsAtRefusal_single fun _ => ⟨s', rfl⟩
      · simp only [he]
        exact Course.endsAtRefusal_single fun h => absurd h he
  | @ask f x k _ h ih =>
    rw [course]
    rcases exec c (answer f x) s with ⟨b, s'⟩ | ⟨e, s'⟩
    · exact (ih b s').after rfl
    · exact Course.endsAtRefusal_single nofun

end Dialogue

namespace Check

open Dialogue

variable {κ : Type}

variable {sort : κ → Prop}

theorem ite_heeds (b : Bool) {d e : Dialogue κ Bool} (hd : d.Heeds sort) (he : e.Heeds sort) :
    (if b then d else e).Heeds sort := by
  cases b
  · exact he
  · exact hd

theorem elementsDialogue_heeds {f : κ} (hf : sort f) (fuel : Nat) (c : Cursor) :
    (elementsDialogue f fuel c).Heeds sort := by
  induction fuel generalizing c with
  | zero => exact .look nofun
  | succ fuel ih =>
    refine .look fun next => ?_
    rcases next with _ | ⟨v, c⟩
    · exact .done true
    · exact .ask hf fun b => ite_heeds b (ih c) (.done false)

theorem valuesDialogue_heeds {f : κ} (hf : sort f) (vs : List Value) :
    (valuesDialogue f vs).Heeds sort := by
  induction vs with
  | nil => exact .done true
  | cons v vs ih => exact .ask hf fun b => ite_heeds b ih (.done false)

theorem headDialogue_heeds {fs : List κ} (hfs : ∀ f ∈ fs, sort f) (c : Cursor) :
    (headDialogue fs c).Heeds sort := by
  induction fs generalizing c with
  | nil => exact .done true
  | cons f fs ih =>
    obtain ⟨hf, hfs⟩ := List.forall_mem_cons.mp hfs
    refine .look fun next => ?_
    rcases next with _ | ⟨v, c⟩
    · exact .done true
    · exact .ask hf fun b => ite_heeds b (ih hfs c) (.done false)

theorem argumentsDialogue_heeds {fs : List κ} (hfs : ∀ f ∈ fs, sort f) (x : Value)
    (length : Nat) (i : Nat) : (argumentsDialogue x length fs i).Heeds sort := by
  induction fs generalizing i with
  | nil => exact .done true
  | cons f fs ih =>
    obtain ⟨hf, hfs⟩ := List.forall_mem_cons.mp hfs
    rw [argumentsDialogue]
    split
    · exact .look fun v => .ask hf fun b => ite_heeds b (ih hfs (i + 1)) (.done false)
    · exact .ask hf fun b => ite_heeds b (ih hfs (i + 1)) (.done false)

theorem restDialogue_heeds {rest : Option κ} (hrest : ∀ f ∈ rest.toList, sort f) (x : Value)
    (n : Nat) : (restDialogue rest x n).Heeds sort := by
  rcases rest with _ | f
  · exact .done true
  · exact .look fun v => .ask (hrest f (by simp)) .done

theorem positionsDialogue_heeds {fs : List κ} {rest : Option κ}
    (h : ∀ f ∈ fs ++ rest.toList, sort f) (x : Value) :
    (positionsDialogue fs rest x).Heeds sort := by
  obtain ⟨hfs, hrest⟩ := List.forall_mem_append.mp h
  exact .look fun n => (argumentsDialogue_heeds hfs x n 0).bind
    (fun b => ite_heeds b (restDialogue_heeds hrest x fs.length) (.done false)) rfl

theorem fieldsDialogue_heeds {fields : List (Name × κ)} (hfs : ∀ f ∈ fields.map (·.2), sort f)
    (x : Value) : (fieldsDialogue x fields).Heeds sort := by
  induction fields with
  | nil => exact .done true
  | cons e fields ih =>
    obtain ⟨hf, hfs⟩ := List.forall_mem_cons.mp hfs
    exact .glance (fun v => .ask hf fun b => ite_heeds b (ih hfs) (.done false)) rfl

theorem keysDialogue_heeds (allowed : List (Key Value)) (x : Value) :
    (keysDialogue allowed x : Dialogue κ Bool).Heeds sort := by
  refine .glance (fun keys => ?_) rfl
  change (if allowed.length < keys.length then done false else _).Heeds sort
  split
  · exact .done false
  · exact .glance (fun b => .done b) rfl

theorem anyDialogue_heeds {fs : List κ} (hfs : ∀ f ∈ fs, sort f) (x : Value) :
    (anyDialogue x fs).Heeds sort := by
  induction fs with
  | nil => exact .done false
  | cons f fs ih =>
    obtain ⟨hf, hfs⟩ := List.forall_mem_cons.mp hfs
    exact .ask hf fun b => ite_heeds b (.done true) (ih hfs)

theorem allDialogue_heeds {fs : List κ} (hfs : ∀ f ∈ fs, sort f) (x : Value) :
    (allDialogue x fs).Heeds sort := by
  induction fs with
  | nil => exact .done true
  | cons f fs ih =>
    obtain ⟨hf, hfs⟩ := List.forall_mem_cons.mp hfs
    exact .ask hf fun b => ite_heeds b (ih hfs) (.done false)

theorem literalsDialogue_heeds (x : Value) (ls : List Value) :
    (literalsDialogue x ls : Dialogue κ Bool).Heeds sort := by
  induction ls with
  | nil => exact .done false
  | cons l ls ih => exact .look fun b => ite_heeds b (.done true) ih

/-- The dialogue of a check asks the callables of the check only, and it is negative as soon as a
glance comes to nothing. -/
theorem dialogue_heeds {c : Check κ Value} (h : ∀ f ∈ c.callables, sort f) (x : Value) :
    (c.dialogue x).Heeds sort := by
  cases c with
  | array f =>
    have hf : sort f := h f (by simp [callables])
    exact .look fun b => ite_heeds b
      (.look fun c => .look fun n => elementsDialogue_heeds hf n c) (.done false)
  | record f =>
    have hf : sort f := h f (by simp [callables])
    exact .look fun b => ite_heeds b (.glance (valuesDialogue_heeds hf) rfl) (.done false)
  | tuple fs rest =>
    obtain ⟨hfs, hrest⟩ := List.forall_mem_append.mp h
    refine .look fun b => ite_heeds b (.look fun n => ite_heeds _ (.done false) ?_) (.done false)
    exact .look fun c => (headDialogue_heeds hfs c).bind
      (fun b => ite_heeds b (restDialogue_heeds hrest x fs.length) (.done false)) rfl
  | parameters fs required rest =>
    refine .look fun b => ite_heeds b (.look fun n => ?_) (.done false)
    by_cases hn : n < required
    · simp only [hn, if_true]
      exact .done false
    · simp only [hn, if_false]
      refine ite_heeds _ (.look fun n => ?_) (positionsDialogue_heeds h x)
      by_cases hn : fs.length < n
      · simp only [hn, if_true]
        exact .done false
      · simp only [hn, if_false]
        exact positionsDialogue_heeds h x
  | object fields allowed =>
    refine .look fun b => ite_heeds b ?_ (.done false)
    rcases allowed with _ | allowed
    · exact fieldsDialogue_heeds h x
    · exact (keysDialogue_heeds allowed x).bind
        (fun b => ite_heeds b (fieldsDialogue_heeds h x) (.done false)) rfl
  | oneOf fs => exact anyDialogue_heeds h x
  | allOf fs => exact allDialogue_heeds h x
  | literal l => exact .look .done
  | literals ls => exact literalsDialogue_heeds x ls
  | instanceOf cls => exact .look .done
  | optional f => exact ite_heeds _ (.done true) (.ask (h f (by simp [callables])) .done)

/-- **Where a glance comes to nothing, the check is negative**, and nothing else happens. -/
theorem course_refusal (answer : κ → Value → Run Bool) (conduct : Conduct) (c : Check κ Value)
    (x : Value) (s : Session) : ((c.dialogue x).course answer conduct s).EndsAtRefusal :=
  course_endsAtRefusal answer conduct (dialogue_heeds (fun _ hf => hf) x) s

end Check

end ValueShape
