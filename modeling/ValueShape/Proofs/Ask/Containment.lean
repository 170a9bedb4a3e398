import ValueShape.Proofs.Ask.Inquiry
import ValueShape.Proofs.Ask.Plain

/-!
# Containment of failures

A predicate answers with a truth value, unless a failure escapes from it.  This module says which
failures escape, and from where.

* `Ask.questioning` is the course of asking a callable about a value, down to the leaves.
* `Moment.LetsThrough m e` says that the moment `m` may let the failure `e` escape: a leaf was asked,
  a value was read in a way that is not built in, or no recovery catches `e`.
* `Ask.callWith_contained` is the main result.  A predicate gives the truth value that the course
  ends with.  If it fails, then with the failure of the last moment, which is one of these; no moment
  before that failed, and what fails in a glance only makes a check negative.
-/

set_option autoImplicit false

namespace ValueShape

open Run (exec)

/-- A moment may let a failure escape: a leaf was asked, a value was read in a way that is not built
in, or no recovery catches the failure. -/
inductive Moment.LetsThrough : Moment (Query Value) → Failure → Prop
  | leaf {q : Query Value} {x : Value} {s : Session} {r : Ending Bool} {e : Failure}
      (hq : q.callable.isLeaf = true) : LetsThrough (.asked q x s r) e
  | look {l : Look} {s : Session} {r : Ending l.Answer} {e : Failure}
      (hl : ¬l.IsPlain s.heap) : LetsThrough (.looked l s r) e
  | glance {g : Glance} {s : Session} {r : Ending g.Answer} {e : Failure}
      (he : e.isOrdinary = false) : LetsThrough (.glanced g s r) e

namespace Ask

variable (host : Host)

/-- The course of asking a callable about a value, down to the leaves. -/
def questioning (c : Conduct) (p x : Value) (s : Session) : Course (Query Value) Bool :=
  (inquiry p x).course (answer host) c s

/-- The course of a check about a value, in which the callables of the check are asked. -/
def checking (c : Conduct) (check : Check Value Value) (x : Value) (s : Session) :
    Course (Query Value) Bool :=
  (check.queries.dialogue x).course (answer host) c s

theorem exec_callWith_predicate (c : Conduct) (id : Nat) (name : Name) (facets : Facets)
    (decider x : Value) (s : Session) :
    exec c (callWith host (.predicate id name facets decider) [x]) s =
      (questioning host c (.predicate id name facets decider) x s).ending.map .bool := by
  rw [questioning, Dialogue.course_ending, inquiry_run, accepts_predicate, callWith_predicate,
    Run.exec_bind]
  rfl

theorem exec_callWith_rule (c : Conduct) (id : Nat) (check : Check Value Value) (x : Value)
    (s : Session) :
    exec c (callWith host (.rule id check) [x]) s =
      (checking host c check x s).ending.map .bool := by
  unfold checking answer
  rw [Dialogue.course_ending, Check.dialogue_run, callWith_rule, Run.exec_bind]
  rfl

/-- A moment that fails may do so. -/
theorem letsThrough_of_escape (n : Nat) {p x : Value} {s : Session} {m : Moment (Query Value)}
    (hm : m ∈ (questioning host (conduct host (n + 1)) p x s).moments) {e : Failure}
    {s' : Session} (he : m.escape? = some (e, s')) : m.LetsThrough e := by
  have hfaithful := Dialogue.course_isFaithful _ _ _ _ m hm
  have hsort := (inquiry_asksOnly p x).course _ _ _ m hm
  cases m with
  | asked f y s₁ r => exact .leaf (hsort f rfl)
  | looked l s₁ r =>
    refine .look fun hl => ?_
    obtain ⟨a, s₂, ha⟩ := Look.exec_read host n hl
    rw [Moment.escape?, show r = .ok a s₂ from hfaithful.trans ha] at he
    exact absurd he (by simp [Ending.failure?])
  | glanced g s₁ r =>
    obtain ⟨-, he⟩ := Option.filter_eq_some_iff.mp he
    exact .glance (by simpa using he)

/-- A question fails as the leaf does, but for the end of an iteration that a generator lets out. -/
theorem exec_accepts_of_asked (c : Conduct) {p x : Value} {s : Session} {q : Query Value} {y : Value}
    {s₁ s₂ : Session} {e : Failure}
    (hm : .asked q y s₁ (.error e s₂) ∈ (questioning host c p x s).moments) :
    ∃ e', exec c ((asked host q.callable).accepts y) s₁ = .error e' s₂ ∧
      (e = e' ∨ e = e'.yielded) := by
  have hexec : exec c (answer host q y) s₁ = .error e s₂ :=
    (Dialogue.course_isFaithful _ _ _ _ _ hm).symm
  rcases hleaf : exec c ((asked host q.callable).accepts y) s₁ with ⟨b, s'⟩ | ⟨e', s'⟩
  · have hok : exec c (answer host q y) s₁ = .ok b s' := Asked.exec_accepts_apply hleaf
    rw [hexec] at hok
    cases hok
  · obtain ⟨e'', hfail, he''⟩ := Asked.exec_accepts_apply_error (m := q.manner) hleaf
    cases hexec.symm.trans hfail
    exact ⟨e', rfl, he''⟩

/-- **Containment of failures.**  A predicate gives a truth value, or it fails as the last moment of
its course does, and that was the first one to fail: a leaf that was asked, a reading of a value that
is not built in, or a failure that no recovery catches.  The failure of a leaf escapes as it is, unless
it is the end of an iteration and a generator has asked.  In the check of a predicate or of any part
of it, an ordinary failure of a glance is the end, and the verdict is negative. -/
theorem callWith_contained (n : Nat) (id : Nat) (name : Name) (facets : Facets)
    (decider x : Value) (s : Session) :
    let c := conduct host (n + 1)
    let p := Value.predicate id name facets decider
    let t := questioning host c p x s
    exec c (callWith host p [x]) s = t.ending.map .bool ∧
      t.ending.failure? = t.moments.getLast?.bind Moment.escape? ∧
      (∀ m ∈ t.moments.dropLast, m.escape? = none) ∧
      (∀ m ∈ t.moments, ∀ e s', m.escape? = some (e, s') → m.LetsThrough e) ∧
      (∀ q y s₁ e s₂, .asked q y s₁ (.error e s₂) ∈ t.moments →
        ∃ e', exec c ((asked host q.callable).accepts y) s₁ = .error e' s₂ ∧
          (e = e' ∨ e = e'.yielded)) ∧
      ∀ id' check y s', exec c (callWith host (.rule id' check) [y]) s' =
          (checking host c check y s').ending.map .bool ∧
        (checking host c check y s').EndsAtRefusal := by
  intro c p t
  have hlast : t.FailsLast := Dialogue.course_failsLast _ _ _ _
  refine ⟨exec_callWith_predicate host c id name facets decider x s, hlast.failure, hlast.before,
    ?_, fun q y s₁ e s₂ hm => exec_accepts_of_asked host c hm,
    fun id' check y s' => ⟨exec_callWith_rule host c id' check y s', ?_⟩⟩
  · intro m hm e s' he
    exact letsThrough_of_escape host n hm he
  · exact Check.course_refusal _ c check.queries y s'

/-! ## A value that refuses to be iterated over

It is not only leaves that failures escape from.  A reading may be carried out by a method of the
class of the value, and such a method may fail. -/

/-- A session with an empty list whose class has a method for iteration that fails. -/
def refusingSession : Session :=
  let heap := Heap.start
  let c := Class.declared heap.declarations.size
  { Session.start with heap := { heap with
      cells := heap.cells.push ⟨c, .list []⟩
      declarations := heap.declarations.push
        ⟨.kept "L", [.kind .list, .kind .object], .kind .list, [.kind .list]⟩
      attributes := heap.attributes ++ [⟨.ofClass c, Method.iteration.name,
        .function 2 (.kept "refuse") false (.raises ⟨.runtime, "field failed"⟩)⟩] } }

/-- The failure of that method escapes from a predicate about the elements, though no leaf has been
asked. -/
theorem array_fails_without_leaf :
    let c := conduct .none 2
    let p := Value.predicate 3 (.plain "") .none (.rule 4 (.array (.leaf .any)))
    let x := Value.ref Heap.start.cells.size
    (exec c (callWith .none p [x]) refusingSession).failure?.map (·.1) =
        some (.raised ⟨.runtime, "field failed"⟩) ∧
      ((questioning .none c p x refusingSession).moments.all fun m => m.callable?.isNone) = true :=
  ⟨rfl, rfl⟩

end Ask

end ValueShape
