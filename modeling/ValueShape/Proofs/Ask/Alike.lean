import Mathlib.Data.List.Forall2
import ValueShape.Proofs.Ask.Blind

/-!
# Courses that go alike

Two dialogues, or one dialogue in two sessions, may differ in their readings and still come to the
same questions and to the same verdict.

* `Course.Alike R E t t'` says that the questions of two courses are the same one by one, but for
  arguments that are related by `E`, and that both courses end alike.  `R` relates the sessions.
  `Course.AlikeBy F R E t t'` is the same for callables that are related by `F`.
* `Course.RefusesAtOnce t` says that a course ends with a negative verdict, and that nothing is asked
  in it.
* The lemmas `alike_…` and `refusesAtOnce_…` go through dialogues step by step.  A reading may be made
  in both of the dialogues, or in one of them only.
-/

set_option autoImplicit false

namespace ValueShape

open Run (exec)

variable {κ ι α : Type} {F : κ → ι → Prop} {R : Session → Session → Prop}
  {E : Session → Session → Value → Value → Prop}

/-! ## Courses

What is compared of two courses is their questions, and how they end.  Readings are left out: it is
by these that the dialogues may differ. -/

/-- Two questions are alike: related callables are asked about related values in related sessions, and
the answers are alike. -/
inductive Moment.AlikeBy (F : κ → ι → Prop) (R : Session → Session → Prop)
    (E : Session → Session → Value → Value → Prop) : Moment κ → Moment ι → Prop
  | asked {f : κ} {g : ι} {x x' : Value} {s s' : Session} {r r' : Ending Bool} (hf : F f g)
      (hx : E s s' x x') (hs : R s s') (hr : r.Alike R r') :
      AlikeBy F R E (.asked f x s r) (.asked g x' s' r')

/-- Two courses ask related callables alike, one question after the other, and end alike. -/
structure Course.AlikeBy (F : κ → ι → Prop) (R : Session → Session → Prop)
    (E : Session → Session → Value → Value → Prop) (t : Course κ α) (t' : Course ι α) : Prop where
  /-- The questions are alike. -/
  questions : List.Forall₂ (Moment.AlikeBy F R E) t.questions t'.questions
  /-- The endings are alike. -/
  ending : t.ending.Alike R t'.ending

/-- Two courses ask the same callables alike, one question after the other, and end alike. -/
abbrev Course.Alike (R : Session → Session → Prop) (E : Session → Session → Value → Value → Prop)
    (t t' : Course κ α) : Prop :=
  t.AlikeBy Eq R E t'

/-- A course ends with a negative verdict, and nothing is asked in it. -/
structure Course.RefusesAtOnce (t : Course κ Bool) : Prop where
  /-- There are no questions. -/
  questions : t.questions = []
  /-- The verdict is negative. -/
  ending : ∃ s, t.ending = .ok false s

/-! ## Dialogues

A reading may be made in one dialogue only, so there is a lemma for each side, and another one for a
reading that is made in both of them. -/

namespace Dialogue

variable {answer : κ → Value → Run Bool} {answer' : ι → Value → Run Bool} {c : Conduct}
  {s s' s₁ s₁' : Session}

section Alike

variable {d : Dialogue κ α} {d' : Dialogue ι α}

theorem alike_done (a : α) (hs : R s s') :
    ((done a : Dialogue κ α).course answer c s).AlikeBy F R E ((done a).course answer' c s') :=
  ⟨.nil, .ok hs⟩

/-- A reading that is only made in the first dialogue. -/
theorem alike_look_left {l : Look} {k : l.Answer → Dialogue κ α} {a : l.Answer}
    (ha : exec c l.read s = .ok a s₁)
    (h : ((k a).course answer c s₁).AlikeBy F R E (d'.course answer' c s')) :
    ((look l k).course answer c s).AlikeBy F R E (d'.course answer' c s') := by
  simp only [course, ha]
  exact ⟨h.questions, h.ending⟩

/-- A reading that is only made in the second dialogue. -/
theorem alike_look_right {l : Look} {k : l.Answer → Dialogue ι α} {a : l.Answer}
    (ha : exec c l.read s' = .ok a s₁')
    (h : (d.course answer c s).AlikeBy F R E ((k a).course answer' c s₁')) :
    (d.course answer c s).AlikeBy F R E ((look l k).course answer' c s') := by
  simp only [course, ha]
  exact ⟨h.questions, h.ending⟩

theorem alike_glance_left {g : Glance} {k : Option g.Answer → Dialogue κ α} {a : g.Answer}
    (ha : exec c g.read s = .ok a s₁)
    (h : ((k (some a)).course answer c s₁).AlikeBy F R E (d'.course answer' c s')) :
    ((glance g k).course answer c s).AlikeBy F R E (d'.course answer' c s') := by
  simp only [course, ha]
  exact ⟨h.questions, h.ending⟩

theorem alike_glance_right {g : Glance} {k : Option g.Answer → Dialogue ι α} {a : g.Answer}
    (ha : exec c g.read s' = .ok a s₁')
    (h : (d.course answer c s).AlikeBy F R E ((k (some a)).course answer' c s₁')) :
    (d.course answer c s).AlikeBy F R E ((glance g k).course answer' c s') := by
  simp only [course, ha]
  exact ⟨h.questions, h.ending⟩

/-- A glance that is made in both dialogues. -/
theorem alike_glance {g : Glance} {k : Option g.Answer → Dialogue κ α}
    {k' : Option g.Answer → Dialogue ι α}
    (hg : (exec c g.read s).Alike R (exec c g.read s'))
    (hk : ∀ a s₁ s₁', R s₁ s₁' → exec c (Run.guarded g.read) s = .ok a s₁ →
      ((k a).course answer c s₁).AlikeBy F R E ((k' a).course answer' c s₁')) :
    ((glance g k).course answer c s).AlikeBy F R E ((glance g k').course answer' c s') := by
  rw [Run.guarded, Run.exec_recovering] at hk
  rw [course, course]
  generalize exec c g.read s = r at hg hk ⊢
  generalize exec c g.read s' = r' at hg ⊢
  cases hg with
  | ok h =>
    have h := hk _ _ _ h rfl
    exact ⟨h.questions, h.ending⟩
  | @error e _ _ h =>
    cases he : e.isOrdinary with
    | true =>
      have h := hk none _ _ h (if_pos he)
      simp only [he, if_true]
      exact ⟨h.questions, h.ending⟩
    | false =>
      simp only [he, Bool.false_eq_true, if_false]
      exact ⟨.nil, .error h⟩

/-- A question that is asked in both dialogues. -/
theorem alike_ask {f : κ} {g : ι} {x x' : Value} {k : Bool → Dialogue κ α} {k' : Bool → Dialogue ι α}
    (hg : F f g) (hx : E s s' x x') (hs : R s s')
    (hf : (exec c (answer f x) s).Alike R (exec c (answer' g x') s'))
    (hk : ∀ b s₁ s₁', R s₁ s₁' → exec c (answer f x) s = .ok b s₁ →
      ((k b).course answer c s₁).AlikeBy F R E ((k' b).course answer' c s₁')) :
    ((ask f x k).course answer c s).AlikeBy F R E ((ask g x' k').course answer' c s') := by
  rw [course, course]
  generalize exec c (answer f x) s = r at hf hk ⊢
  generalize exec c (answer' g x') s' = r' at hf ⊢
  cases hf with
  | ok h =>
    have hrest := hk _ _ _ h rfl
    exact ⟨.cons (.asked hg hx hs (.ok h)) hrest.questions, hrest.ending⟩
  | error h => exact ⟨.cons (.asked hg hx hs (.error h)) .nil, .error h⟩

/-- A dialogue that goes on if a question is answered positively. -/
theorem alike_ask_goOn {f : κ} {g : ι} {x x' : Value} {d : Dialogue κ Bool} {d' : Dialogue ι Bool}
    (hg : F f g) (hx : E s s' x x') (hs : R s s')
    (hf : (exec c (answer f x) s).Alike R (exec c (answer' g x') s'))
    (hd : ∀ s₁ s₁', R s₁ s₁' → exec c (answer f x) s = .ok true s₁ →
      (d.course answer c s₁).AlikeBy F R E (d'.course answer' c s₁')) :
    ((ask f x fun b => if b then d else done false).course answer c s).AlikeBy F R E
      ((ask g x' fun b => if b then d' else done false).course answer' c s') := by
  refine alike_ask hg hx hs hf fun b s₁ s₁' hs₁ hb => ?_
  cases b
  · exact alike_done false hs₁
  · exact hd s₁ s₁' hs₁ hb

end Alike

/-! ### Refusals -/

theorem refusesAtOnce_done : ((done false : Dialogue κ Bool).course answer c s).RefusesAtOnce :=
  ⟨rfl, s, rfl⟩

theorem refusesAtOnce_look {l : Look} {k : l.Answer → Dialogue κ Bool} {a : l.Answer}
    (ha : exec c l.read s = .ok a s₁) (h : ((k a).course answer c s₁).RefusesAtOnce) :
    ((look l k).course answer c s).RefusesAtOnce := by
  simp only [course, ha]
  exact ⟨h.questions, h.ending⟩

theorem refusesAtOnce_glance {g : Glance} {k : Option g.Answer → Dialogue κ Bool} {a : g.Answer}
    (ha : exec c g.read s = .ok a s₁) (h : ((k (some a)).course answer c s₁).RefusesAtOnce) :
    ((glance g k).course answer c s).RefusesAtOnce := by
  simp only [course, ha]
  exact ⟨h.questions, h.ending⟩

/-- A glance that comes to nothing. -/
theorem refusesAtOnce_glance_error {g : Glance} {k : Option g.Answer → Dialogue κ Bool} {e : Failure}
    (ha : exec c g.read s = .error e s₁) (he : e.isOrdinary = true)
    (h : ((k none).course answer c s₁).RefusesAtOnce) :
    ((glance g k).course answer c s).RefusesAtOnce := by
  simp only [course, ha, he, if_true]
  exact ⟨h.questions, h.ending⟩

end Dialogue

end ValueShape
