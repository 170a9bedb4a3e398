import ValueShape.Proofs.Ask.Inquiry
import ValueShape.Proofs.Store.Register

/-!
# Computations that do not tell sessions apart

When two sessions differ, a computation may or may not notice.

* `Ending.Alike R r r'` says that two endings are the same, but for sessions that are related by `R`.
  `Run.Blind c R m` says that a computation ends alike in any two related sessions.
* `Dialogue.IsBlind` says of a dialogue that its readings and the answers to its questions are blind,
  as far as the dialogue can get to them.  `Dialogue.IsBlind.run` is the induction over its steps.
* `Run.blind_call` is the main result: a predicate is blind about a value if its inquiry is.  A
  product looks at nothing but the value.
-/

set_option autoImplicit false

namespace ValueShape

open Run (exec)

variable {α β κ : Type} {R : Session → Session → Prop}

/-- Two endings are the same, but for related sessions. -/
inductive Ending.Alike (R : Session → Session → Prop) : Ending α → Ending α → Prop
  | ok {a : α} {s s' : Session} (h : R s s') : Alike R (.ok a s) (.ok a s')
  | error {e : Failure} {s s' : Session} (h : R s s') : Alike R (.error e s) (.error e s')

theorem Ending.Alike.andThen {r r' : Ending α} (h : r.Alike R r')
    {k : α → Session → Ending β} (hk : ∀ a s s', r = .ok a s → r' = .ok a s' → R s s' →
      (k a s).Alike R (k a s')) : (r.andThen k).Alike R (r'.andThen k) := by
  cases h with
  | ok h => exact hk _ _ _ rfl rfl h
  | error h => exact .error h

theorem Ending.Alike.map {r r' : Ending α} (h : r.Alike R r') (f : α → β) :
    (r.map f).Alike R (r'.map f) := by
  cases h with
  | ok h => exact .ok h
  | error h => exact .error h

namespace Run

/-- A computation ends alike in related sessions. -/
def Blind (c : Conduct) (R : Session → Session → Prop) (m : Run α) : Prop :=
  ∀ s s', R s s' → (exec c m s).Alike R (exec c m s')

namespace Blind

variable {c : Conduct} {m : Run α}

theorem pure (a : α) : Blind c R (pure a : Run α) := fun _ _ h => .ok h

theorem bind (hm : Blind c R m) {k : α → Run β}
    (hk : ∀ a s s' t, R s s' → exec c m s = .ok a t → Blind c R (k a)) : Blind c R (m >>= k) := by
  intro s s' hs
  rw [exec_bind, exec_bind]
  exact (hm s s' hs).andThen fun a t t' ht _ hR => hk a s s' t hs ht t t' hR

/-- A failure that is noticed in one of the sessions is noticed in the other one as well. -/
theorem guarded (hm : Blind c R m) : Blind c R (guarded m) := by
  intro s s' hs
  rw [Run.guarded, exec_recovering, exec_recovering]
  -- The endings themselves matter here, and not how they have come about.
  have h := hm s s' hs
  generalize exec c m s = r at h ⊢
  generalize exec c m s' = r' at h ⊢
  cases h with
  | ok h => exact .ok h
  | @error e _ _ h =>
    cases he : e.isOrdinary with
    | true =>
      simp only [he, if_true]
      exact .ok h
    | false =>
      simp only [he, Bool.false_eq_true, if_false]
      exact .error h

theorem yielded (hm : Blind c R m) : Blind c R (yielded m) := by
  intro s s' hs
  rw [exec_yielded, exec_yielded]
  have h := hm s s' hs
  generalize exec c m s = r at h ⊢
  generalize exec c m s' = r' at h ⊢
  cases h with
  | ok h => exact .ok h
  | error h => exact .error h

end Blind

end Run

/-! ## Dialogues

Only what the dialogue can get to counts.  After a reading, the rest of it has to be blind for the
results that this reading can have. -/

namespace Dialogue

/-- The readings of a dialogue and the answers to its questions do not tell related sessions apart,
as far as the dialogue can get to them. -/
inductive IsBlind (c : Conduct) (R : Session → Session → Prop) (answer : κ → Value → Run Bool) :
    Dialogue κ α → Prop
  | done (a : α) : IsBlind c R answer (done a)
  | look {l : Look} {k : l.Answer → Dialogue κ α} (hl : Run.Blind c R l.read)
      (hk : ∀ a s s' t, R s s' → exec c l.read s = .ok a t → IsBlind c R answer (k a)) :
      IsBlind c R answer (look l k)
  | glance {g : Glance} {k : Option g.Answer → Dialogue κ α} (hg : Run.Blind c R g.read)
      (hk : ∀ a s s' t, R s s' → exec c (Run.guarded g.read) s = .ok a t →
        IsBlind c R answer (k a)) : IsBlind c R answer (glance g k)
  | ask {f : κ} {x : Value} {k : Bool → Dialogue κ α} (hf : Run.Blind c R (answer f x))
      (hk : ∀ b s s' t, R s s' → exec c (answer f x) s = .ok b t → IsBlind c R answer (k b)) :
      IsBlind c R answer (ask f x k)

/-- A dialogue whose steps are blind is blind. -/
theorem IsBlind.run {c : Conduct} {answer : κ → Value → Run Bool} {d : Dialogue κ α}
    (hd : d.IsBlind c R answer) : Run.Blind c R (d.run answer) := by
  induction hd with
  | done a => exact .pure a
  | look hl _ ih => exact hl.bind ih
  | glance hg _ ih => exact hg.guarded.bind ih
  | ask hf _ ih => exact hf.bind ih

theorem IsBlind.bind {c : Conduct} {answer : κ → Value → Run Bool} {d : Dialogue κ α}
    (hd : d.IsBlind c R answer) {k : α → Dialogue κ β} (hk : ∀ a, (k a).IsBlind c R answer) :
    (d.bind k).IsBlind c R answer := by
  induction hd with
  | done a => exact hk a
  | look hl _ ih => exact .look hl ih
  | glance hg _ ih => exact .glance hg ih
  | ask hf _ ih => exact .ask hf ih

end Dialogue

/-! ## Calls -/

/-- **A predicate looks at nothing but the value.**  If its inquiry about a value is blind, so is the
call. -/
theorem Run.blind_call (host : Host) (n : Nat) (hR : ∀ s s', R s s' → s.Sound ∧ s'.Sound)
    (id : Nat) (name : Name) (f : Facets) (decider x : Value)
    (hx : (Ask.inquiry (.predicate id name f decider) x).IsBlind (Ask.conduct host n) R
      (Ask.answer host)) :
    Run.Blind (Ask.conduct host (n + 1)) R (call (.predicate id name f decider) [x]) := by
  intro s s' hs
  obtain ⟨hs₁, hs₂⟩ := hR s s' hs
  rw [exec_call_of_sound host n hs₁, exec_call_of_sound host n hs₂, Ask.callWith_predicate]
  have haccepts := hx.run
  rw [Ask.inquiry_run, Ask.accepts_predicate] at haccepts
  exact haccepts.bind (fun b _ _ _ _ _ => .pure _) s s' hs

end ValueShape
