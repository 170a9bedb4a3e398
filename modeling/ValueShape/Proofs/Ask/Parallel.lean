import Mathlib.Data.List.Forall2
import ValueShape.Proofs.Ask.Blind
import ValueShape.Proofs.Conduct.Iterate

/-!
# Computations side by side

Two computations about different values may go the same way, step by step, and come to related
results.

* `Run.Parallel c R V m m'` says that `m` and `m'` end in the same way from any two sessions that are
  related by `R`: both with results that are related by `V`, or both with the same failure.
* `Run.Parallel.bind` is the rule for what goes on with the results, and `Run.Parallel.of_settles` the
  one for computations that settle, each where its own invariant holds.
* The lemmas `…Dialogue_parallel` are about the parts of the dialogues of checks: what is read of the
  two values is related, and the callables agree about what is related.
-/

set_option autoImplicit false

namespace ValueShape

open Run (exec Settles)

variable {α β γ δ κ : Type} {R : Session → Session → Prop}

/-! ## Endings -/

/-- Two endings are parallel: their results are related, or they have the same failure.  Their
sessions are related in any case. -/
inductive Ending.Parallel (R : Session → Session → Prop) (V : α → β → Prop) :
    Ending α → Ending β → Prop
  | ok {a : α} {b : β} {s s' : Session} (hab : V a b) (hs : R s s') :
      Parallel R V (.ok a s) (.ok b s')
  | error {e : Failure} {s s' : Session} (hs : R s s') : Parallel R V (.error e s) (.error e s')

namespace Ending.Parallel

variable {V : α → β → Prop} {r : Ending α} {r' : Ending β}

theorem mono {R' : Session → Session → Prop} {V' : α → β → Prop} (h : r.Parallel R V r')
    (hR : ∀ s s', R s s' → R' s s') (hV : ∀ a b, V a b → V' a b) : r.Parallel R' V' r' := by
  cases h with
  | ok hab hs => exact .ok (hV _ _ hab) (hR _ _ hs)
  | error hs => exact .error (hR _ _ hs)

theorem andThen {W : γ → δ → Prop} (h : r.Parallel R V r') {k : α → Session → Ending γ}
    {k' : β → Session → Ending δ}
    (hk : ∀ a b s s', V a b → R s s' → (k a s).Parallel R W (k' b s')) :
    (r.andThen k).Parallel R W (r'.andThen k') := by
  cases h with
  | ok hab hs => exact hk _ _ _ _ hab hs
  | error hs => exact .error hs

theorem alike {r r' : Ending α} (h : r.Parallel R Eq r') : r.Alike R r' := by
  cases h with
  | ok hab hs => exact hab ▸ .ok hs
  | error hs => exact .error hs

theorem of_alike {r r' : Ending α} (h : r.Alike R r') : r.Parallel R Eq r' := by
  cases h with
  | ok hs => exact .ok rfl hs
  | error hs => exact .error hs

end Ending.Parallel

/-! ## Computations

Here two computations are about different values, and each session has an invariant of its own.  A
computation that is blind is parallel to itself. -/

/-- One invariant holds in the first session, and another one in the second session. -/
def Session.Both (I I' : Session → Prop) (s s' : Session) : Prop := I s ∧ I' s'

/-- Two computations end in the same way from related sessions. -/
def Run.Parallel (c : Conduct) (R : Session → Session → Prop) (V : α → β → Prop) (m : Run α)
    (m' : Run β) : Prop :=
  ∀ s s', R s s' → (exec c m s).Parallel R V (exec c m' s')

namespace Run.Parallel

variable {c : Conduct} {V : α → β → Prop} {m : Run α} {m' : Run β}

theorem pure {a : α} {b : β} (h : V a b) : Parallel c R V (pure a : Run α) (pure b : Run β) :=
  fun _ _ hs => .ok h hs

theorem bind {W : γ → δ → Prop} (h : Parallel c R V m m') {k : α → Run γ} {k' : β → Run δ}
    (hk : ∀ a b, V a b → Parallel c R W (k a) (k' b)) : Parallel c R W (m >>= k) (m' >>= k') := by
  intro s s' hs
  rw [exec_bind, exec_bind]
  exact (h s s' hs).andThen fun a b t t' hab ht => hk a b hab t t' ht

theorem mono {V' : α → β → Prop} (h : Parallel c R V m m') (hV : ∀ a b, V a b → V' a b) :
    Parallel c R V' m m' :=
  fun s s' hs => (h s s' hs).mono (fun _ _ h => h) hV

theorem of_blind {m : Run α} (h : Blind c R m) : Parallel c R Eq m m :=
  fun s s' hs => .of_alike (h s s' hs)

/-- An ordinary failure of both computations is noticed. -/
theorem guarded (h : Parallel c R V m m') :
    Parallel c R (Option.Rel V) (guarded m) (guarded m') := by
  intro s s' hs
  rw [Run.guarded, Run.guarded, exec_recovering, exec_recovering]
  have h := h s s' hs
  generalize exec c m s = r at h ⊢
  generalize exec c m' s' = r' at h ⊢
  cases h with
  | ok hab hs => exact .ok (.some hab) hs
  | @error e _ _ hs =>
    cases he : e.isOrdinary with
    | true =>
      simp only [he, if_true]
      exact .ok .none hs
    | false =>
      simp only [he, Bool.false_eq_true, if_false]
      exact .error hs

/-- What a generator makes of a failure does not depend on anything else. -/
theorem yielded (h : Parallel c R V m m') : Parallel c R V (Run.yielded m) (Run.yielded m') := by
  intro s s' hs
  rw [exec_yielded, exec_yielded]
  have h := h s s' hs
  generalize exec c m s = r at h ⊢
  generalize exec c m' s' = r' at h ⊢
  cases h with
  | ok hab hs => exact .ok hab hs
  | error hs => exact .error hs

/-- The same truth value is told true from false in the same way. -/
theorem truth {m m' : Run Value} (h : Parallel c R (fun v w => ∃ b, v = .bool b ∧ w = .bool b) m m') :
    Parallel c R Eq (do Run.truth (← m)) (do Run.truth (← m')) := by
  refine h.bind fun v w hvw => ?_
  obtain ⟨b, rfl, rfl⟩ := hvw
  rw [truth_bool]
  exact .pure rfl

/-- Two computations settle, each where its own invariant holds. -/
theorem of_settles {I I' : Session → Prop} {P : α → Prop} {P' : β → Prop}
    (h : ∀ s, I s → Settles c I s m fun a _ => P a)
    (h' : ∀ s, I' s → Settles c I' s m' fun b _ => P' b) :
    Parallel c (Session.Both I I') (fun a b => P a ∧ P' b) m m' := by
  rintro s s' ⟨hs, hs'⟩
  obtain ⟨a, t, ha, -, ht, hP⟩ := h s hs
  obtain ⟨b, t', hb, -, ht', hP'⟩ := h' s' hs'
  rw [ha, hb]
  exact .ok ⟨hP, hP'⟩ ⟨ht, ht'⟩

/-- Two computations have the same result and change nothing. -/
theorem of_exec {I I' : Session → Prop} {m m' : Run α} {a : α}
    (h : ∀ s, I s → exec c m s = .ok a s) (h' : ∀ s, I' s → exec c m' s = .ok a s) :
    Parallel c (Session.Both I I') Eq m m' := by
  rintro s s' hs
  rw [h s hs.1, h' s' hs.2]
  exact .ok rfl hs

end Run.Parallel

/-! ## Dialogues -/

namespace Check

open Dialogue Run

variable {answer : κ → Value → Run Bool} {c : Conduct} {x y : Value} {f : κ} {fs : List κ}

/-- A callable answers the same about two values. -/
def Agrees (answer : κ → Value → Run Bool) (c : Conduct) (R : Session → Session → Prop) (f : κ)
    (x y : Value) : Prop :=
  Parallel c R Eq (answer f x) (answer f y)

theorem goOn_parallel {d d' : Dialogue κ Bool} (hf : Agrees answer c R f x y)
    (hd : Parallel c R Eq (d.run answer) (d'.run answer)) :
    Parallel c R Eq ((ask f x fun b => if b then d else done false).run answer)
      ((ask f y fun b => if b then d' else done false).run answer) := by
  rw [run_ask, run_ask]
  refine hf.bind fun b b' hb => ?_
  subst hb
  cases b with
  | true => exact hd
  | false => exact .pure rfl

theorem anyDialogue_parallel (hfs : ∀ f ∈ fs, Agrees answer c R f x y) :
    Parallel c R Eq ((anyDialogue x fs).run answer) ((anyDialogue y fs).run answer) := by
  induction fs with
  | nil => exact .pure rfl
  | cons f fs ih =>
    obtain ⟨hf, hfs⟩ := List.forall_mem_cons.mp hfs
    rw [anyDialogue, anyDialogue, run_ask, run_ask]
    refine hf.bind fun b b' hb => ?_
    subst hb
    cases b with
    | true => exact .pure rfl
    | false => exact ih hfs

theorem allDialogue_parallel (hfs : ∀ f ∈ fs, Agrees answer c R f x y) :
    Parallel c R Eq ((allDialogue x fs).run answer) ((allDialogue y fs).run answer) := by
  induction fs with
  | nil => exact .pure rfl
  | cons f fs ih =>
    obtain ⟨hf, hfs⟩ := List.forall_mem_cons.mp hfs
    exact goOn_parallel hf (ih hfs)

theorem literalsDialogue_parallel {ls : List Value}
    (hls : ∀ l ∈ ls, Parallel c R Eq (Look.among x l).read (Look.among y l).read) :
    Parallel c R Eq ((literalsDialogue x ls : Dialogue κ Bool).run answer)
      ((literalsDialogue y ls : Dialogue κ Bool).run answer) := by
  induction ls with
  | nil => exact .pure rfl
  | cons l ls ih =>
    obtain ⟨hl, hls⟩ := List.forall_mem_cons.mp hls
    rw [literalsDialogue, literalsDialogue, run_look, run_look]
    refine hl.bind fun b b' hb => ?_
    subst hb
    cases b with
    | true => exact .pure rfl
    | false => exact ih hls

theorem valuesDialogue_parallel {vs ws : List Value}
    (hf : List.Forall₂ (Agrees answer c R f) vs ws) :
    Parallel c R Eq ((valuesDialogue f vs).run answer) ((valuesDialogue f ws).run answer) := by
  induction hf with
  | nil => exact .pure rfl
  | cons hf _ ih => exact goOn_parallel hf ih

/-- Fields are read alike, and their callables agree about what has been read. -/
theorem fieldsDialogue_parallel {fields : List (Name × κ)}
    (hfields : ∀ field ∈ fields, ∃ V, Parallel c R V (Glance.get x field.1).read
      (Glance.get y field.1).read ∧ ∀ v w, V v w → Agrees answer c R field.2 v w) :
    Parallel c R Eq ((fieldsDialogue x fields).run answer) ((fieldsDialogue y fields).run answer) := by
  induction fields with
  | nil => exact .pure rfl
  | cons field fields ih =>
    obtain ⟨⟨V, hget, hask⟩, hfields⟩ := List.forall_mem_cons.mp hfields
    rw [fieldsDialogue, fieldsDialogue, run_glance, run_glance]
    refine hget.guarded.bind fun v w hvw => ?_
    cases hvw with
    | none => exact .pure rfl
    | some hvw => exact goOn_parallel (hask _ _ hvw) (ih hfields)

section Invariants

variable {I I' : Session → Prop} {xs ys : List Value} {cur cur' : Cursor}

/-- A dialogue about two values goes on if what is found out about both of them at first is true. -/
theorem whether_parallel {m m' : Run Bool} {b : Bool} (hm : ∀ s, I s → exec c m s = .ok b s)
    (hm' : ∀ s, I' s → exec c m' s = .ok b s) {d d' : Dialogue κ Bool}
    (hd : b = true → Parallel c (Session.Both I I') Eq (d.run answer) (d'.run answer)) :
    Parallel c (Session.Both I I') Eq (m >>= fun b => (if b then d else done false).run answer)
      (m' >>= fun b => (if b then d' else done false).run answer) := by
  rintro s s' ⟨hs, hs'⟩
  rw [exec_bind, exec_bind, hm s hs, hm' s' hs', Ending.andThen_ok, Ending.andThen_ok]
  cases b with
  | true => exact hd rfl s s' ⟨hs, hs'⟩
  | false => exact .ok rfl ⟨hs, hs'⟩

/-- The keys of two mappings are the same, and whether they are allowed is found out alike. -/
theorem keysDialogue_parallel {allowed : List (Key Value)} {keys : List Value}
    (hx : ∀ s, I s → Settles c I s (readParts .keys x) fun ws _ => ws = keys)
    (hy : ∀ s, I' s → Settles c I' s (readParts .keys y) fun ws _ => ws = keys)
    (hwithin : Blind c (Session.Both I I') (Glance.within allowed keys).read) :
    Parallel c (Session.Both I I') Eq ((keysDialogue allowed x : Dialogue κ Bool).run answer)
      ((keysDialogue allowed y : Dialogue κ Bool).run answer) := by
  rw [keysDialogue, keysDialogue, run_glance, run_glance]
  refine (Parallel.of_settles hx hy).guarded.bind fun ks ks' hks => ?_
  cases hks with
  | none => exact .pure rfl
  | some hks =>
    obtain ⟨rfl, rfl⟩ := hks
    dsimp only
    split
    · exact .pure rfl
    · rw [run_glance]
      refine (Parallel.of_blind hwithin.guarded).bind fun b b' hb => ?_
      subst hb
      exact .pure rfl

/-- Two iterations are gone through side by side. -/
theorem elementsDialogue_parallel
    (hf : List.Forall₂ (Agrees answer c (Session.Both I I') f) xs ys)
    (hcur : Run.Iterates c I Eq xs cur) (hcur' : Run.Iterates c I' Eq ys cur') {fuel fuel' : Nat}
    (hfuel : xs.length < fuel) (hfuel' : ys.length < fuel') :
    Parallel c (Session.Both I I') Eq ((elementsDialogue f fuel cur).run answer)
      ((elementsDialogue f fuel' cur').run answer) := by
  induction hf generalizing cur cur' fuel fuel' with
  | nil =>
    obtain ⟨fuel, rfl⟩ := Nat.exists_eq_add_one_of_ne_zero (Nat.ne_of_gt hfuel)
    obtain ⟨fuel', rfl⟩ := Nat.exists_eq_add_one_of_ne_zero (Nat.ne_of_gt hfuel')
    rw [elementsDialogue, elementsDialogue, run_look, run_look]
    refine (Parallel.of_settles hcur hcur').bind fun r r' hr => ?_
    obtain ⟨rfl, rfl⟩ := hr
    exact .pure rfl
  | cons hf _ ih =>
    obtain ⟨fuel, rfl⟩ := Nat.exists_eq_add_one_of_ne_zero (Nat.ne_of_gt (Nat.zero_lt_of_lt hfuel))
    obtain ⟨fuel', rfl⟩ := Nat.exists_eq_add_one_of_ne_zero (Nat.ne_of_gt (Nat.zero_lt_of_lt hfuel'))
    rw [elementsDialogue, elementsDialogue, run_look, run_look]
    refine (Parallel.of_settles hcur hcur').bind fun r r' hr => ?_
    obtain ⟨⟨v, cur₁, rfl, rfl, hcur₁⟩, w, cur₁', rfl, rfl, hcur₁'⟩ := hr
    exact goOn_parallel hf
      (ih hcur₁ hcur₁' (Nat.lt_of_succ_lt_succ hfuel) (Nat.lt_of_succ_lt_succ hfuel'))

/-- Two iterations are gone through position by position. -/
theorem headDialogue_parallel (hlength : xs.length = ys.length)
    (hfs : ∀ f ∈ fs, List.Forall₂ (Agrees answer c (Session.Both I I') f) xs ys)
    (hcur : Run.Iterates c I Eq xs cur) (hcur' : Run.Iterates c I' Eq ys cur') :
    Parallel c (Session.Both I I') Eq ((headDialogue fs cur).run answer)
      ((headDialogue fs cur').run answer) := by
  induction fs generalizing xs ys cur cur' with
  | nil => exact .pure rfl
  | cons f fs ih =>
    obtain ⟨hf, hfs⟩ := List.forall_mem_cons.mp hfs
    rw [headDialogue, headDialogue, run_look, run_look]
    cases hf with
    | nil =>
      refine (Parallel.of_settles hcur hcur').bind fun r r' hr => ?_
      obtain ⟨rfl, rfl⟩ := hr
      exact .pure rfl
    | cons hf _ =>
      refine (Parallel.of_settles hcur hcur').bind fun r r' hr => ?_
      obtain ⟨⟨v, cur₁, rfl, rfl, hcur₁⟩, w, cur₁', rfl, rfl, hcur₁'⟩ := hr
      exact goOn_parallel hf (ih (Nat.succ.inj hlength)
        (fun g hg => (List.forall₂_cons.mp (hfs g hg)).2) hcur₁ hcur₁')

/-- Two argument lists of the same length are read by their indices. -/
theorem argumentsDialogue_parallel (hlength : ys.length = xs.length)
    (hx : ∀ i v, xs[i]? = some v → ∀ s, I s →
      Settles c I s (Look.item x i).read fun w _ => w = v)
    (hy : ∀ i v, ys[i]? = some v → ∀ s, I' s →
      Settles c I' s (Look.item y i).read fun w _ => w = v)
    (habsent : ∀ f ∈ fs, Agrees answer c (Session.Both I I') f .undefined .undefined)
    (hfs : ∀ f ∈ fs, ∀ (i : Nat) v w, xs[i]? = some v → ys[i]? = some w →
      Agrees answer c (Session.Both I I') f v w) (i : Nat) :
    Parallel c (Session.Both I I') Eq ((argumentsDialogue x xs.length fs i).run answer)
      ((argumentsDialogue y ys.length fs i).run answer) := by
  induction fs generalizing i with
  | nil => exact .pure rfl
  | cons f fs ih =>
    obtain ⟨habsent, habsents⟩ := List.forall_mem_cons.mp habsent
    obtain ⟨hf, hfs⟩ := List.forall_mem_cons.mp hfs
    have hrest := ih habsents hfs (i + 1)
    rw [argumentsDialogue, argumentsDialogue]
    by_cases hi : i < xs.length
    · have hi' : i < ys.length := hlength ▸ hi
      simp only [hi, hi', if_true, run_look]
      refine (Parallel.of_settles (hx i _ (List.getElem?_eq_getElem hi))
        (hy i _ (List.getElem?_eq_getElem hi'))).bind fun v w hvw => ?_
      obtain ⟨rfl, rfl⟩ := hvw
      exact goOn_parallel (hf i _ _ (List.getElem?_eq_getElem hi) (List.getElem?_eq_getElem hi')) hrest
    · have hi' : ¬i < ys.length := hlength ▸ hi
      simp only [hi, hi', if_false]
      exact goOn_parallel habsent hrest

end Invariants

end Check

end ValueShape
