import ValueShape.Proofs.Conduct.View

/-!
# Containers that change

What becomes of a session when containers are changed that were there already.

* `Session.Overwritten places s s'` says that of the cells that there were in the one session, only those
  at some places may contain something else in the other one.  New cells may have come, and nothing is
  registered.
* `Session.Attempt` are the ways of somebody who would like to change a read-only mapping.
* A `Session.Mutation` is one change: either a cell at one of the places is overwritten, or somebody makes
  such an attempt.  `Session.Mutated` are any number of changes after each other.
* `Session.Mutation.overwritten` is what one change preserves, and `Session.Mutated.overwritten` what
  all of them do.

Comparing a read-only mapping, and uniting it with something, hands the mapping that it shows to the other
value.  What has a method of its own for that may change it, and so the other value is a mapping of the
built-in class here, or a read-only one.
-/

set_option autoImplicit false

namespace ValueShape

open Run

namespace Session

/-! ## What changes keep -/

/-- Of the cells that there were, only those at some places may contain something else. -/
structure Overwritten (places : List Nat) (s s' : Session) : Prop where
  /-- Identities are not handed out again. -/
  next : s.heap.next ≤ s'.heap.next
  /-- Nothing is registered. -/
  register : s'.register = s.register
  /-- The other cells are the same. -/
  kept (place : Nat) (cell : Cell) (hplace : place ∉ places) (hcell : s.heap.cells[place]? = some cell) :
    s'.heap.cells[place]? = some cell

namespace Overwritten

variable {places : List Nat} {s s' s'' : Session}

theorem refl (places : List Nat) (s : Session) : Overwritten places s s :=
  ⟨Nat.le_refl _, rfl, fun _ _ _ hcell => hcell⟩

theorem trans (h : Overwritten places s s') (h' : Overwritten places s' s'') :
    Overwritten places s s'' where
  next := Nat.le_trans h.next h'.next
  register := h'.register.trans h.register
  kept place cell hplace hcell := h'.kept place cell hplace (h.kept place cell hplace hcell)

theorem leadsTo (h : Overwritten places s s') : s.LeadsTo s' := by
  refine ⟨h.next, ?_⟩
  rw [h.register]
  exact (LeadsTo.refl s).register

theorem withNext {n : Nat} (hn : s.heap.next ≤ n) : Overwritten places s (s.withNext n) :=
  ⟨hn, rfl, fun _ _ _ hcell => hcell⟩

theorem withDict (places : List Nat) (s : Session) (es : List Entry) :
    Overwritten places s (s.withDict es) where
  next := Nat.le_refl _
  register := rfl
  kept _ _ _ hcell := getElem?_withDict hcell es

end Overwritten

/-- The session after a cell has been overwritten. -/
def overwrite (s : Session) (place : Nat) (contents : Contents) : Session :=
  { s with heap := s.heap.write (.ref place) contents }

theorem overwritten_overwrite {places : List Nat} {place : Nat} (s : Session)
    (hplace : place ∈ places) (contents : Contents) :
    Overwritten places s (s.overwrite place contents) where
  next := Nat.le_refl _
  register := rfl
  kept place' cell hplace' hcell := by
    have hne : place ≠ place' := fun heq => hplace' (heq ▸ hplace)
    simpa [overwrite, Heap.write, Array.getElem?_modify, hne] using hcell

/-- The mappings at other places go on to hold their fields. -/
theorem Keeping.overwrite {ds : List (Nat × List (Name × Value))} {s : Session}
    (hs : Keeping Untouched ds s) {place : Nat} (hplace : ∀ d ∈ ds, d.1 ≠ place) (contents : Contents) :
    Keeping Untouched ds (s.overwrite place contents) := by
  refine ⟨⟨hs.1.attributes, hs.1.namespaces, hs.1.classes, hs.1.positive, hs.1.before⟩, fun d hd => ?_⟩
  have hover : Overwritten [place] s _ := overwritten_overwrite s List.mem_cons_self contents
  exact hover.kept d.1 _ (List.mem_singleton.not.mpr (hplace d hd)) (hs.2 d hd)

/-! ## Changes

A caller has the containers that it made, and can overwrite them.  The mappings in metadata are
shown read-only, so with these there are only attempts. -/

/-- What somebody may try who would like to change a read-only mapping: to put something under a key that
has no method of its own for being an index, to call a method by which mappings are changed, to unite it
in place with anything, and to unite or compare it with another mapping, where comparing what is in the
two does nothing. -/
inductive Attempt (host : Host) (I : Session → Prop) (s : Session) (id place : Nat) : Run Value → Prop
  | put {key : Value} (hkey : ∀ method, s.heap.slot? .index key ≠ some (.assigned method)) (v : Value) :
      Attempt host I s id place (setItem (.view id (.ref place)) key v)
  | change {name : String} (hname : name ∈ changingNames) (args : List Value) :
      Attempt host I s id place (callNamed (.view id (.ref place)) name args)
  | merge (w : Value) : Attempt host I s id place (callNamed (.view id (.ref place)) "__ior__" [w])
  | unite {P : Value → Prop} (hquiet : CompareQuietly host I P)
      (hplace : HoldsOnly s.heap P (.ref place)) {w : Value} (hw : HoldsOnly s.heap P w) {name : String}
      (hname : name ∈ unionNames) : Attempt host I s id place (callNamed (.view id (.ref place)) name [w])
  | compare {P : Value → Prop} (hquiet : CompareQuietly host I P)
      (hplace : HoldsOnly s.heap P (.ref place)) {w : Value} (hw : HoldsOnly s.heap P w) :
      Attempt host I s id place (compare (.view id (.ref place)) w)

/-- One change: a cell at one of some places is overwritten, where an invariant goes on to hold, or
somebody tries to change a read-only mapping that is among the given values. -/
inductive Mutation (host : Host) (n : Nat) (I : Session → Prop) (places : List Nat) (args : List Value) :
    Session → Session → Prop
  | overwrite {s : Session} {place : Nat} (hplace : place ∈ places) (contents : Contents)
      (hs' : I (s.overwrite place contents)) :
      Mutation host n I places args s (s.overwrite place contents)
  | attempt {s : Session} {id place : Nat} (hview : Value.view id (.ref place) ∈ args) {m : Run Value}
      (hm : Attempt host I s id place m) :
      Mutation host n I places args s (exec (Ask.conduct host (n + 1)) m s).session

/-- Any number of changes after each other. -/
inductive Mutated (host : Host) (n : Nat) (I : Session → Prop) (places : List Nat) (args : List Value)
    (s : Session) : Session → Prop
  | refl : Mutated host n I places args s s
  | step {s' s'' : Session} (h : Mutated host n I places args s s')
      (hm : Mutation host n I places args s' s'') : Mutated host n I places args s s''

variable {host : Host} {n : Nat} {I : Session → Prop} {places : List Nat} {args : List Value}
  {s s' : Session}

/-- Attempts after each other, whatever each of them ends with. -/
theorem Mutated.attempts (h : Mutated host n I places args s s') {ms : List (Run Value)}
    (hms : ∀ t, Mutated host n I places args s t → ∀ m ∈ ms, ∃ id place,
      Value.view id (.ref place) ∈ args ∧ Attempt host I t id place m) :
    Mutated host n I places args s
      (ms.foldl (fun t m => (exec (Ask.conduct host (n + 1)) m t).session) s') := by
  induction ms generalizing s' with
  | nil => exact h
  | cons m ms ih =>
    obtain ⟨_, _, hview, hattempt⟩ := hms s' h m List.mem_cons_self
    exact ih (h.step (.attempt hview hattempt)) fun t ht m hm => hms t ht m (List.mem_cons_of_mem _ hm)

variable (hI : Enduring I) (hs : I s)
include hI hs

/-- **An attempt to change a read-only mapping is in vain**: at most, it makes a new mapping. -/
theorem Attempt.overwritten {id place : Nat} {m : Run Value} (h : Attempt host I s id place m) :
    let s' := (exec (Ask.conduct host (n + 1)) m s).session
    I s' ∧ Overwritten places s s' := by
  intro s'
  have hregular := hI.regular hs
  let s₁ := s.withNext (s.heap.next + 1)
  have hs₁ : I s₁ := hI.notes hs (.withNext (Nat.le_succ _))
  have hnext : Overwritten places s s₁ := .withNext (Nat.le_succ _)
  have hleaves (h : Leaves (Ask.conduct host (n + 1)) s m) : I s' ∧ Overwritten places s s' := by
    rw [show s' = s from h]
    exact ⟨hs, .refl places s⟩
  cases h with
  | put hkey v => exact hleaves (leaves_setItem_view hregular id place hkey v)
  | change hname args => exact hleaves (leaves_callNamed_changing hregular id place hname args)
  | merge w =>
    rw [show s' = s₁ from exec_callNamed_merging host n hregular id place w]
    exact ⟨hs₁, hnext⟩
  | unite hquiet hplace hw hname =>
    obtain heq | ⟨es, heq⟩ := exec_callNamed_uniting host n hquiet hI hs hname id hplace hw
    · rw [show s' = s₁ from heq]
      exact ⟨hs₁, hnext⟩
    · rw [show s' = s₁.withDict es from heq]
      exact ⟨hI.withDict hs₁ es, hnext.trans (.withDict places _ es)⟩
  | compare hquiet hplace hw =>
    exact hleaves (leaves_compare_of_holdsOnly host hquiet hregular hs (n + 1) (.view hplace) hw)

theorem Mutation.overwritten (h : Mutation host n I places args s s') :
    I s' ∧ Overwritten places s s' := by
  cases h with
  | overwrite hplace contents hs' => exact ⟨hs', overwritten_overwrite s hplace contents⟩
  | attempt _ hm => exact hm.overwritten hI hs

theorem Mutated.overwritten (h : Mutated host n I places args s s') : I s' ∧ Overwritten places s s' := by
  induction h with
  | refl => exact ⟨hs, .refl places s⟩
  | step _ hm ih =>
    obtain ⟨hs'', hover⟩ := hm.overwritten hI ih.1
    exact ⟨hs'', ih.2.trans hover⟩

end Session

end ValueShape
