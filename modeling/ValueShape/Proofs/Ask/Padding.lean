import ValueShape.Proofs.Ask.Alike
import ValueShape.Proofs.Ask.Product

/-!
# Argument lists and padded sequences

A check about an argument list reads the elements by their indices and takes the absent value for those
that are missing.  A check about a tuple goes through the elements one after the other.  Both come to
the same if the missing elements are filled in.

* `padded n items` are the elements with the absent value in all further places up to `n`.
* `Padded R n items x y` says that `x` has the elements in the first session and `y` the padded ones
  in the second session, as long as the sessions are related by `R`.
* `Check.course_parameters` is the main result: the course of a check about an argument list is like
  that of the check about a padded tuple, unless there are too few arguments or too many.  The elements
  of the tuple are asked about by a generator, so this is for callables that do not end an iteration.
-/

set_option autoImplicit false

namespace ValueShape

open Run

/-! ## Padding -/

/-- Elements, with the absent value in all further places up to `n`. -/
def padded (n : Nat) (items : List Value) : List Value :=
  items ++ List.replicate (n - items.length) .undefined

theorem length_padded (n : Nat) (items : List Value) :
    (padded n items).length = max n items.length := by
  rw [padded, List.length_append, List.length_replicate]
  omega

theorem getElem?_padded {n : Nat} {items : List Value} {i : Nat} (hi : i < (padded n items).length) :
    (padded n items)[i]? = some ((items[i]?).getD .undefined) := by
  by_cases hlt : i < items.length
  · rw [padded, List.getElem?_append_left hlt, List.getElem?_eq_getElem hlt, Option.getD_some]
  · rw [length_padded] at hi
    have hle := Nat.le_of_not_lt hlt
    have hmissing : i - items.length < n - items.length := by omega
    rw [padded, List.getElem?_append_right hle, List.getElem?_eq_none hle, Option.getD_none,
      List.getElem?_replicate_of_lt hmissing]

theorem mem_padded {n : Nat} {items : List Value} {i : Nat} (hi : i < (padded n items).length) :
    (items[i]?).getD .undefined ∈ padded n items :=
  List.mem_of_getElem? (getElem?_padded hi)

/-- Nothing is left of padded elements after `n` that was not left before. -/
theorem drop_padded (n : Nat) (items : List Value) : (padded n items).drop n = items.drop n := by
  rw [padded, List.drop_append, List.drop_replicate, Nat.sub_self, List.replicate_zero,
    List.append_nil]

/-! ## Iteration -/

/-- The iteration over a list or a tuple, before it yields the element at an index. -/
def Run.arrayCursorFrom (items : List Value) (i : Nat) : Value → Cursor
  | .tuple .. => .rest (items.drop i)
  | x => .elements x i

/-- The next element of a list or a tuple. -/
theorem Value.IsPlainArray.exec_next (c : Conduct) {s : Session} {items : List Value} {x v : Value}
    (h : x.IsPlainArray s.heap items) {i : Nat} (hi : items[i]? = some v) :
    ∃ w n, s.heap.next ≤ n ∧ exec c (next (arrayCursorFrom items i x)) s =
      .ok (some (w, arrayCursorFrom items (i + 1) x)) (s.withNext n) ∧ w.Shows v := by
  cases h.iteration with
  | tuple =>
    have hdrop : items.drop i = v :: items.drop (i + 1) := by
      obtain ⟨hlt, rfl⟩ := List.getElem?_eq_some_iff.mp hi
      exact List.drop_eq_getElem_cons hlt
    rw [arrayCursorFrom, hdrop]
    exact exec_next_rest c s v _
  | list contents =>
    obtain ⟨r, n, hn, hr, hmatch⟩ := exec_next_elements c s _ i
    rw [h.iteration.contained?, Option.getD_some, hi] at hmatch
    obtain ⟨w, rfl, hshows⟩ := hmatch
    exact ⟨w, n, hn, hr, hshows⟩

/-! ## Two sequences

Reading an element may give it a new identity, and the two checks do not read the same elements.  So
values and sessions are compared up to that. -/

/-- Two values are the same argument, each in its session: they are the same value, up to the identity
of a number or a text, or sequences of the same elements. -/
def SameArgument (s s' : Session) (w w' : Value) : Prop :=
  ∃ a : Argument, a.Is s.heap w ∧ a.Is s'.heap w'

/-- A list or a tuple with the given elements in the first session, and one with the padded elements in
the second session, as long as these are related.  They are whatever identities are handed out. -/
structure Padded (R : Session → Session → Prop) (n : Nat) (items : List Value) (x y : Value) : Prop where
  /-- The one in the first session. -/
  left {s s' : Session} (hs : R s s') : x.IsPlainArray s.heap items
  /-- The one in the second session. -/
  right {s s' : Session} (hs : R s s') : y.IsPlainArray s'.heap (padded n items)
  /-- Identities are handed out. -/
  withNext {s s' : Session} (hs : R s s') {m m' : Nat} (hm : s.heap.next ≤ m)
    (hm' : s'.heap.next ≤ m') : R (s.withNext m) (s'.withNext m')

namespace Padded

variable {R : Session → Session → Prop} {n : Nat} {items : List Value} {x y : Value}

theorem withNext_left (h : Padded R n items x y) {s s' : Session} (hs : R s s') {m : Nat}
    (hm : s.heap.next ≤ m) : R (s.withNext m) s' := h.withNext hs hm (Nat.le_refl _)

theorem withNext_right (h : Padded R n items x y) {s s' : Session} (hs : R s s') {m' : Nat}
    (hm' : s'.heap.next ≤ m') : R s (s'.withNext m') := h.withNext hs (Nat.le_refl _) hm'

end Padded

namespace Check

open Dialogue

variable {κ : Type} {asked : κ → Asked} {c : Conduct} {R : Session → Session → Prop} {n : Nat}
  {items : List Value} {x y : Value} {s s' : Session}

/-- A callable answers alike about elements, whatever identities they have. -/
def AnswersAlike (answer : κ → Value → Run Bool) (c : Conduct) (R : Session → Session → Prop)
    (items : List Value) (f : κ) : Prop :=
  ∀ v ∈ items, ∀ w w', w.Shows v → w'.Shows v → ∀ s s', R s s' →
    (exec c (answer f w) s).Alike R (exec c (answer f w') s')

/-- A callable answers alike about what remains after the first `n` elements, and taking the remainders
leaves the sessions related. -/
def RestAnswersAlike (answer : κ → Value → Run Bool) (c : Conduct) (R : Session → Session → Prop)
    (n : Nat) (x y : Value) (f : κ) : Prop :=
  ∀ s s' w w' s₁ s₁', R s s' → exec c (Look.remainder x n).read s = .ok w s₁ →
    exec c (Look.remainder y n).read s' = .ok w' s₁' →
    R s₁ s₁' ∧ (exec c (answer f w) s₁).Alike R (exec c (answer f w') s₁')

/-- A callable that is asked about elements does not fail as the end of an iteration does. -/
def EndsNoIteration (asked : κ → Asked) (c : Conduct) (R : Session → Session → Prop)
    (items : List Value) (f : κ) : Prop :=
  ∀ v ∈ items, ∀ w, w.Shows v → ∀ s s' e t, R s s' → exec c (asked f w) s' = .error e t →
    e.isOfEnd = false

/-- So a generator that asks it lets through what it says. -/
theorem EndsNoIteration.exec_accepts {f : κ} (h : EndsNoIteration asked c R items f) {v w : Value}
    (hv : v ∈ items) (hw : w.Shows v) (hs : R s s') :
    exec c ((asked f).yielded.accepts w) s' = exec c ((asked f).accepts w) s' := by
  rw [Asked.accepts, Asked.accepts, exec_bind, exec_bind, Asked.yielded, exec_yielded]
  rcases hask : exec c (asked f w) s' with ⟨a, t⟩ | ⟨e, t⟩
  · rfl
  · rw [Ending.yielded_error, Failure.yielded_of_not (h v hv w hw s s' e t hs hask)]

/-- Two queries are for the same callable. -/
def SameCallable (q q' : Query κ) : Prop := q.callable = q'.callable

section Positions

variable (hpadded : Padded R n items x y)
include hpadded

/-- Arguments from an index on are asked about as the elements of a padded iteration are, whatever
comes after them. -/
theorem argumentsDialogue_alike {fs : List κ} {i : Nat}
    (hlength : i + fs.length ≤ (padded n items).length)
    (hfs : ∀ f ∈ fs, AnswersAlike (fun f => (asked f).accepts) c R (padded n items) f)
    (hends : ∀ f ∈ fs, EndsNoIteration asked c R (padded n items) f) {k k' : Dialogue (Query κ) Bool}
    (hk : ∀ s s', R s s' → (k.course (Query.accepts asked) c s).AlikeBy SameCallable R SameArgument
      (k'.course (Query.accepts asked) c s')) (hs : R s s') :
    (((argumentsDialogue x items.length (fs.map (⟨.plain, ·⟩)) i).andThen k).course
        (Query.accepts asked) c s).AlikeBy SameCallable R SameArgument
      (((headDialogue (fs.map (⟨.yielding, ·⟩)) (arrayCursorFrom (padded n items) i y)).andThen
        k').course (Query.accepts asked) c s') := by
  induction fs generalizing i s s' with
  | nil => exact hk s s' hs
  | cons f fs ih =>
    obtain ⟨hf, hfs⟩ := List.forall_mem_cons.mp hfs
    obtain ⟨hend, hends⟩ := List.forall_mem_cons.mp hends
    rw [List.length_cons] at hlength
    have hi : i < (padded n items).length := by omega
    obtain ⟨w', m', hm', hw', hshows'⟩ := (hpadded.right hs).exec_next c (getElem?_padded hi)
    -- The element at this index is asked about, or the absent value.
    have goOn {s : Session} {w : Value} (hs : R s s') (hshows : w.Shows ((items[i]?).getD .undefined)) :
        (((ask (⟨.plain, f⟩ : Query κ) w fun b => if b then
              argumentsDialogue x items.length (fs.map (⟨.plain, ·⟩)) (i + 1) else done false).andThen
            k).course (Query.accepts asked) c s).AlikeBy SameCallable R SameArgument
          (((headDialogue ((f :: fs).map (⟨.yielding, ·⟩)) (arrayCursorFrom (padded n items) i
            y)).andThen k').course (Query.accepts asked) c s') := by
      have hs₁ := hpadded.withNext_right hs hm'
      refine alike_look_right hw' ?_
      change (((ask (⟨.plain, f⟩ : Query κ) w _).andThen k).course (Query.accepts asked) c s).AlikeBy
        SameCallable R SameArgument (((ask ⟨.yielding, f⟩ w' _).andThen k').course _ c _)
      rw [andThen_ask, andThen_ask]
      refine alike_ask_goOn rfl ⟨.value _, hshows, hshows'⟩ hs₁ ?_ fun s₂ s₂' hs₂ _ =>
        ih (by omega) hfs hends hs₂
      change (exec c ((asked f).accepts w) s).Alike R (exec c ((asked f).yielded.accepts w') _)
      rw [hend.exec_accepts (mem_padded hi) hshows' hs₁]
      exact hf _ (mem_padded hi) w w' hshows hshows' _ _ hs₁
    rw [List.map_cons, argumentsDialogue]
    by_cases hlt : i < items.length
    · have hget : items[i]? = some items[i] := List.getElem?_eq_getElem hlt
      have hleft := hpadded.left hs
      obtain ⟨w, m, hm, hw, hshows⟩ := exec_item c hleft.item hget
        (Nat.lt_trans hlt hleft.lt_maxIndex)
      simp only [hlt, if_true]
      refine alike_look_left hw (goOn (hpadded.withNext_left hs hm) ?_)
      rwa [hget, Option.getD_some]
    · simp only [hlt, if_false]
      refine goOn hs ?_
      rw [List.getElem?_eq_none (Nat.le_of_not_lt hlt)]
      exact .inl rfl

/-- What remains is the same, with or without the elements that were filled in. -/
theorem restDialogue_alike {rest : Option κ}
    (hrest : ∀ f ∈ rest, RestAnswersAlike (fun f => (asked f).accepts) c R n x y f) (hs : R s s') :
    ((restDialogue (rest.map (⟨.plain, ·⟩)) x n).course (Query.accepts asked) c s).AlikeBy SameCallable R
      SameArgument ((restDialogue (rest.map (⟨.plain, ·⟩)) y n).course (Query.accepts asked) c s') := by
  rcases rest with _ | f
  · exact alike_done true hs
  · obtain ⟨w, s₁, hw, hitems⟩ := exec_dropFirst c (hpadded.left hs).item n
    obtain ⟨w', s₁', hw', hitems'⟩ := exec_dropFirst c (hpadded.right hs).item n
    obtain ⟨hs₁, hf⟩ := hrest f rfl s s' w w' s₁ s₁' hs hw hw'
    refine alike_look_left hw (alike_look_right hw' ?_)
    refine alike_ask rfl ⟨.remainder (items.drop n), hitems, ?_⟩ hs₁ hf
      fun b _ _ hs₂ _ => alike_done b hs₂
    rw [← drop_padded]
    exact hitems'

end Positions

/-- **An argument list is a padded tuple.**  If there are fewer arguments than are required, or more
than are accepted, the check about the argument list refuses at once.  Otherwise, and if there are just
too many for both, it asks and ends as the check about the padded tuple does. -/
theorem course_parameters {fs : List κ} {required : Nat} {rest : Option κ}
    (hrequired : required ≤ fs.length) (hpadded : Padded R fs.length items x y)
    (hfs : ∀ f ∈ fs, AnswersAlike (fun f => (asked f).accepts) c R (padded fs.length items) f)
    (hrest : ∀ f ∈ rest, RestAnswersAlike (fun f => (asked f).accepts) c R fs.length x y f)
    (hs : R s s') :
    let arguments := ((Check.parameters fs required rest).queries.dialogue x).course
      (Query.accepts asked) c s
    let elements := ((Check.tuple fs rest).queries.dialogue y).course (Query.accepts asked) c s'
    (items.length < required → arguments.RefusesAtOnce) ∧
    (required ≤ items.length → (∀ f ∈ fs, EndsNoIteration asked c R (padded fs.length items) f) →
      arguments.AlikeBy SameCallable R SameArgument elements) ∧
    (fs.length < items.length → rest = none → arguments.RefusesAtOnce ∧ elements.RefusesAtOnce) := by
  intro arguments elements
  have hleft := hpadded.left hs
  have hright := hpadded.right hs
  have harray : exec c (Look.array x).read s = .ok true s := by
    rw [Look.read, exec_isArray c hleft.attributes, Heap.isArray, hleft.length.sequence?]
    rfl
  have harray' : exec c (Look.array y).read s' = .ok true s' := by
    rw [Look.read, exec_isArray c hright.attributes, Heap.isArray, hright.length.sequence?]
    rfl
  have hsize : exec c (Look.length x).read s = .ok items.length s :=
    exec_size c hleft.length hleft.lt_maxIndex
  have hsize' : exec c (Look.length y).read s' = .ok (padded fs.length items).length s' :=
    exec_size c hright.length hright.lt_maxIndex
  have hlength := length_padded fs.length items
  have hnlt : required ≤ items.length → ¬items.length < required := Nat.not_lt.mpr
  -- The positions are gone through as soon as the length has turned out to fit.
  have hpositions (hfits : rest = none → items.length ≤ fs.length)
      (hends : ∀ f ∈ fs, EndsNoIteration asked c R (padded fs.length items) f) :
      ((positionsDialogue (fs.map (⟨.plain, ·⟩)) (rest.map (⟨.plain, ·⟩)) x).course (Query.accepts asked)
        c s).AlikeBy SameCallable R SameArgument elements := by
    have hmisfit : ((padded fs.length items).length < fs.length ||
        (rest.isNone && fs.length < (padded fs.length items).length)) = false := by
      rw [hlength, Bool.or_eq_false_iff, Bool.and_eq_false_iff]
      refine ⟨decide_eq_false (by omega), ?_⟩
      cases rest with
      | none => exact .inr (decide_eq_false (by have := hfits rfl; omega))
      | some f => exact .inl rfl
    refine alike_look_left hsize (alike_look_right harray' (alike_look_right hsize' ?_))
    simp only [List.length_map, Option.isNone_map, hmisfit]
    refine alike_look_right (exec_cursor c hright.iteration) ?_
    have hcursor : arrayCursor (padded fs.length items) y =
        arrayCursorFrom (padded fs.length items) 0 y := by cases y <;> rfl
    rw [hcursor]
    exact argumentsDialogue_alike hpadded (by omega) hfs hends
      (fun _ _ hs => restDialogue_alike hpadded hrest hs) hs
  refine ⟨fun hlt => ?_, fun hle hends => ?_, fun hlt hnone => ⟨?_, ?_⟩⟩
  · refine refusesAtOnce_look harray (refusesAtOnce_look hsize ?_)
    simp only [hlt, if_true]
    exact refusesAtOnce_done
  · refine alike_look_left harray (alike_look_left hsize ?_)
    simp only [hnlt hle, if_false]
    rcases rest with _ | f
    · refine alike_look_left hsize ?_
      by_cases hlt : fs.length < items.length
      · have hmisfit : fs.length < (padded fs.length items).length := by omega
        simp only [List.length_map, hlt, if_true]
        refine alike_look_right harray' (alike_look_right hsize' ?_)
        simp only [List.length_map, hmisfit, Option.map_none, Option.isNone_none, decide_true,
          Bool.and_self, Bool.or_true, if_true]
        exact alike_done false hs
      · simp only [List.length_map, hlt, if_false]
        exact hpositions (fun _ => Nat.le_of_not_lt hlt) hends
    · exact hpositions (fun hnone => absurd hnone (Option.some_ne_none f)) hends
  · subst hnone
    refine refusesAtOnce_look harray (refusesAtOnce_look hsize ?_)
    simp only [hnlt (Nat.le_trans hrequired (Nat.le_of_lt hlt)), if_false, Option.map_none,
      Option.isNone_none, if_true]
    refine refusesAtOnce_look hsize ?_
    simp only [List.length_map, hlt, if_true]
    exact refusesAtOnce_done
  · subst hnone
    have hmisfit : fs.length < (padded fs.length items).length := by omega
    refine refusesAtOnce_look harray' (refusesAtOnce_look hsize' ?_)
    simp only [List.length_map, hmisfit, Option.map_none, Option.isNone_none, decide_true,
      Bool.and_self, Bool.or_true, if_true]
    exact refusesAtOnce_done

end Check

end ValueShape
