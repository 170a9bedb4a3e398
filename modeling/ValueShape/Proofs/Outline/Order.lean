import Mathlib.Data.List.Forall2
import ValueShape.Proofs.Outline.Spacing

/-!
# The order of the members of a set

Layout puts the members of a set into the order of their texts, so their order in an outline does not
matter.

* `Outline.Same` relates outlines that are the same but for the order of the members of sets, on any
  level.
* `Outline.Same.layout_eq` says that such outlines have the same text.
-/

set_option autoImplicit false

namespace ValueShape

/-! ## Sorting texts -/

theorem textLE_iff {s t : List Char} : textLE s t = true ↔ List.le s t := by
  rw [textLE, Bool.not_eq_true']
  exact decide_eq_false_iff_not

theorem textLE_trans (s t u : List Char) (hst : textLE s t = true) (htu : textLE t u = true) :
    textLE s u = true :=
  textLE_iff.mpr (List.le_trans (textLE_iff.mp hst) (textLE_iff.mp htu))

theorem textLE_total (s t : List Char) : (textLE s t || textLE t s) = true := by
  rw [Bool.or_eq_true, textLE_iff, textLE_iff]
  exact List.le_total s t

/-- Sorted texts do not tell the order that they were in before. -/
theorem mergeSort_textLE_eq {ts us : List (List Char)} (h : ts.Perm us) :
    ts.mergeSort textLE = us.mergeSort textLE := by
  have hperm : (ts.mergeSort textLE).Perm (us.mergeSort textLE) :=
    (List.mergeSort_perm ts textLE).trans (h.trans (List.mergeSort_perm us textLE).symm)
  have hsorted (texts : List (List Char)) := List.pairwise_mergeSort textLE_trans textLE_total texts
  exact List.Perm.eq_of_pairwise
    (fun s t _ _ hst hts => List.le_antisymm (textLE_iff.mp hst) (textLE_iff.mp hts))
    (hsorted ts) (hsorted us) hperm

namespace Outline

/-! ## Outlines that are the same

Only a set whose members layout puts into order forgets how they came.  Everywhere else the order
counts. -/

/-- An outline without what stands inside it. -/
def bare : Outline → Outline
  | leaf text => leaf text
  | circular => circular
  | cut => cut
  | list _ => list []
  | tuple _ => tuple []
  | set typeName _ => set typeName []
  | arranged _ => arranged []
  | mapping _ => mapping []

/-- Whether an outline shows a set whose members are put into order by their texts. -/
def isSet : Outline → Bool
  | set .. => true
  | _ => false

/-- Two outlines are the same if the same stands inside them in the same order, where the order of the
members of a set does not count. -/
inductive Same : Outline → Outline → Prop
  | intro {o o' : Outline} {qs : List Outline} (hbare : o.bare = o'.bare)
      (hlength : o.parts.length = qs.length) (hparts : ∀ pq ∈ o.parts.zip qs, Same pq.1 pq.2)
      (horder : qs = o'.parts ∨ o.isSet = true ∧ qs.Perm o'.parts) : Same o o'

variable {l : LineLimit}

theorem map_eq_map_of_zip {α : Type} {f : Outline → α} {os qs : List Outline}
    (hlength : os.length = qs.length) (h : ∀ pq ∈ os.zip qs, f pq.1 = f pq.2) :
    os.map f = qs.map f := by
  induction os generalizing qs with
  | nil => rw [List.eq_nil_of_length_eq_zero hlength.symm]
  | cons o os ih =>
    cases qs with
    | nil => cases hlength
    | cons q qs =>
      obtain ⟨hfirst, hrest⟩ := List.forall_mem_cons.mp h
      rw [List.map_cons, List.map_cons, hfirst, ih (Nat.succ.inj hlength) hrest]

/-- The texts of the keys and values of a mapping make up the texts of its entries. -/
theorem layoutEntries_eq_of_parts {es es' : List (Outline × Outline)}
    (h : (mapping es).parts.map (layout l) = (mapping es').parts.map (layout l)) :
    layoutEntries l es = layoutEntries l es' := by
  induction es generalizing es' with
  | nil =>
    cases es' with
    | nil => rfl
    | cons e es' => cases h
  | cons e es ih =>
    cases es' with
    | nil => cases h
    | cons e' es' =>
      obtain ⟨hkey, h⟩ := List.cons.inj h
      obtain ⟨hvalue, h⟩ := List.cons.inj h
      rw [layoutEntries, layoutEntries, hkey, hvalue, ih h]

/-- The text of an outline depends on the texts of what stands inside. -/
theorem layout_congr {o o' : Outline} (hbare : o.bare = o'.bare)
    (h : o.parts.map (layout l) = o'.parts.map (layout l)) : o.layout l = o'.layout l := by
  cases o <;> cases o' <;> try cases hbare
  case leaf | circular | cut => rfl
  case mapping es es' => rw [layout, layout, layoutEntries_eq_of_parts h]
  all_goals
    simp only [parts, ← layoutAll_eq_map] at h
    rw [layout, layout, h]

theorem layout_congr_set {o o' : Outline} (hset : o.isSet = true) (hbare : o.bare = o'.bare)
    (h : (o.parts.map (layout l)).Perm (o'.parts.map (layout l))) : o.layout l = o'.layout l := by
  cases o <;> try cases hset
  cases o' <;> try cases hbare
  simp only [parts, ← layoutAll_eq_map] at h
  rw [layout, layout, mergeSort_textLE_eq h]

/-- **The order of the members of a set does not show.** -/
theorem Same.layout_eq {o o' : Outline} (h : o.Same o') (l : LineLimit) :
    o.layout l = o'.layout l := by
  induction h with
  | @intro o o' qs hbare hlength _ horder ih =>
    have htexts : o.parts.map (layout l) = qs.map (layout l) := map_eq_map_of_zip hlength ih
    rcases horder with rfl | ⟨hset, hperm⟩
    · exact layout_congr hbare htexts
    · refine layout_congr_set hset hbare ?_
      rw [htexts]
      exact hperm.map _

theorem Same.of_forall₂ {o o' : Outline} {qs : List Outline} (hbare : o.bare = o'.bare)
    (hparts : List.Forall₂ Same o.parts qs)
    (horder : qs = o'.parts ∨ o.isSet = true ∧ qs.Perm o'.parts) : o.Same o' :=
  .intro hbare hparts.length_eq (fun _ hpq => List.forall₂_zip hparts hpq) horder

theorem Same.refl (o : Outline) : o.Same o := by
  induction o using parts_induction with
  | h o ih => exact .of_forall₂ rfl (List.forall₂_same.mpr ih) (.inl rfl)

end Outline

end ValueShape
