import Mathlib.Data.List.Forall2
import ValueShape.Proofs.Facet.Presents

/-!
# Iterations that settle

What going through the elements of an iteration comes to, where each of them is known beforehand.

* `Run.Iterates c I R bs cur` says that the iteration `cur` yields one element for each member of
  the list `bs`, related to it by `R`, and nothing more, as long as the invariant `I` holds.
  `Run.Supplies` is the same where `R` depends on the session as well.
* `Run.iterates_places` is the rule for iterations that count places, and `Run.iterates_list` is the one
  for lists.
* `Run.settles_fold` is the rule for going through all of them: what holds in the beginning and after
  each of them holds in the end.  `Run.settles_each` is the rule for using them one by one.
-/

set_option autoImplicit false

namespace ValueShape

namespace Run

variable {c : Conduct} {I : Session → Prop} {s : Session} {α β : Type}

/-- A computation for each member of a list. -/
theorem settles_mapM {f : α → Run β} {R : α → β → Prop} {as : List α}
    (hf : ∀ a ∈ as, ∀ s, I s → Settles c I s (f a) fun b _ => R a b) (hs : I s) :
    Settles c I s (as.mapM f) fun bs _ => List.Forall₂ R as bs := by
  induction as generalizing s with
  | nil => exact .of_exec_self hs rfl .nil
  | cons a as ih =>
    obtain ⟨ha, has⟩ := List.forall_mem_cons.mp hf
    rw [List.mapM_cons]
    refine (ha s hs).bind fun b s₁ _ hs₁ hb => ?_
    refine (ih has hs₁).bind fun bs s₂ _ hs₂ hbs => ?_
    exact .of_exec_self hs₂ (exec_pure c s₂ _) (.cons hb hbs)

/-- An iteration yields one element for each member of a list, and nothing more. -/
def Iterates (c : Conduct) (I : Session → Prop) (R : β → Value → Prop) : List β → Cursor → Prop
  | [], cur => ∀ s, I s → Settles c I s (next cur) fun r _ => r = none
  | b :: bs, cur => ∀ s, I s → Settles c I s (next cur) fun r _ =>
      ∃ w cur', r = some (w, cur') ∧ R b w ∧ Iterates c I R bs cur'

/-- There is room for as many elements. -/
def HasRoom (I : Session → Prop) (n : Nat) (cur : Cursor) : Prop :=
  ∀ s, I s → n < cur.remaining s.heap + maxListLength

/-- An iteration yields one element for each member of a list, and nothing more.  What is yielded is
related to the session in which it is. -/
def Supplies (c : Conduct) (I : Session → Prop) (R : β → Value → Session → Prop) :
    List β → Cursor → Prop
  | [], cur => ∀ s, I s → Settles c I s (next cur) fun r _ => r = none
  | b :: bs, cur => ∀ s, I s → Settles c I s (next cur) fun r s' =>
      ∃ w cur', r = some (w, cur') ∧ R b w s' ∧ Supplies c I R bs cur'

theorem iterates_iff_supplies {R : β → Value → Prop} {bs : List β} {cur : Cursor} :
    Iterates c I R bs cur ↔ Supplies c I (fun b w _ => R b w) bs cur := by
  induction bs generalizing cur with
  | nil => exact Iff.rfl
  | cons b bs ih => simp only [Iterates, Supplies, ih]

theorem settles_foldUpTo {R : β → Value → Session → Prop} {step : α → Value → Run α}
    (P : List β → α → Session → Prop)
    (hlasts : ∀ done a s s', s.LeadsTo s' → I s' → P done a s → P done a s') :
    ∀ {bs done : List β} {cur : Cursor} {fuel : Nat} {a : α} {s : Session},
      Supplies c I R bs cur → bs.length < fuel →
      (∀ done' b rest, bs = done' ++ b :: rest → ∀ a w s, R b w s → I s → P (done ++ done') a s →
        Settles c I s (step a w) fun a s' => P (done ++ done' ++ [b]) a s') →
      I s → P done a s →
      Settles c I s (foldUpTo step fuel a cur) fun a s' => P (done ++ bs) a s' := by
  intro bs
  induction bs with
  | nil =>
    intro done cur fuel a s hcur hlt _ hs ha
    obtain ⟨fuel, rfl⟩ := Nat.exists_eq_succ_of_ne_zero (Nat.ne_zero_of_lt hlt)
    rw [foldUpTo]
    refine (hcur s hs).bind fun r s₁ hle₁ hs₁ hr => ?_
    subst hr
    exact .of_exec_self hs₁ (exec_pure c s₁ a) (by simpa using hlasts _ _ _ _ hle₁ hs₁ ha)
  | cons b bs ih =>
    intro done cur fuel a s hcur hlt hstep hs ha
    obtain ⟨fuel, rfl⟩ := Nat.exists_eq_succ_of_ne_zero (Nat.ne_zero_of_lt hlt)
    rw [foldUpTo]
    refine (hcur s hs).bind fun r s₁ hle₁ hs₁ ⟨w, cur₁, hr, hw, hcur₁⟩ => ?_
    subst hr
    refine (hstep [] b bs rfl a w s₁ hw hs₁ (by simpa using hlasts _ _ _ _ hle₁ hs₁ ha)).bind
      fun a₂ s₂ _ hs₂ ha₂ => ?_
    rw [List.append_nil] at ha₂
    refine (ih hcur₁ (Nat.lt_of_succ_lt_succ hlt) (fun done' b' rest' hbs a w s hw hs ha => ?_) hs₂
      ha₂).mono fun a' s' _ _ ha' => by simpa using ha'
    have hnext := hstep (b :: done') b' rest' (by rw [hbs, List.cons_append]) a w s hw hs
      (by simpa using ha)
    simpa using hnext

/-- **Going through an iteration.**  What holds in the beginning, and is kept by each step and in the
course of time, holds in the end. -/
theorem settles_fold_supplied {R : β → Value → Session → Prop} {bs : List β} {cur : Cursor}
    (hcur : Supplies c I R bs cur) (hroom : HasRoom I bs.length cur) {step : α → Value → Run α}
    (P : List β → α → Session → Prop)
    (hlasts : ∀ done a s s', s.LeadsTo s' → I s' → P done a s → P done a s')
    (hstep : ∀ done b rest, bs = done ++ b :: rest → ∀ a w s, R b w s → I s → P done a s →
      Settles c I s (step a w) fun a s' => P (done ++ [b]) a s')
    {a : α} (hs : I s) (ha : P [] a s) :
    Settles c I s (fold step a cur) fun a s' => P bs a s' :=
  .after (exec_limit c _) (settles_foldUpTo P hlasts hcur (hroom s hs) (by simpa using hstep) hs ha)

theorem settles_fold {R : β → Value → Prop} {bs : List β} {cur : Cursor}
    (hcur : Iterates c I R bs cur) (hroom : HasRoom I bs.length cur) {step : α → Value → Run α}
    (P : List β → α → Session → Prop)
    (hlasts : ∀ done a s s', s.LeadsTo s' → I s' → P done a s → P done a s')
    (hstep : ∀ done b rest, bs = done ++ b :: rest → ∀ a w s, R b w → I s → P done a s →
      Settles c I s (step a w) fun a s' => P (done ++ [b]) a s')
    {a : α} (hs : I s) (ha : P [] a s) :
    Settles c I s (fold step a cur) fun a s' => P bs a s' :=
  settles_fold_supplied (iterates_iff_supplies.mp hcur) hroom P hlasts hstep hs ha

/-- Using the elements of an iteration one after the other, as soon as they are yielded. -/
theorem settles_each_supplied {γ : Type} {R : β → Value → Session → Prop} {bs : List β} {cur : Cursor}
    (hcur : Supplies c I R bs cur) (hroom : HasRoom I bs.length cur) {use : Nat → Value → Run γ}
    (Q : β → γ → Prop)
    (huse : ∀ b ∈ bs, ∀ n w s, R b w s → I s → Settles c I s (use n w) fun d _ => Q b d)
    (hs : I s) : Settles c I s (each use cur) fun ds _ => List.Forall₂ Q bs ds := by
  rw [each]
  let step (done : Nat × List γ) (v : Value) : Run (Nat × List γ) := do
    return (done.1 + 1, (← use done.1 v) :: done.2)
  have hfold : Settles c I s (fold step (0, []) cur) fun a _ => List.Forall₂ Q bs a.2.reverse :=
    settles_fold_supplied hcur hroom
      (fun done (a : Nat × List γ) _ => List.Forall₂ Q done a.2.reverse)
      (fun _ _ _ _ _ _ h => h) ?_ hs .nil
  · exact hfold.bind fun a s' _ hs' ha => .of_exec_self hs' rfl ha
  intro done b rest hbs a w s hw hs ha
  have hmem : b ∈ bs := by rw [hbs]; simp
  refine (huse b hmem a.1 w s hw hs).bind fun d s' _ hs' hd => ?_
  refine .of_exec_self hs' rfl ?_
  rw [List.reverse_cons]
  exact List.rel_append ha (.cons hd .nil)

/-- Using the elements of an iteration one after the other. -/
theorem settles_each {γ : Type} {R : β → Value → Prop} {bs : List β} {cur : Cursor}
    (hcur : Iterates c I R bs cur) (hroom : HasRoom I bs.length cur) {use : Nat → Value → Run γ}
    (Q : β → γ → Prop)
    (huse : ∀ b ∈ bs, ∀ n w s, R b w → I s → Settles c I s (use n w) fun d _ => Q b d)
    (hs : I s) : Settles c I s (each use cur) fun ds _ => List.Forall₂ Q bs ds :=
  settles_each_supplied (iterates_iff_supplies.mp hcur) hroom Q huse hs

/-- The elements of an iteration. -/
theorem settles_elements {R : β → Value → Prop} {bs : List β} {cur : Cursor}
    (hcur : Iterates c I R bs cur) (hroom : HasRoom I bs.length cur) (hs : I s) :
    Settles c I s (elements cur) fun ws _ => List.Forall₂ R bs ws := by
  rw [elements]
  exact settles_each hcur hroom R (fun _ _ _ w s hw hs => .of_exec_self hs (exec_pure c s w) hw) hs

/-! ## What is known of an iteration

An iteration is known once it has been said what it yields at each place.  Then it does not matter
what is done with the elements in between. -/

theorem Iterates.mono {R R' : β → Value → Prop} {bs : List β} {cur : Cursor}
    (h : Iterates c I R bs cur) (hR : ∀ b ∈ bs, ∀ w, R b w → R' b w) : Iterates c I R' bs cur := by
  induction bs generalizing cur with
  | nil => exact h
  | cons b bs ih =>
    obtain ⟨hb, hbs⟩ := List.forall_mem_cons.mp hR
    intro s hs
    refine (h s hs).mono fun r s' _ _ hr => ?_
    obtain ⟨w, cur', rfl, hw, hcur'⟩ := hr
    exact ⟨w, cur', rfl, hb w hw, ih hcur' hbs⟩

theorem iterates_map {γ : Type} {f : γ → β} {R : β → Value → Prop} {ds : List γ} {cur : Cursor} :
    Iterates c I R (ds.map f) cur ↔ Iterates c I (fun d => R (f d)) ds cur := by
  induction ds generalizing cur with
  | nil => exact Iff.rfl
  | cons d ds ih => simp only [List.map_cons, Iterates, ih]

/-- An iteration that counts places yields what is at each of them. -/
theorem supplies_places {R : β → Value → Session → Prop} {bs : List β} (cur : Nat → Cursor)
    (hnext : ∀ i b, bs[i]? = some b → ∀ s, I s → Settles c I s (next (cur i)) fun r s' =>
      ∃ w, r = some (w, cur (i + 1)) ∧ R b w s')
    (hend : ∀ s, I s → Settles c I s (next (cur bs.length)) fun r _ => r = none) :
    Supplies c I R bs (cur 0) := by
  have hrest : ∀ rest i, bs.drop i = rest → i ≤ bs.length → Supplies c I R rest (cur i) := by
    intro rest
    induction rest with
    | nil =>
      intro i hi hle
      have heq : i = bs.length := Nat.le_antisymm hle (List.drop_eq_nil_iff.mp hi)
      subst heq
      exact hend
    | cons b rest ih =>
      intro i hi hle s hs
      have hb : bs[i]? = some b := by rw [← List.head?_drop, hi, List.head?_cons]
      have hlt : i < bs.length := (List.getElem?_eq_some_iff.mp hb).1
      have hdrop : bs.drop (i + 1) = rest := by rw [← List.tail_drop, hi, List.tail_cons]
      refine (hnext i b hb s hs).mono fun r s' _ _ hr => ?_
      obtain ⟨w, rfl, hw⟩ := hr
      exact ⟨w, cur (i + 1), rfl, hw, ih (i + 1) hdrop hlt⟩
  exact hrest bs 0 rfl (Nat.zero_le _)

theorem iterates_places {R : β → Value → Prop} {bs : List β} (cur : Nat → Cursor)
    (hnext : ∀ i b, bs[i]? = some b → ∀ s, I s → Settles c I s (next (cur i)) fun r _ =>
      ∃ w, r = some (w, cur (i + 1)) ∧ R b w)
    (hend : ∀ s, I s → Settles c I s (next (cur bs.length)) fun r _ => r = none) :
    Iterates c I R bs (cur 0) :=
  iterates_iff_supplies.mpr (supplies_places cur hnext hend)

/-! ## Values that are there already -/

theorem exec_next_rest_of_isIdentified (c : Conduct) (s : Session) {v : Value}
    (hv : v.isIdentified = true) (vs : List Value) :
    exec c (next (.rest (v :: vs))) s = .ok (some (v, .rest vs)) s := by
  simp only [next, maxChain, nextUpTo, nextElement, exec_bind, exec_pure, Ending.andThen_ok,
    exec_identified_of_isIdentified c hv]

theorem iterates_rest {vs : List Value} (hvs : ∀ v ∈ vs, v.isIdentified = true) :
    Iterates c I Eq vs (.rest vs) := by
  induction vs with
  | nil => exact fun s hs => .of_exec_self hs (exec_next_rest_nil c s) rfl
  | cons v vs ih =>
    obtain ⟨hv, hvs⟩ := List.forall_mem_cons.mp hvs
    exact fun s hs => .of_exec_self hs (exec_next_rest_of_isIdentified c s hv vs)
      ⟨v, .rest vs, rfl, rfl, ih hvs⟩

theorem hasRoom_rest (vs : List Value) : HasRoom I vs.length (.rest vs) :=
  fun _ _ => Nat.lt_add_of_pos_right (by decide)

/-! ## Lists -/

/-- The elements of a list are yielded one after the other. -/
theorem iterates_list {place : Nat} {vs : List Value}
    (hcontents : ∀ s, I s → s.heap.contents? (.ref place) = some (.list vs))
    (hvs : ∀ v ∈ vs, v.isIdentified = true) :
    Iterates c I Eq vs (.elements (.ref place) 0) ∧
      HasRoom I vs.length (.elements (.ref place) 0) := by
  have hcontained : ∀ s, I s → s.heap.contained? (.ref place) = some vs := fun s hs => by
    simp only [Heap.contained?, hcontents s hs]
  refine ⟨iterates_places (.elements (.ref place)) (fun i v hi s hs => ?_) fun s hs => ?_,
    fun s hs => ?_⟩
  · refine .of_exec_self hs (a := some (v, .elements (.ref place) (i + 1))) ?_ ⟨v, rfl, rfl⟩
    simp only [next, maxChain, nextUpTo, nextElement, exec_bind, exec_heap, Ending.andThen_ok,
      hcontained s hs, Option.getD_some, hi, exec_pure]
    change exec c (identified v >>= _) s = _
    rw [exec_bind, exec_identified_of_isIdentified c (hvs v (List.mem_of_getElem? hi))]
    rfl
  · refine .of_exec_self hs (a := none) ?_ rfl
    simp only [next, maxChain, nextUpTo, nextElement, exec_bind, exec_heap, Ending.andThen_ok,
      hcontained s hs, Option.getD_some, List.getElem?_length]
    rfl
  · simp only [Cursor.remaining, Heap.count, hcontents s hs, hcontained s hs,
      Option.getD_some]
    exact Nat.lt_add_of_pos_right (by decide)

end Run

end ValueShape
