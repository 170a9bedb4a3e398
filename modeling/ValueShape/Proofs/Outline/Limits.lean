import ValueShape.Ask.Call
import ValueShape.Outline.Inspect
import ValueShape.Proofs.Exec
import ValueShape.Proofs.Outline.Spacing

/-!
# Renderings under two line limits

What the line limit has to do with a rendering, whatever the value is and whatever it does when it is
asked.

* `Heap.knownLimits?` is the pair of limits that options set once and for all.
* `Run.exec_unfold_of_throughout` says that unfolding a value does not depend on the line limit, as long as
  closing sets does not.  Members of sets that are no ordinary texts are asked about their order, and what
  stands beside them is shown to them as it is laid out: only there the limit counts.
* `Run.inspect_unspaced` says that two line limits lead to texts that differ in spaces and line
  boundaries only.

The members of a set are sorted by their texts, so a set with several members can be shown in another
order under another limit: `Run.inspect_order_differs`.
-/

set_option autoImplicit false

namespace ValueShape

open Run

/-- The limits that options set, which are those of names if there are no options. -/
def Heap.knownLimits? (h : Heap) : Value → Option RenderOptions
  | .null => some .default
  | options => h.renderOptions? options

/-- A property of all that a rendering shows. -/
def Rendering.Throughout (P : Outline → Prop) : Rendering → Prop
  | .value _ => True
  | .outline o => o.Throughout P

instance (P : Outline → Prop) [DecidablePred P] : DecidablePred (Rendering.Throughout P)
  | .value _ => inferInstanceAs (Decidable True)
  | .outline o => inferInstanceAs (Decidable (o.Throughout P))

/-- A property of all that is shown of a value to a depth, if it can be unfolded. -/
def Run.ShowsOnly (P : Outline → Prop) (c : Conduct) (s : Session) (line : LineLimit) (depth : Nat)
    (v : Value) : Prop :=
  ∀ r s', exec c (unfold line depth [] v) s = .ok r s' → r.Throughout P

instance (P : Outline → Prop) [DecidablePred P] (c : Conduct) (s : Session) (line : LineLimit)
    (depth : Nat) (v : Value) : Decidable (ShowsOnly P c s line depth v) :=
  decidable_of_iff
    ((exec c (unfold line depth [] v) s).result?.all (decide <| Rendering.Throughout P ·) = true) (by
      rw [ShowsOnly]
      rcases exec c (unfold line depth [] v) s with ⟨r, s₁⟩ | ⟨e, s₁⟩
      · refine decide_eq_true_iff.trans ⟨?_, fun h => h r s₁ rfl⟩
        rintro h _ _ ⟨⟩
        exact h
      · exact ⟨fun _ _ _ => nofun, fun _ => rfl⟩)

namespace Run

variable {c : Conduct} {s s' : Session} {α β : Type}

/-- Options whose limits are known need not be asked. -/
theorem exec_inspect {options : Value} {o : RenderOptions}
    (h : s.heap.knownLimits? options = some o) (v : Value) :
    exec c (inspect v options) s = exec c (renderValue o v) s := by
  rw [inspect, exec_bind, exec_heap, Ending.andThen_ok]
  by_cases hoptions : options = .null
  · subst hoptions
    cases h
    rfl
  · have ho : s.heap.renderOptions? options = some o := by
      rw [← h]
      cases options <;> first | rfl | exact absurd rfl hoptions
    rw [ho]
    split
    · exact absurd rfl hoptions
    next heq =>
      cases heq
      rfl
    next heq => cases heq

/-! ## Uses that come to the same -/

section Each

variable {f g : Nat → Value → Run α} {P : α → Prop}

/-- Going through an iteration comes to the same under another use that has the same results, as far as
these have a property. -/
theorem exec_each_of_forall
    (hfg : ∀ i v s a s', exec c (f i v) s = .ok a s' → P a → exec c (g i v) s = .ok a s')
    {cur : Cursor} {as : List α} (h : exec c (each f cur) s = .ok as s') (has : ∀ a ∈ as, P a) :
    exec c (each g cur) s = .ok as s' := by
  let step (use : Nat → Value → Run α) (done : Nat × List α) (v : Value) : Run (Nat × List α) := do
    return (done.1 + 1, (← use done.1 v) :: done.2)
  have hfold : ∀ (fuel : Nat) (done : Nat × List α) (cur : Cursor) (s : Session) (r : Nat × List α),
      exec c (foldUpTo (step f) fuel done cur) s = .ok r s' →
        done.2 ⊆ r.2 ∧
          ((∀ a ∈ r.2, P a) → exec c (foldUpTo (step g) fuel done cur) s = .ok r s') := by
    intro fuel
    induction fuel with
    | zero => exact fun _ _ _ _ h => nomatch h
    | succ fuel ih =>
      intro done cur s r h
      rw [foldUpTo] at h
      obtain ⟨next?, s₁, hnext, h⟩ := exists_of_exec_bind h
      rw [foldUpTo, exec_bind, hnext, Ending.andThen_ok]
      match next? with
      | none =>
        cases h
        exact ⟨List.Subset.refl _, fun _ => rfl⟩
      | some (w, cur₁) =>
        obtain ⟨done', s₂, hstep, h⟩ := exists_of_exec_bind h
        obtain ⟨a, s₃, ha, hdone⟩ := exists_of_exec_bind hstep
        cases hdone
        obtain ⟨hsubset, hgoOn⟩ := ih _ cur₁ s₂ r h
        obtain ⟨hmem, hdone⟩ := List.cons_subset.mp hsubset
        refine ⟨hdone, fun hP => ?_⟩
        have hg : exec c (step g done w) s₁ = .ok (done.1 + 1, a :: done.2) s₂ := by
          rw [exec_bind, hfg _ _ _ _ _ ha (hP a hmem)]
          rfl
        dsimp only
        rw [exec_bind, hg]
        exact hgoOn hP
  rw [each] at h ⊢
  obtain ⟨r, s₁, hr, h⟩ := exists_of_exec_bind h
  cases h
  rw [fold] at hr ⊢
  obtain ⟨fuel, s₂, hlimit, hr⟩ := exists_of_exec_bind hr
  obtain ⟨-, hg⟩ := hfold fuel (0, []) cur s₂ r hr
  have hP : ∀ a ∈ r.2, P a := fun a ha => has a (List.mem_reverse.mpr ha)
  rw [exec_bind, exec_bind, hlimit, Ending.andThen_ok, hg hP]
  rfl

theorem exec_mapM_of_forall {f g : α → Run β} {P : β → Prop}
    (hfg : ∀ a s b s', exec c (f a) s = .ok b s' → P b → exec c (g a) s = .ok b s')
    {as : List α} {bs : List β} (h : exec c (as.mapM f) s = .ok bs s') (hbs : ∀ b ∈ bs, P b) :
    exec c (as.mapM g) s = .ok bs s' := by
  induction as generalizing s bs with
  | nil => exact h
  | cons a as ih =>
    rw [List.mapM_cons] at h ⊢
    obtain ⟨b, s₁, hb, h⟩ := exists_of_exec_bind h
    obtain ⟨bs', s₂, hbs', h⟩ := exists_of_exec_bind h
    cases h
    obtain ⟨hPb, hPbs⟩ := List.forall_mem_cons.mp hbs
    rw [exec_bind, hfg a s b s₁ hb hPb, Ending.andThen_ok, exec_bind, ih hbs' hPbs]
    rfl

end Each

/-! ## Containers -/

variable {P : Outline → Prop}

/-- What holds throughout the items of a container holds throughout the renderings that they were made
of. -/
theorem forall_throughout_of_joinable {rs : List Rendering} {os : List Outline} {place : Nat}
    (h : exec c (joinable place rs) s = .ok os s') (hos : ∀ o ∈ os, o.Throughout P) :
    ∀ r ∈ rs, r.Throughout P := by
  induction rs generalizing place s os with
  | nil => exact nofun
  | cons r rs ih =>
    cases r with
    | outline o =>
      obtain ⟨os', s₁, hos', h⟩ := exists_of_exec_bind h
      cases h
      obtain ⟨ho, hos⟩ := List.forall_mem_cons.mp hos
      exact List.forall_mem_cons.mpr ⟨ho, ih hos' hos⟩
    | value w =>
      refine List.forall_mem_cons.mpr ⟨trivial, ?_⟩
      rw [joinable] at h
      split at h
      · obtain ⟨os', s₁, hos', h⟩ := exists_of_exec_bind h
        cases h
        exact ih hos' (List.forall_mem_cons.mp hos).2
      · obtain ⟨e, s₁, -, h⟩ := exists_of_exec_bind h
        cases h

/-- What is between brackets has the items that were put there. -/
theorem exists_of_closed {line : LineLimit} {make : List Outline → Outline} {rs : List Rendering}
    {r : Rendering} (h : exec c (closed (.known line) make rs) s = .ok r s') :
    ∃ os, exec c (joinable 0 rs) s = .ok os s' ∧ r = .outline (make os) := by
  obtain ⟨os, s₁, hos, h⟩ := exists_of_exec_bind h
  cases h
  exact ⟨os, hos, rfl⟩

theorem throughout_of_embedded {r : Rendering} {o : Outline}
    (h : exec c (embedded r) s = .ok o s') (ho : o.Throughout P) : r.Throughout P := by
  cases r with
  | outline o' =>
    cases h
    exact ho
  | value w => trivial

/-! ### The members of sets

Members are put into order by their texts, which were laid out under the limit at hand.  A text of a
class with a comparison of its own is even asked about the others, so under another limit it may say
something else. -/

theorem perm_of_foldlM_insertSorted {vs acc ws : List Value}
    (h : exec c (vs.foldlM insertSorted acc) s = .ok ws s') : ws.Perm (acc ++ vs) := by
  induction vs generalizing acc s with
  | nil =>
    cases h
    rw [List.append_nil]
  | cons v vs ih =>
    rw [List.foldlM_cons] at h
    obtain ⟨acc', s₁, hacc', h⟩ := exists_of_exec_bind h
    obtain ⟨place, s₂, -, hacc'⟩ := exists_of_exec_bind hacc'
    cases hacc'
    have hinserted : (acc.take place ++ v :: acc.drop place).Perm (v :: acc) := by
      have hperm : (acc.take place ++ v :: acc.drop place).Perm
          (v :: (acc.take place ++ acc.drop place)) := List.perm_middle
      rwa [List.take_append_drop] at hperm
    exact (ih h).trans ((hinserted.append_right vs).trans List.perm_middle.symm)

/-- Sorting values by asking them gives the same values in some order. -/
theorem perm_of_sortedByAsking {vs ws : List Value}
    (h : exec c (sortedByAsking vs) s = .ok ws s') : ws.Perm vs := by
  match vs with
  | [] | [v] =>
    cases h
    exact .refl _
  | v :: w :: vs =>
    obtain ⟨falling, s₁, -, h⟩ := exists_of_exec_bind h
    obtain ⟨n, s₂, -, h⟩ := exists_of_exec_bind h
    have hperm := perm_of_foldlM_insertSorted h
    have hrun : (if falling = true then ((v :: w :: vs).take (n + 2)).reverse
        else (v :: w :: vs).take (n + 2)).Perm ((v :: w :: vs).take (n + 2)) := by
      split
      · exact List.reverse_perm _
      · exact .refl _
    have hall := hperm.trans (hrun.append_right _)
    rwa [List.take_append_drop] at hall

/-- Sorting values gives the same values in some order. -/
theorem perm_of_sorted {vs ws : List Value} (h : exec c (sorted vs) s = .ok ws s') : ws.Perm vs := by
  obtain ⟨heap, s₁, -, h⟩ := exists_of_exec_bind h
  split at h
  · cases h
    exact List.mergeSort_perm ..
  · exact perm_of_sortedByAsking h

/-- Values that are texts are shown as these texts. -/
theorem eq_map_of_joinable_values {ws : List Value} {os : List Outline} {place : Nat}
    (h : exec c (joinable place (ws.map .value)) s = .ok os s') :
    os = ws.map fun w => .leaf (w.text?.getD "").toList := by
  induction ws generalizing place s os with
  | nil =>
    cases h
    rfl
  | cons w ws ih =>
    rw [List.map_cons, joinable] at h
    split at h
    next text htext =>
      obtain ⟨os', s₁, hos', h⟩ := exists_of_exec_bind h
      cases h
      rw [List.map_cons, htext, ← ih hos']
      rfl
    · obtain ⟨e, s₁, -, h⟩ := exists_of_exec_bind h
      cases h

/-- What is shown of a rendering in a set whose members were put into order by asking them. -/
def arrangedLeaf (line : LineLimit) (r : Rendering) : Outline :=
  .leaf ((sortKey line r).text?.getD "").toList

theorem arrangedLeaf_outline (line : LineLimit) (o : Outline) :
    arrangedLeaf line (.outline o) = .leaf (o.layout line) :=
  congrArg Outline.leaf String.toList_ofList

/-- The members of a set are put into the order of their texts, unless one of them is no ordinary
text. -/
theorem exec_closedSet (line : LineLimit) (typeName : List Char) (rs : List Rendering) :
    exec c (closedSet (.known line) typeName rs) s =
      exec c (if rs.all (fun r => s.heap.isPlainText (sortKey .always r)) then
          closed (.known line) (.set typeName) rs
        else do closed (.known line) .arranged ((← sorted (rs.map (sortKey line))).map .value)) s := by
  have hplain : (rs.map (sortKey line)).all s.heap.isPlainText =
      rs.all fun r => s.heap.isPlainText (sortKey .always r) := by
    rw [List.all_map]
    refine congrArg rs.all (funext fun r => ?_)
    cases r <;> rfl
  rw [closedSet, exec_bind, exec_heap, Ending.andThen_ok, ← hplain]
  rfl

/-- Closing sets comes to the same under two line limits, as far as a property holds throughout what is
shown. -/
def ClosesSetsAlike (c : Conduct) (P : Outline → Prop) (line line' : LineLimit) : Prop :=
  ∀ typeName rs r s s', exec c (closedSet (.known line) typeName rs) s = .ok r s' → r.Throughout P →
    exec c (closedSet (.known line') typeName rs) s = .ok r s' ∧ ∀ r ∈ rs, r.Throughout P

/-- The members of a set are asked about their order, so they have to be the same under both limits
if one of them is no ordinary text. -/
theorem closesSetsAlike_of_arranged {line line' : LineLimit}
    (h : ∀ (rs : List Rendering) (os : List Outline) (w : Value), .value w ∈ rs →
      os.Perm (rs.map (arrangedLeaf line)) → (Outline.arranged os).Throughout P →
      ∀ r ∈ rs, r.Throughout P ∧ sortKey line r = sortKey line' r) :
    ClosesSetsAlike c P line line' := by
  intro typeName rs r s s' hr hP
  rw [exec_closedSet] at hr ⊢
  split at hr
  next hall =>
    rw [if_pos hall]
    obtain ⟨os, hos, rfl⟩ := exists_of_closed hr
    exact ⟨hr, forall_throughout_of_joinable hos (Outline.throughout_iff.mp hP).2⟩
  next hall =>
    rw [if_neg hall]
    obtain ⟨w, hw⟩ : ∃ w, Rendering.value w ∈ rs := by
      obtain ⟨r', hr', hplain⟩ := List.all_eq_false.mp (Bool.eq_false_iff.mpr hall)
      cases r' with
      | value w => exact ⟨w, hr'⟩
      | outline o => exact absurd rfl hplain
    obtain ⟨ws, s₁, hws, hclosed⟩ := exists_of_exec_bind hr
    obtain ⟨os, hos, rfl⟩ := exists_of_closed hclosed
    have hperm : os.Perm (rs.map (arrangedLeaf line)) := by
      rw [eq_map_of_joinable_values hos]
      have hmap := (perm_of_sorted hws).map fun w => Outline.leaf (w.text?.getD "").toList
      rwa [List.map_map] at hmap
    have hrs := h rs os w hw hperm hP
    have hkeys : rs.map (sortKey line') = rs.map (sortKey line) :=
      List.map_congr_left fun r hr => (hrs r hr).2.symm
    rw [hkeys]
    exact ⟨hr, fun r hr => (hrs r hr).1⟩

/-- Sets with one member at most need not be put into order. -/
theorem closesSetsAlike_of_length_le
    (hP : ∀ items, P (.arranged items) → items.length ≤ 1) (line line' : LineLimit) :
    ClosesSetsAlike c P line line' := by
  refine closesSetsAlike_of_arranged fun rs os w hw hperm hos => ?_
  have hlength : rs.length ≤ 1 := by
    rw [← List.length_map (arrangedLeaf line), ← hperm.length_eq]
    exact hP os (Outline.throughout_iff.mp hos).1
  match rs, hlength, hw with
  | [r], _, hw =>
    obtain rfl := List.mem_singleton.mp hw
    exact List.forall_mem_singleton.mpr ⟨trivial, rfl⟩

/-! ## Values -/

theorem exec_unfoldEntry_of_throughout {item item' : Value → Run Rendering}
    (hitem : ∀ w s r s', exec c (item w) s = .ok r s' → r.Throughout P →
      exec c (item' w) s = .ok r s')
    {pair : Value} {e : Outline × Outline} (h : exec c (unfoldEntry item pair) s = .ok e s')
    (hkey : e.1.Throughout P) (hvalue : e.2.Throughout P) :
    exec c (unfoldEntry item' pair) s = .ok e s' := by
  rw [unfoldEntry] at h ⊢
  obtain ⟨⟨k, v⟩, s₁, hpair, h⟩ := exists_of_exec_bind h
  obtain ⟨r, s₂, hr, h⟩ := exists_of_exec_bind h
  obtain ⟨o, s₃, ho, h⟩ := exists_of_exec_bind h
  obtain ⟨r', s₄, hr', h⟩ := exists_of_exec_bind h
  obtain ⟨o', s₅, ho', h⟩ := exists_of_exec_bind h
  cases h
  have hk := hitem k _ _ _ hr (throughout_of_embedded ho hkey)
  have hv := hitem v _ _ _ hr' (throughout_of_embedded ho' hvalue)
  simp only [exec_bind, hpair, Ending.andThen_ok, hk, ho, hv, ho', exec_pure]

/-- Unfolding items does not depend on the line limit if unfolding each of them does not, and if closing
sets does not. -/
theorem exec_unfoldItems_of_throughout {line line' : LineLimit} {item item' : Value → Run Rendering}
    (hsets : ClosesSetsAlike c P line line')
    (hitem : ∀ w s r s', exec c (item w) s = .ok r s' → r.Throughout P →
      exec c (item' w) s = .ok r s')
    {v : Value} {k : Container} {r : Rendering}
    (h : exec c (unfoldItems (.known line) item v k) s = .ok r s') (hr : r.Throughout P) :
    exec c (unfoldItems (.known line') item' v k) s = .ok r s' := by
  have heach {cur : Cursor} {s s' : Session} {rs : List Rendering}
      (hrs : exec c (each (fun _ w => item w) cur) s = .ok rs s')
      (hP : ∀ r ∈ rs, r.Throughout P) :
      exec c (each (fun _ w => item' w) cur) s = .ok rs s' :=
    exec_each_of_forall (fun _ w s r s' => hitem w s r s') hrs hP
  have hmembers {cur : Cursor} {s s' : Session} {rs : List Rendering}
      (hrs : exec c (each (fun _ w => yielded (item w)) cur) s = .ok rs s')
      (hP : ∀ r ∈ rs, r.Throughout P) :
      exec c (each (fun _ w => yielded (item' w)) cur) s = .ok rs s' := by
    refine exec_each_of_forall (fun _ w s r s' h hr => ?_) hrs hP
    rw [exec_yielded, Ending.yielded_eq_ok] at h ⊢
    exact hitem w s r s' h hr
  cases k with
  | list | tuple =>
    rw [unfoldItems] at h ⊢
    obtain ⟨cur, s₁, hcur, h⟩ := exists_of_exec_bind h
    obtain ⟨rs, s₂, hrs, h⟩ := exists_of_exec_bind h
    have hthroughout : ∀ r ∈ rs, r.Throughout P := by
      obtain ⟨b, s₃, -, h⟩ := exists_of_exec_bind h
      split at h
      · obtain ⟨os, hos, rfl⟩ := exists_of_closed h
        exact forall_throughout_of_joinable hos (Outline.throughout_iff.mp hr).2
      · split at h
        next one =>
          obtain ⟨o, s₄, ho, h⟩ := exists_of_exec_bind h
          cases h
          have hparts := (Outline.throughout_iff.mp hr).2 o (List.mem_singleton.mpr rfl)
          exact List.forall_mem_singleton.mpr (throughout_of_embedded ho hparts)
        · obtain ⟨os, hos, rfl⟩ := exists_of_closed h
          exact forall_throughout_of_joinable hos (Outline.throughout_iff.mp hr).2
    rw [exec_bind, hcur, Ending.andThen_ok, exec_bind, heach hrs hthroughout, Ending.andThen_ok]
    exact h
  | set =>
    rw [unfoldItems] at h ⊢
    obtain ⟨cur, s₁, hcur, h⟩ := exists_of_exec_bind h
    obtain ⟨rs, s₂, hrs, h⟩ := exists_of_exec_bind h
    rw [exec_bind, hcur, Ending.andThen_ok, exec_bind]
    match rs with
    | [] =>
      rw [hmembers hrs nofun]
      exact h
    | r₁ :: rs =>
      obtain ⟨heap, s₃, hheap, h⟩ := exists_of_exec_bind h
      obtain ⟨hclosed, hthroughout⟩ := hsets _ _ _ _ _ h hr
      rw [hmembers hrs hthroughout, Ending.andThen_ok]
      dsimp only
      rw [exec_bind, hheap]
      exact hclosed
  | mapping =>
    rw [unfoldItems] at h ⊢
    obtain ⟨pairs?, s₁, hpairs, h⟩ := exists_of_exec_bind h
    rw [exec_bind, hpairs, Ending.andThen_ok]
    match pairs? with
    | none => exact h
    | some pairs =>
      obtain ⟨es, s₂, hes, h⟩ := exists_of_exec_bind h
      cases h
      have hparts := Outline.forall_mem_parts_mapping.mp (Outline.throughout_iff.mp hr).2
      have hes' := exec_mapM_of_forall (g := unfoldEntry item') (P := fun e =>
        e.1.Throughout P ∧ e.2.Throughout P)
        (fun pair s e s' h he => exec_unfoldEntry_of_throughout hitem h he.1 he.2) hes hparts
      dsimp only
      rw [exec_bind, hes']
      rfl

/-- Under known limits there are two reasons not to open a container. -/
theorem unfold_eq (line : LineLimit) (depth : Nat) (path : List Value) (v : Value) :
    unfold line depth path v = (do
      match ← appearance v with
      | .container =>
        if path.any v.identical then return .outline .circular
        match depth with
        | 0 => return .outline .cut
        | depth + 1 =>
          unfoldItems (.known line) (unfold line depth (v :: path)) v (← containerOf v)
      | a => return .value (← leafOf v a)) := by
  rw [unfold, unfoldWith.eq_def]
  cases depth <;> rfl

/-- **Unfolding does not depend on the line limit** as long as closing sets does not. -/
theorem exec_unfold_of_throughout {line line' : LineLimit} (hsets : ClosesSetsAlike c P line line')
    {depth : Nat} {path : List Value} {v : Value} {r : Rendering}
    (h : exec c (unfold line depth path v) s = .ok r s') (hr : r.Throughout P) :
    exec c (unfold line' depth path v) s = .ok r s' := by
  induction depth generalizing path v s s' r with
  | zero =>
    rw [unfold_eq] at h ⊢
    exact h
  | succ depth ih =>
    rw [unfold_eq] at h ⊢
    obtain ⟨a, s₁, ha, h⟩ := exists_of_exec_bind h
    rw [exec_bind, ha, Ending.andThen_ok]
    cases a with
    | primitive | cls | callable | other => exact h
    | container =>
      dsimp only at h ⊢
      split at h
      next hpath =>
        rw [if_pos hpath]
        exact h
      next hpath =>
        obtain ⟨k, s₂, hk, h⟩ := exists_of_exec_bind h
        rw [if_neg hpath, exec_bind, hk, Ending.andThen_ok]
        exact exec_unfoldItems_of_throughout hsets (fun _ _ _ _ h hr => ih h hr) h hr

/-- Unfolding does not depend on the line limit as long as no set has several members. -/
theorem exec_unfold_of_narrow {line : LineLimit} {depth : Nat} {path : List Value} {v : Value}
    {r : Rendering} (h : exec c (unfold line depth path v) s = .ok r s')
    (hr : r.Throughout Outline.IsNarrow) (line' : LineLimit) :
    exec c (unfold line' depth path v) s = .ok r s' :=
  exec_unfold_of_throughout (closesSetsAlike_of_length_le (fun _ => id) line line') h hr

/-! ## Texts -/

/-- The texts of a rendering under two line limits are the same but for spaces and line boundaries. -/
theorem unspaced_renderingValue {r : Rendering} (hr : r.Throughout Outline.IsNarrow)
    (line line' : LineLimit) : ∃ w w' s', exec c (renderingValue line r) s = .ok w s' ∧
      exec c (renderingValue line' r) s = .ok w' s' ∧
      w.text?.map (unspaced ·.toList) = w'.text?.map (unspaced ·.toList) := by
  cases r with
  | value v => exact ⟨v, v, s, rfl, rfl, rfl⟩
  | outline o =>
    have htext (o : Outline) (ho : o.Throughout Outline.IsNarrow) (id : Nat) :
        (Value.scalar (.kind .text) id (.text (String.ofList (o.layout line)))).text?.map
            (unspaced ·.toList) =
          (Value.scalar (.kind .text) id (.text (String.ofList (o.layout line')))).text?.map
            (unspaced ·.toList) := by
      simp only [Value.text?, Option.map_some, String.toList_ofList,
        Outline.unspaced_layout ho line line']
    cases o with
    | circular | cut => exact ⟨_, _, s, rfl, rfl, rfl⟩
    | leaf | list | tuple | set | arranged | mapping => exact ⟨_, _, _, rfl, rfl, htext _ hr _⟩

/-- One direction of `inspect_unspaced`. -/
theorem exists_inspect_unspaced {v options options' : Value} {line line' : LineLimit}
    {depth : Nat} (hoptions : s.heap.knownLimits? options = some ⟨line, depth⟩)
    (hoptions' : s.heap.knownLimits? options' = some ⟨line', depth⟩)
    (hv : ShowsOnly Outline.IsNarrow c s line depth v) {w : Value}
    (hw : exec c (inspect v options) s = .ok w s') :
    ∃ w', exec c (inspect v options') s = .ok w' s' ∧
      w.text?.map (unspaced ·.toList) = w'.text?.map (unspaced ·.toList) := by
  rw [exec_inspect hoptions] at hw
  obtain ⟨r, s₁, hr, hw⟩ := exists_of_exec_bind hw
  have hnarrow := hv r s₁ hr
  obtain ⟨w₁, w', s₂, hw₁, hw', htext⟩ := unspaced_renderingValue (c := c) (s := s₁) hnarrow line line'
  cases hw₁.symm.trans hw
  refine ⟨w', ?_, htext⟩
  rw [exec_inspect hoptions', renderValue, exec_bind, exec_unfold_of_narrow hr hnarrow line',
    Ending.andThen_ok, hw']

/-- **The line limit is a matter of layout.**  Two renderings of a value to the same depth, under two
line limits, are the same but for spaces and line boundaries: there is one under the one limit if there
is one under the other.  This holds whatever the value and its parts do when they are asked, as long as
no set with several members is shown. -/
theorem inspect_unspaced {v options options' : Value} {m n depth : Nat}
    (hoptions : s.heap.knownLimits? options = some ⟨.upTo m, depth⟩)
    (hoptions' : s.heap.knownLimits? options' = some ⟨.upTo n, depth⟩)
    (hv : ShowsOnly Outline.IsNarrow c s (.upTo m) depth v)
    (hv' : ShowsOnly Outline.IsNarrow c s (.upTo n) depth v) :
    (exec c (inspect v options) s).result?.map (·.text?.map (unspaced ·.toList)) =
      (exec c (inspect v options') s).result?.map (·.text?.map (unspaced ·.toList)) := by
  rcases hw : exec c (inspect v options) s with ⟨w, s₁⟩ | ⟨e, s₁⟩
  · obtain ⟨w', hw', htext⟩ := exists_inspect_unspaced hoptions hoptions' hv hw
    rw [hw']
    exact congrArg some htext
  · rcases hw' : exec c (inspect v options') s with ⟨w', s₂⟩ | ⟨e', s₂⟩
    · obtain ⟨w, hw'', -⟩ := exists_inspect_unspaced hoptions' hoptions hv' hw'
      cases hw.symm.trans hw''
    · rfl

end Run

/-! ### Two containers inside each other, and a set of pairs -/

/-- A session in which containers were made one after the other. -/
def Session.ofCells (cells : List Cell) : Session :=
  { Session.start with
    heap := { Heap.start with cells := cells.toArray, next := cells.length } }

/-- Options with two numbers as limits. -/
def Value.limits (threshold maxDepth : Nat) : Value :=
  .options (.kind .options) unidentified (.int threshold) (.int maxDepth)

/-- A predicate with a name. -/
def Value.named (name : String) : Value := .predicate 1 (.kept name) Facets.none (.leaf .any)

/-- A session in which containers were made one after the other, and in which the objects of a class of
texts are put into quotes where they stand inside a longer text. -/
def Session.quoted (cells : List Cell) : Session :=
  { Session.ofCells cells with
    heap := { (Session.ofCells cells).heap with
      declarations := #[⟨.kept "K", [.kind .text, .kind .object], .kind .text, [.kind .text]⟩]
      attributes := Heap.start.attributes ++
        [⟨.ofClass (.declared 0), Method.plainForm.name, .operation .inspect⟩]
      next := 5 } }

/-- A predicate whose name is a text of a class. -/
def namedBy (cls : Class) : Value := .predicate 1 ⟨"x", cls, 2⟩ Facets.none (.leaf .any)

/-- Two lists inside each other, with names in which lines are ended in several ways. -/
def crossedLists : List Cell :=
  [⟨.kind .list, .list [.ref 1, .named "is\ra\nname\u2028"]⟩,
    ⟨.kind .list, .list [.named "is_any", .ref 0]⟩]

namespace Run

theorem inspect_unspaced_crossedLists :
    let shown (n : Nat) :=
      exec (Ask.conduct .none 1) (inspect (.ref 0) (.limits n 8)) (.ofCells crossedLists)
    (shown 0).result?.map (·.text?.map (unspaced ·.toList)) =
      (shown 100).result?.map (·.text?.map (unspaced ·.toList)) := by
  have hlimits : (Session.ofCells crossedLists).heap.knownLimits? (.limits 0 8) =
      some ⟨.upTo 0, 8⟩ := by decide +kernel
  have hlimits' : (Session.ofCells crossedLists).heap.knownLimits? (.limits 100 8) =
      some ⟨.upTo 100, 8⟩ := by decide +kernel
  exact inspect_unspaced hlimits hlimits' (by decide +kernel) (by decide +kernel)

/-! ### A set of pairs -/

/-- The entries of a mapping, as a collection. -/
def sortedEntries : List Cell :=
  [⟨.kind .dict, .dict [(⟨.keptText "a", hashText "a"⟩, .keptText "a"),
      (⟨.keptText "b", hashText "b"⟩, .keptText "a longer text")]⟩,
    ⟨.kind (.listing .items false), .listing .items (.ref 0)⟩]

/-- The texts of the members of a set, before they are sorted. -/
def memberTexts? (line : LineLimit) : Rendering → Option (List (List Char))
  | .outline (.set _ items) => some (items.map (·.layout line))
  | _ => none

theorem mergeSort_pair (t u : List Char) :
    [t, u].mergeSort textLE = if textLE t u then [t, u] else [u, t] := by
  simp only [List.mergeSort, List.MergeSort.Internal.splitInTwo]
  simp [List.merge]

/-- A set with two members is shown with the smaller one of their texts first. -/
theorem exec_inspect_pair {c : Conduct} {s : Session} {v options : Value} {line : LineLimit}
    {depth : Nat} {t u : List Char}
    (hoptions : s.heap.knownLimits? options = some ⟨line, depth⟩)
    (hv : (exec c (unfold line depth [] v) s).result?.map (memberTexts? line) = some (some [t, u])) :
    (exec c (inspect v options) s).result?.map (·.text?.map (unspaced ·.toList)) =
      some (some (unspaced
        (bracket line '\x7b' '\x7d' (if textLE t u then [t, u] else [u, t])))) := by
  obtain ⟨r, hr, hr'⟩ := Option.map_eq_some_iff.mp hv
  rcases hunfold : exec c (unfold line depth [] v) s with ⟨r', s₁⟩ | ⟨e, s₁⟩
  · rw [hunfold] at hr
    cases hr
    match r, hr' with
    | .outline (.set typeName items), hr' =>
      have htexts : items.map (·.layout line) = [t, u] := Option.some.inj hr'
      have hlayout : (Outline.set typeName items).layout line =
          bracket line '\x7b' '\x7d' (if textLE t u then [t, u] else [u, t]) := by
        rw [Outline.layout, Outline.layoutAll_eq_map, htexts, mergeSort_pair]
        cases textLE t u <;> rfl
      rw [exec_inspect hoptions, renderValue, exec_bind, hunfold, ← hlayout]
      simp only [Ending.andThen_ok, renderingValue, ownText, exec_bind, exec_fresh, exec_pure,
        Ending.result?, Option.map_some, Value.text?, String.toList_ofList]
  · rw [hunfold] at hr
    cases hr

/-- The entries of a mapping are a set of pairs.  A pair that is broken has a line feed behind its
bracket, which goes before the characters of names, so it is shown first. -/
theorem inspect_order_differs :
    let shown (n : Nat) :=
      (exec (Ask.conduct .none 2) (inspect (.ref 1) (.limits n 8)) (.ofCells sortedEntries)).result?.map
        (·.text?.map (unspaced ·.toList))
    (Session.ofCells sortedEntries).heap.knownLimits? (.limits 100 8) = some ⟨.upTo 100, 8⟩ ∧
      (Session.ofCells sortedEntries).heap.knownLimits? (.limits 10 8) = some ⟨.upTo 10, 8⟩ ∧
      shown 100 = some (some "\x7b('a','a'),('b','alongertext')\x7d".toList) ∧
      shown 10 = some (some "\x7b('b','alongertext'),('a','a')\x7d".toList) ∧
      shown 100 ≠ shown 10 := by
  have hlimits (n : Nat) (h : n = 100 ∨ n = 10) :
      (Session.ofCells sortedEntries).heap.knownLimits? (.limits n 8) = some ⟨.upTo n, 8⟩ := by
    rcases h with rfl | rfl <;> decide +kernel
  have hshort : (exec (Ask.conduct .none 2) (unfold (.upTo 100) 8 [] (.ref 1))
      (.ofCells sortedEntries)).result?.map (memberTexts? (.upTo 100)) =
        some (some ["('a', 'a')".toList, "('b', 'a longer text')".toList]) := by
    decide +kernel
  have hlong : (exec (Ask.conduct .none 2) (unfold (.upTo 10) 8 [] (.ref 1))
      (.ofCells sortedEntries)).result?.map (memberTexts? (.upTo 10)) =
        some (some ["('a', 'a')".toList, "(\n  'b',\n  'a longer text'\n)".toList]) := by
    decide +kernel
  dsimp only
  rw [exec_inspect_pair (hlimits 100 (.inl rfl)) hshort,
    exec_inspect_pair (hlimits 10 (.inr rfl)) hlong]
  exact ⟨hlimits 100 (.inl rfl), hlimits 10 (.inr rfl), by decide +kernel⟩

end Run

end ValueShape
