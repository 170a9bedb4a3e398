import ValueShape.Ask.Verdict
import ValueShape.Outline.Inspect
import ValueShape.Proofs.Build.Title

/-!
# Renderings that come to an end

What rendering asks of the values that it meets, and that it gives a text if they answer.

* `Value.Legible c I w` says that the value `w` is a text that can stand among others and inside a
  longer text, wherever the invariant `I` holds.
* `Value.Exhibits c I S v` says that the value `v` shows itself in one of three ways: by a text, by
  its items, or by its entries.  What stands inside it belongs to the set `S`, which may contain `v`
  itself: values may be inside themselves.
* `Run.settles_unfold` says that rendering such values settles, by induction on the levels of
  containers that are still shown.
-/

set_option autoImplicit false

namespace ValueShape

open Run

/-! ## Values that show themselves -/

/-- A value is a text that can stand among others and inside a longer text, wherever an invariant
holds. -/
structure Value.Legible (c : Conduct) (I : Session → Prop) (w : Value) : Prop where
  /-- It is a text. -/
  isText : w.text?.isSome = true
  /-- It is compared with other texts in the ordinary way. -/
  plain {s : Session} (hs : I s) : s.heap.isPlainText w = true
  /-- It can stand inside a longer text. -/
  formatted {s : Session} (hs : I s) : Settles c I s (formatted w) fun _ _ => True

/-- A text of the built-in class is legible. -/
theorem Value.Legible.of_text (c : Conduct) (I : Session → Prop) (id : Nat) (text : String) :
    (Value.scalar (.kind .text) id (.text text)).Legible c I :=
  ⟨rfl, fun _ => rfl, fun hs => .of_exec_self hs rfl trivial⟩

/-- What a value shows of itself, wherever an invariant holds.  The values that may stand inside it
are given. -/
inductive Value.Exhibits (c : Conduct) (I : Session → Prop) (S : Value → Prop) : Value → Prop
  /-- A value without parts is shown by a text. -/
  | leaf {v : Value} {a : Appearance} (ha : a ≠ .container)
      (happearance : ∀ s, I s → exec c (appearance v) s = .ok a s)
      (hleaf : ∀ s, I s → Settles c I s (leafOf v a) fun w _ => w.Legible c I) :
      Exhibits c I S v
  /-- A list, a tuple or a set shows its items. -/
  | items {v : Value} {k : Container} (hk : k ≠ .mapping)
      (happearance : ∀ s, I s → exec c (appearance v) s = .ok .container s)
      (hcontainer : ∀ s, I s → exec c (containerOf v) s = .ok k s)
      (htuple : ∀ s, I s → ∃ b, exec c (isOfKind v .tuple) s = .ok b s)
      (hclass : ∀ s, I s → Settles c I s (shownClass v) fun _ _ => True)
      (hitems : ∀ s, I s → ∃ (vs : List Value) (cur : Cursor), exec c (cursor v) s = .ok cur s ∧
        Run.Iterates c I (fun _ w => S w) vs cur ∧ HasRoom I vs.length cur) :
      Exhibits c I S v
  /-- A mapping shows its entries, or the name of its class if it cannot be read. -/
  | entries {v : Value} (happearance : ∀ s, I s → exec c (appearance v) s = .ok .container s)
      (hcontainer : ∀ s, I s → exec c (containerOf v) s = .ok .mapping s)
      (hname : ∀ s, I s → Settles c I s (do identified ((← heap).typeNameValue v)) fun w _ =>
        w.Legible c I)
      (hread : ∀ s, I s → Settles c I s (guarded (readParts .items v)) fun pairs? _ =>
        ∀ pairs, pairs? = some pairs → ∀ pair ∈ pairs, ∀ s', I s' →
          Settles c I s' (unpackTwo pair) fun entry _ => S entry.1 ∧ S entry.2) :
      Exhibits c I S v

/-- What has been rendered is an outline or a legible text. -/
def Rendering.Legible (c : Conduct) (I : Session → Prop) : Rendering → Prop
  | .value w => w.Legible c I
  | .outline _ => True

namespace Run

variable {c : Conduct} {I : Session → Prop} {s : Session} {S : Value → Prop}

/-! ## Items -/

/-- Legible items can be put between brackets. -/
theorem exec_joinable_of_legible {rs : List Rendering} (hrs : ∀ r ∈ rs, r.Legible c I)
    (place : Nat) : ∃ os, exec c (joinable place rs) s = .ok os s := by
  induction rs generalizing place with
  | nil => exact ⟨[], rfl⟩
  | cons r rs ih =>
    obtain ⟨hr, hrs⟩ := List.forall_mem_cons.mp hrs
    obtain ⟨os, hos⟩ := ih hrs (place + 1)
    cases r with
    | outline o => exact ⟨o :: os, by rw [joinable, exec_bind, hos]; rfl⟩
    | value w =>
      obtain ⟨text, htext⟩ := Option.isSome_iff_exists.mp hr.isText
      refine ⟨.leaf text.toList :: os, ?_⟩
      simp only [joinable, htext, exec_bind, hos]
      rfl

theorem settles_embedded_of_legible {r : Rendering} (hr : r.Legible c I) (hs : I s) :
    Settles c I s (embedded r) fun _ _ => True := by
  cases r with
  | outline o => exact .of_exec_self hs rfl trivial
  | value w => exact (hr.formatted hs).bind fun _ s' _ hs' _ => .of_exec_self hs' rfl trivial

theorem settles_closed {line : LineLimit} {rs : List Rendering} (hrs : ∀ r ∈ rs, r.Legible c I)
    (make : List Outline → Outline) (hs : I s) :
    Settles c I s (closed (.known line) make rs) fun r _ => r.Legible c I := by
  obtain ⟨os, hos⟩ := exec_joinable_of_legible (s := s) hrs 0
  have hclosed : exec c (closed (.known line) make rs) s = .ok (.outline (make os)) s := by
    rw [closed, exec_bind, hos]
    rfl
  exact .of_exec_self hs hclosed trivial

/-- The members of a set are texts of a class that compares them in the ordinary way, so nothing has
to be asked to sort them. -/
theorem settles_closedSet {line : LineLimit} {rs : List Rendering} (hrs : ∀ r ∈ rs, r.Legible c I)
    (typeName : List Char) (hs : I s) :
    Settles c I s (closedSet (.known line) typeName rs) fun r _ => r.Legible c I := by
  have hplain : (rs.map (sortKey line)).all s.heap.isPlainText = true := by
    rw [List.all_map, List.all_eq_true]
    intro r hr
    cases r with
    | outline o => rfl
    | value w => exact (hrs _ hr).plain hs
  rw [closedSet]
  refine .after (exec_heap c s) ?_
  change Settles c I s (if (rs.map (sortKey line)).all s.heap.isPlainText = true then _ else _) _
  rw [if_pos hplain]
  exact settles_closed hrs _ hs

/-! ## Values

A container goes one level down for what is inside, and at the last level it is cut.  So the
induction is on the levels that are left, and it does not matter whether values are inside
themselves. -/

/-- What rendering the items of a container needs of the rendering of each of them. -/
theorem settles_unfoldItems {line : LineLimit} {v : Value} {k : Container}
    {item : Value → Run Rendering}
    (hitem : ∀ w, S w → ∀ s, I s → Settles c I s (item w) fun r _ => r.Legible c I)
    (hv : v.Exhibits c I S) (happearance : exec c (appearance v) s = .ok .container s)
    (hk : exec c (containerOf v) s = .ok k s) (hs : I s) :
    Settles c I s (unfoldItems (.known line) item v k) fun r _ => r.Legible c I := by
  cases hv with
  | leaf ha happ =>
    rw [happ s hs] at happearance
    cases happearance
    exact absurd rfl ha
  | @items k' hk' _ hcontainer htuple hclass hitems =>
    rw [hcontainer s hs] at hk
    cases hk
    obtain ⟨vs, cur, hcur, hiterates, hroom⟩ := hitems s hs
    have heach (item' : Value → Run Rendering) (hitem' : ∀ w s' P, Settles c I s' (item w) P →
        Settles c I s' (item' w) P) : Settles c I s (each (fun _ w => item' w) cur) fun rs _ =>
        ∀ r ∈ rs, r.Legible c I := by
      refine (settles_each hiterates hroom (fun _ r => r.Legible c I)
        (fun _ _ _ w s' hw hs' => hitem' w s' _ (hitem w hw s' hs')) hs).mono fun rs _ _ _ hrs => ?_
      clear hiterates hroom
      induction hrs with
      | nil => exact nofun
      | cons hr _ ih => exact List.forall_mem_cons.mpr ⟨hr, ih⟩
    cases k with
    | mapping => exact absurd rfl hk'
    | list | tuple =>
      rw [unfoldItems]
      refine .after hcur ((heach item fun _ _ _ h => h).bind fun rs s₁ _ hs₁ hrs => ?_)
      obtain ⟨b, hb⟩ := htuple s₁ hs₁
      refine .after hb ?_
      cases b with
      | false => exact settles_closed hrs _ hs₁
      | true =>
        rw [if_neg (by decide)]
        split
        next one =>
          exact (settles_embedded_of_legible (hrs one (List.mem_singleton.mpr rfl)) hs₁).bind
            fun _ s₂ _ hs₂ _ => .of_exec_self hs₂ rfl trivial
        · exact settles_closed hrs _ hs₁
    | set =>
      rw [unfoldItems]
      refine .after hcur ((heach _ fun _ _ _ h => h.yielded).bind fun rs s₁ _ hs₁ hrs => ?_)
      split
      · exact (hclass s₁ hs₁).bind fun _ s₂ _ hs₂ _ => .of_exec_self hs₂ rfl trivial
      · exact .after (exec_heap c s₁) (settles_closedSet hrs _ hs₁)
  | entries _ hcontainer hname hread =>
    rw [hcontainer s hs] at hk
    cases hk
    rw [unfoldItems]
    refine (hread s hs).bind fun pairs? s₁ _ hs₁ hpairs => ?_
    cases pairs? with
    | none => exact (hname s₁ hs₁).bind fun w s₂ _ hs₂ hw => .of_exec_self hs₂ rfl hw
    | some pairs =>
      have hentry : ∀ pair ∈ pairs, ∀ s', I s' →
          Settles c I s' (unfoldEntry item pair) fun _ _ => True := by
        intro pair hpair s' hs'
        refine (hpairs pairs rfl pair hpair s' hs').bind fun entry s₂ _ hs₂ hentry => ?_
        obtain ⟨hkey, hvalue⟩ := hentry
        refine (hitem _ hkey s₂ hs₂).bind fun r s₃ _ hs₃ hr => ?_
        refine (settles_embedded_of_legible hr hs₃).bind fun _ s₄ _ hs₄ _ => ?_
        refine (hitem _ hvalue s₄ hs₄).bind fun r' s₅ _ hs₅ hr' => ?_
        exact (settles_embedded_of_legible hr' hs₅).bind fun _ s₆ _ hs₆ _ =>
          .of_exec_self hs₆ rfl trivial
      have hall : Settles c I s₁ (pairs.mapM (unfoldEntry item)) fun _ _ => True :=
        (settles_mapM (R := fun _ _ => True) hentry hs₁).mono fun _ _ _ _ _ => trivial
      refine hall.bind fun es s₂ _ hs₂ _ => ?_
      exact .of_exec_self hs₂ rfl trivial

theorem settles_unfold_leaf {v : Value} {a : Appearance} (ha : a ≠ .container)
    (happearance : exec c (appearance v) s = .ok a s)
    (hleaf : Settles c I s (leafOf v a) fun w _ => w.Legible c I) (line : LineLimit) (depth : Nat)
    (path : List Value) : Settles c I s (unfold line depth path v) fun r _ => r.Legible c I := by
  rw [unfold, unfoldWith.eq_def]
  refine .after happearance ?_
  cases a with
  | container => exact absurd rfl ha
  | primitive | cls | callable | other =>
    exact hleaf.bind fun w s' _ hs' hw => .of_exec_self hs' rfl hw

theorem settles_unfold_container {v : Value} {k : Container}
    (happearance : exec c (appearance v) s = .ok .container s)
    (hcontainer : exec c (containerOf v) s = .ok k s) (hs : I s) (line : LineLimit) (depth : Nat)
    (path : List Value)
    (hitems : ∀ depth', depth = depth' + 1 → Settles c I s
      (unfoldItems (.known line) (unfold line depth' (v :: path)) v k) fun r _ => r.Legible c I) :
    Settles c I s (unfold line depth path v) fun r _ => r.Legible c I := by
  rw [unfold, unfoldWith.eq_def]
  refine .after happearance ?_
  dsimp only
  split
  · exact .of_exec_self hs rfl trivial
  · refine .after (exec_pure c s false) ?_
    rw [if_neg Bool.false_ne_true]
    cases depth with
    | zero => exact .of_exec_self hs rfl trivial
    | succ depth' => exact .after hcontainer (hitems depth' rfl)

/-- **Rendering comes to an end.**  The induction is on the levels of containers that are still
shown; a value inside itself is cut off by these as well. -/
theorem settles_unfold (hS : ∀ v, S v → v.Exhibits c I S) (line : LineLimit) (depth : Nat)
    (path : List Value) {v : Value} (hv : S v) (hs : I s) :
    Settles c I s (unfold line depth path v) fun r _ => r.Legible c I := by
  induction depth generalizing path v s with
  | zero =>
    have hshows := hS v hv
    cases hshows with
    | leaf ha happearance hleaf =>
      exact settles_unfold_leaf ha (happearance s hs) (hleaf s hs) line 0 path
    | items _ happearance hcontainer | entries happearance hcontainer =>
      exact settles_unfold_container (happearance s hs) (hcontainer s hs) hs line 0 path nofun
  | succ depth ih =>
    have hshows := hS v hv
    have hitem : ∀ w, S w → ∀ s, I s →
        Settles c I s (unfold line depth (v :: path) w) fun r _ => r.Legible c I :=
      fun w hw s hs => ih (v :: path) hw hs
    cases hS v hv with
    | leaf ha happearance hleaf =>
      exact settles_unfold_leaf ha (happearance s hs) (hleaf s hs) line (depth + 1) path
    | items _ happearance hcontainer | entries happearance hcontainer =>
      refine settles_unfold_container (happearance s hs) (hcontainer s hs) hs line (depth + 1) path
        fun depth' hdepth => ?_
      cases hdepth
      exact settles_unfoldItems hitem hshows (happearance s hs) (hcontainer s hs) hs

/-- A rendering becomes a legible text. -/
theorem settles_renderingValue (hI : Session.Lasting I) {r : Rendering} (hr : r.Legible c I)
    (hs : I s) (line : LineLimit) :
    Settles c I s (renderingValue line r) fun w _ => w.Legible c I := by
  cases r with
  | value w => exact .of_exec_self hs rfl hr
  | outline o =>
    cases o with
    | cut | circular => exact .of_exec_self hs rfl (.of_text c I _ _)
    | _ => exact .of_exec hI hs rfl (.withNext (Nat.le_succ _)) (.of_text c I _ _)

theorem settles_renderValue (hI : Session.Lasting I) (hS : ∀ v, S v → v.Exhibits c I S)
    (o : RenderOptions) {v : Value} (hv : S v) (hs : I s) :
    Settles c I s (renderValue o v) fun w _ => w.Legible c I :=
  (settles_unfold hS o.threshold o.maxDepth [] hv hs).bind fun _ _ _ hs' hr =>
    settles_renderingValue hI hr hs' o.threshold

/-- Under no options, and under those that the library makes, rendering gives a text. -/
theorem settles_inspect (hI : Session.Lasting I) (hS : ∀ v, S v → v.Exhibits c I S) {v : Value}
    (hv : S v) {options : Value}
    (hoptions : options = .null ∨ ∀ s, I s → (s.heap.renderOptions? options).isSome = true)
    (hs : I s) : Settles c I s (inspect v options) fun w _ => w.Legible c I := by
  rw [inspect]
  refine .after (exec_heap c s) ?_
  rcases hoptions with rfl | hoptions
  · exact settles_renderValue hI hS .default hv hs
  · obtain ⟨o, ho⟩ := Option.isSome_iff_exists.mp (hoptions s hs)
    rw [ho]
    split
    · exact settles_renderValue hI hS .default hv hs
    next heq => cases heq; exact settles_renderValue hI hS o hv hs
    next heq => cases heq

end Run

end ValueShape
