import ValueShape.Proofs.Outline.Order
import ValueShape.Proofs.Outline.Reveal

/-!
# Renderings of what is visible

The rendering of a value that is not inside itself depends on what is visible of it, and not on which
of its parts are the same.

* `Run.inspect_eq_of_same` says that two values have the same text, wherever they are, if their trees are
  the same to the depth that is shown.  The order of the members of sets does not count.
* The texts of leaves have to stand for themselves inside longer texts: `Run.inspect_leaf_differs` shows
  two names with the same characters, one of which is another text inside a longer one.
-/

set_option autoImplicit false

namespace ValueShape

open Run

namespace Scene

variable {σ : Scene}

/-- Nothing is inside itself if there is a rank that becomes smaller on the way down. -/
theorem isAcyclic_of_rank (rank : Node → Nat) (h : ∀ p q, σ.Holds p q → rank q < rank p) (p : Node) :
    σ.IsAcyclic p := by
  have hlt {p q : Node} (hpq : Relation.TransGen σ.Holds p q) : rank q < rank p := by
    induction hpq with
    | single hpq => exact h _ _ hpq
    | tail _ hpq ih => exact Nat.lt_trans (h _ _ hpq) ih
  exact fun q _ hq => Nat.lt_irrefl _ (hlt hq)

end Scene

namespace Run

variable {c c' : Conduct} {I I' : Session → Prop} {S S' : Value → Prop} {σ σ' : Scene}

/-- A value that is not inside itself is shown as its tree. -/
theorem settles_inspect_tree (hI : Session.Steadfast I) {s : Session} (hs : I s)
    (hσ : σ.Staged c I S s.heap.next)
    (heq : ∀ v w, S v → S w → (σ v).isContainer = true → v.identical w = true → v = w) {v : Value}
    (hv : S v) (hacyclic : σ.IsAcyclic (.value v)) {options : Value} {o : RenderOptions}
    (hoptions : s.heap.knownLimits? options = some o) :
    Settles c I s (inspect v options) fun w _ => w.text? =
      some (String.ofList ((σ.tree o.maxDepth (.value v)).layout o.threshold)) := by
  have htree : σ.outline o.maxDepth [] (.value v) = σ.tree o.maxDepth (.value v) :=
    Scene.outline_eq_tree hσ.closed heq o.maxDepth hv hacyclic nofun
  rw [← htree]
  exact settles_inspect_scene hI hσ hv hs (Nat.le_refl _) hoptions

/-- **Rendering depends on what is visible.**  Two values that are not inside themselves, wherever they
are and whatever they share, have the same text if their trees are the same to the depth that is shown.
Nothing is circular in it. -/
theorem inspect_eq_of_same (hI : Session.Steadfast I) (hI' : Session.Steadfast I') {s s' : Session}
    (hs : I s) (hs' : I' s') (hσ : σ.Staged c I S s.heap.next) (hσ' : σ'.Staged c' I' S' s'.heap.next)
    (heq : ∀ v w, S v → S w → (σ v).isContainer = true → v.identical w = true → v = w)
    (heq' : ∀ v w, S' v → S' w → (σ' v).isContainer = true → v.identical w = true → v = w)
    {v v' : Value} (hv : S v) (hv' : S' v') (hacyclic : σ.IsAcyclic (.value v))
    (hacyclic' : σ'.IsAcyclic (.value v')) {options options' : Value} {o : RenderOptions}
    (hoptions : s.heap.knownLimits? options = some o)
    (hoptions' : s'.heap.knownLimits? options' = some o)
    (hsame : (σ.tree o.maxDepth (.value v)).Same (σ'.tree o.maxDepth (.value v'))) :
    ∃ text, Settles c I s (inspect v options) (fun w _ => w.text? = some text) ∧
      Settles c' I' s' (inspect v' options') (fun w _ => w.text? = some text) ∧
      ∃ outline : Outline, outline.Throughout (· ≠ .circular) ∧
        text = String.ofList (outline.layout o.threshold) := by
  refine ⟨_, settles_inspect_tree hI hs hσ heq hv hacyclic hoptions, ?_, _,
    Scene.throughout_tree o.maxDepth (.value v), rfl⟩
  rw [hsame.layout_eq]
  exact settles_inspect_tree hI' hs' hσ' heq' hv' hacyclic' hoptions'

end Run

/-! ### Two lists, and the same list twice -/

/-- A list with a text, and a list with this list twice. -/
def sharedLists : List Cell :=
  [⟨.kind .list, .list [.keptText "a"]⟩, ⟨.kind .list, .list [.ref 0, .ref 0]⟩]

/-- Two lists with a text, and a list with these lists. -/
def unsharedLists : List Cell :=
  [⟨.kind .list, .list [.keptText "a"]⟩, ⟨.kind .list, .list [.keptText "a"]⟩,
    ⟨.kind .list, .list [.ref 0, .ref 1]⟩]

/-- What lists in cells show, where everything else is the same text. -/
def listScene (cells : List Cell) : Scene
  | .ref place =>
    match cells[place]? with
    | some ⟨_, .list items⟩ => .list (items.map .value)
    | _ => .leaf (quote "a".toList)
  | _ => .leaf (quote "a".toList)

/-- A list and the text, as far as lists are at given places. -/
def isListed (places : List Nat) (v : Value) : Prop :=
  v = .keptText "a" ∨ ∃ place ∈ places, v = .ref place

section ListScene

variable {cells : List Cell} {places : List Nat} {place : Nat} {items : List Value}

theorem listScene_ref (h : cells[place]? = some ⟨.kind .list, .list items⟩) :
    listScene cells (.ref place) = .list (items.map .value) := by
  rw [listScene, h]

theorem staged_listScene (places : List Nat)
    (hcells : ∀ place ∈ places, ∃ items, cells[place]? = some ⟨.kind .list, .list items⟩ ∧
      ∀ v ∈ items, isListed places v) (n : Nat) :
    (listScene cells).Staged (Ask.conduct .none 1) (Session.Stocked cells) (isListed places) n := by
  refine Scene.staged_of_reveals (Session.lasting_stocked cells) ?_ ?_ ?_ ?_
  all_goals
    rintro v (rfl | ⟨place, hplace, rfl⟩)
  · exact nofun
  · obtain ⟨items, hitems, hclosed⟩ := hcells place hplace
    rw [listScene_ref hitems]
    exact List.forall_mem_map.mpr hclosed
  · rfl
  · rfl
  · exact Session.Stocked.reveals_text cells .none 0 _ "a"
  · obtain ⟨items, hitems, -⟩ := hcells place hplace
    rw [listScene_ref hitems]
    exact .list (k := .list) (by decide) (fun s hs => hs.isOrdinary hitems)
      fun s hs => hs.contents? hitems
  · exact nofun
  · exact nofun

/-- Lists are told from each other by their places. -/
theorem eq_of_identical_listed {v w : Value} (hv : isListed places v) (hw : isListed places w)
    (hcontainer : (listScene cells v).isContainer = true) (hvw : v.identical w = true) : v = w := by
  rcases hv with rfl | ⟨place, -, rfl⟩
  · cases hcontainer
  · rcases hw with rfl | ⟨place', -, rfl⟩
    · cases hvw
    · rw [beq_iff_eq.mp hvw]

/-- How high a value stands, where lists are above those that were made before them. -/
def listHeight : Value → Nat
  | .ref place => place + 1
  | _ => 0

/-- How high a node stands. -/
def nodeHeight : Node → Nat
  | .value v => listHeight v
  | .pair key value => listHeight key + listHeight value + 1

theorem isAcyclic_listScene (hcells : ∀ place < cells.length, ∀ cls items,
      cells[place]? = some ⟨cls, .list items⟩ → items.all (listHeight · ≤ place) = true) (p : Node) :
    (listScene cells).IsAcyclic p := by
  refine Scene.isAcyclic_of_rank nodeHeight (fun p q hpq => ?_) p
  rw [Scene.Holds] at hpq
  cases p with
  | pair key value =>
    simp only [Scene.look, Aspect.nodes, List.mem_cons, List.not_mem_nil, or_false] at hpq
    rcases hpq with rfl | rfl <;> simp only [nodeHeight] <;> omega
  | value v =>
    cases v with
    | ref place =>
      rw [Scene.look, listScene] at hpq
      split at hpq
      next cls items hitems =>
        obtain ⟨v, hv, rfl⟩ := List.mem_map.mp hpq
        have hlt := (List.getElem?_eq_some_iff.mp hitems).1
        have hle := List.all_eq_true.mp (hcells place hlt cls items hitems) v hv
        exact Nat.lt_succ_of_le (of_decide_eq_true hle)
      · cases hpq
    | _ => cases hpq

end ListScene

namespace Run

theorem inspect_eq_of_same_shared :
    ∃ text, Settles (Ask.conduct .none 1) (Session.Stocked sharedLists) (.ofCells sharedLists)
        (inspect (.ref 1) (.limits 20 8)) (fun w _ => w.text? = some text) ∧
      Settles (Ask.conduct .none 1) (Session.Stocked unsharedLists) (.ofCells unsharedLists)
        (inspect (.ref 2) (.limits 20 8)) (fun w _ => w.text? = some text) ∧
      ∃ outline : Outline, outline.Throughout (· ≠ .circular) ∧
        text = String.ofList (outline.layout (.upTo 20)) := by
  have hlimits : (Session.ofCells sharedLists).heap.knownLimits? (.limits 20 8) =
      some ⟨.upTo 20, 8⟩ := by decide +kernel
  have hlimits' : (Session.ofCells unsharedLists).heap.knownLimits? (.limits 20 8) =
      some ⟨.upTo 20, 8⟩ := by decide +kernel
  have hacyclic : (listScene sharedLists).IsAcyclic (.value (.ref 1)) := by
    refine isAcyclic_listScene (fun place hplace cls items hitems => ?_) _
    match place, hplace with
    | 0, _ | 1, _ =>
      cases hitems
      rfl
  have hacyclic' : (listScene unsharedLists).IsAcyclic (.value (.ref 2)) := by
    refine isAcyclic_listScene (fun place hplace cls items hitems => ?_) _
    match place, hplace with
    | 0, _ | 1, _ | 2, _ =>
      cases hitems
      rfl
  have htree : (listScene sharedLists).tree 8 (.value (.ref 1)) =
      (listScene unsharedLists).tree 8 (.value (.ref 2)) := rfl
  exact inspect_eq_of_same (Session.lasting_stocked sharedLists)
    (Session.lasting_stocked unsharedLists) (Session.stocked_ofCells (by simp [sharedLists]))
    (Session.stocked_ofCells (by simp [unsharedLists]))
    (staged_listScene [0, 1] (by simp [sharedLists, isListed]) _)
    (staged_listScene [0, 1, 2] (by simp [unsharedLists, isListed]) _)
    (fun v w => eq_of_identical_listed) (fun v w => eq_of_identical_listed)
    (.inr ⟨1, by decide, rfl⟩) (.inr ⟨2, by decide, rfl⟩) hacyclic hacyclic' hlimits hlimits'
    (htree ▸ .refl _)

end Run

/-! ### Two names with the same characters -/

namespace Run

theorem inspect_leaf_differs :
    let shown (v : Value) :=
      (exec (Ask.conduct .none 2) (inspect v .null) (.quoted [])).result?.map (·.text?)
    shown (namedBy (.declared 0)) = some (some "x") ∧ shown (namedBy (.kind .text)) = some (some "x") ∧
      shown (.tuple (.kind .tuple) 3 [namedBy (.declared 0)]) = some (some "('x',)") ∧
      shown (.tuple (.kind .tuple) 4 [namedBy (.kind .text)]) = some (some "(x,)") ∧
      shown (.tuple (.kind .tuple) 3 [namedBy (.declared 0)]) ≠
        shown (.tuple (.kind .tuple) 4 [namedBy (.kind .text)]) := by
  decide +kernel

end Run

end ValueShape
