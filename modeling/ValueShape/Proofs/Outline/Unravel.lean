import ValueShape.Proofs.Outline.Reveal

/-!
# Renderings that are not cut

Rendering comes to an end on every graph of values, and from a certain depth on it shows everything.

* `Run.inspect_unravels` says both: there is one outline without any cut that is shown to every depth
  that is large enough.  A container that is met inside itself is circular there.
* A collection of entries makes a pair anew whenever it is gone through, so it takes two levels where
  other containers take one: `Run.inspect_depth_differs`.
-/

set_option autoImplicit false

namespace ValueShape

open Run

namespace Scene

variable {σ : Scene} {path : List Value} {p : Node} {o : Outline}

/-- Nothing is cut in an outline without a cut. -/
theorem Unravels.throughout (h : σ.Unravels path p o) : o.Throughout (· ≠ .cut) := by
  induction h with
  | circular => exact .intro nofun nofun
  | @opened path p item _ _ ih =>
    exact Aspect.throughout_outline ((σ.look p).outline_ne item).2 ih

end Scene

namespace Run

variable {c : Conduct} {I : Session → Prop} {S : Value → Prop} {σ : Scene}

/-- **Rendering comes to an end on every graph of values**, to every depth and under every line limit.
There is one outline of a value without any cut, in which a container that is met inside itself is
circular.  It is the one that is shown if the depth is at least the number of containers, where
collections of entries count twice. -/
theorem inspect_unravels (hI : Session.Steadfast I) {s : Session} (hs : I s)
    (hσ : σ.Staged c I S s.heap.next) {cs : List Value}
    (hcs : ∀ v, S v → (σ v).isContainer = true → v ∈ cs ∧ v.identical v = true) {v : Value}
    (hv : S v) :
    ∃ o, σ.Unravels [] (.value v) o ∧ o.Throughout (· ≠ .cut) ∧
      ∀ options limits, s.heap.knownLimits? options = some limits →
        Settles c I s (inspect v options) fun w _ => w.text?.isSome = true ∧
          ((cs.map σ.weight).sum ≤ limits.maxDepth →
            w.text? = some (String.ofList (o.layout limits.threshold))) := by
  have hunravels {depth : Nat} (hdepth : (cs.map σ.weight).sum ≤ depth) :
      σ.Unravels [] (.value v) (σ.outline depth [] (.value v)) :=
    Scene.unravels_outline hσ.closed (fun v hv h => (hcs v hv h).2) (fun v hv h => (hcs v hv h).1) hv
      hdepth
  have hleast := hunravels (Nat.le_refl _)
  refine ⟨_, hleast, hleast.throughout, fun options limits hoptions => ?_⟩
  refine (settles_inspect_scene hI hσ hv hs (Nat.le_refl _) hoptions).mono fun w _ _ _ hw => ?_
  refine ⟨by rw [hw]; rfl, fun hdepth => ?_⟩
  rw [hw, (hunravels hdepth).unique hleast]

end Run

/-! ### A mapping with a collection of its own entries -/

/-- The entry of the mapping. -/
def loopedEntries : List Entry := [(⟨.keptText "a", hashText "a"⟩, .ref 2)]

/-- A mapping and two collections of its entries, one of which is a value of it. -/
def looped : List Cell :=
  [⟨.kind .dict, .dict loopedEntries⟩, ⟨.kind (.listing .items false), .listing .items (.ref 0)⟩,
    ⟨.kind (.listing .items false), .listing .items (.ref 0)⟩]

/-- What they show. -/
def loopedScene : Scene
  | .ref 0 => .mapping (loopedEntries.map fun e => (e.1.value, e.2))
  | .ref _ => .set (Kind.listing .items false).name.toList
      (loopedEntries.map fun e => .pair e.1.value e.2)
  | _ => .leaf (quote "a".toList)

/-- The values that are met there. -/
def loopedValues : List Value := [.ref 0, .ref 1, .ref 2, .keptText "a"]

theorem staged_loopedScene (n : Nat) : loopedScene.Staged (Ask.conduct .none 1)
    (Session.Stocked looped) (· ∈ loopedValues) n := by
  have hmem (P : Value → Prop) : (∀ v, v ∈ loopedValues → P v) ↔
      P (.ref 0) ∧ P (.ref 1) ∧ P (.ref 2) ∧ P (.keptText "a") := by
    simp only [loopedValues, List.forall_mem_cons, List.not_mem_nil, false_imp_iff, implies_true,
      and_true]
  refine Scene.staged_of_reveals (Session.lasting_stocked looped) ((hmem _).mpr ?_) ((hmem _).mpr ?_)
    ((hmem _).mpr ?_) ((hmem _).mpr ?_)
  · refine ⟨?_, ?_, ?_, List.forall_mem_nil _⟩ <;>
      simp [loopedScene, loopedEntries, Aspect.nodes, Node.Within, loopedValues]
  · exact ⟨rfl, rfl, rfl, rfl⟩
  · have hdict (s : Session) (hs : Session.Stocked looped s) :
        s.heap.HoldsEntries .dict 0 loopedEntries := hs.holdsEntries rfl
    have hitems (place : Nat) (hplace : place = 1 ∨ place = 2) (s : Session)
        (hs : Session.Stocked looped s) :
        s.heap.HoldsListing .items false place 0 loopedEntries := by
      rcases hplace with rfl | rfl <;> exact hs.holdsListing rfl rfl
    exact ⟨.dict (by decide) hdict, .items (hitems 1 (.inl rfl)), .items (hitems 2 (.inr rfl)),
      Session.Stocked.reveals_text looped .none 0 _ "a"⟩
  · exact ⟨Value.isOlder_ref n 0, Value.isOlder_ref n 1, Value.isOlder_ref n 2, Value.isOlder_text n "a"⟩

namespace Run

theorem inspect_unravels_looped :
    ∃ o, loopedScene.Unravels [] (.value (.ref 1)) o ∧ o.Throughout (· ≠ .cut) ∧
      ∀ options limits, (Session.ofCells looped).heap.knownLimits? options = some limits →
        Settles (Ask.conduct .none 1) (Session.Stocked looped) (.ofCells looped)
          (inspect (.ref 1) options) fun w _ => w.text?.isSome = true ∧
            (5 ≤ limits.maxDepth → w.text? = some (String.ofList (o.layout limits.threshold))) := by
  have hcs (v : Value) (hv : v ∈ loopedValues) (hcontainer : (loopedScene v).isContainer = true) :
      v ∈ [.ref 0, .ref 1, .ref 2] ∧ v.identical v = true := by
    simp only [loopedValues, List.mem_cons, List.not_mem_nil, or_false] at hv
    rcases hv with rfl | rfl | rfl | rfl
    · exact ⟨by simp, rfl⟩
    · exact ⟨by simp, rfl⟩
    · exact ⟨by simp, rfl⟩
    · cases hcontainer
  exact inspect_unravels (Session.lasting_stocked looped) (Session.stocked_ofCells (by simp [looped]))
    (staged_loopedScene _) hcs (by simp [loopedValues])

theorem inspect_depth_differs :
    let shown (depth : Nat) :=
      (exec (Ask.conduct .none 2) (inspect (.ref 1) (.limits 100 depth)) (.ofCells looped)).result?.map
        (·.text?)
    (Session.ofCells looped).heap.cells.size = 3 ∧
      (∀ depth ∈ [3, 4], (Session.ofCells looped).heap.knownLimits? (.limits 100 depth) =
        some ⟨.upTo 100, depth⟩) ∧
      shown 3 = some (some "\x7b('a', \x7b...\x7d)\x7d") ∧
      shown 4 = some (some "\x7b('a', \x7b('a', <circular>)\x7d)\x7d") ∧ shown 3 ≠ shown 4 := by
  decide +kernel

end Run

end ValueShape
