import ValueShape.Proofs.Outline.Break
import ValueShape.Proofs.Outline.Order
import ValueShape.Proofs.Outline.Reveal

/-!
# Sets that are gone through in other orders

The order in which the members of sets are yielded does not show in a rendering.

* `Aspect.Reorders R a b` says that two aspects show nodes that are related by `R`, in the same order, or
  in any order if they are the members of a set.
* `Scene.Reorders σ σ' R` says that the values of two scenes correspond: they show aspects that reorder
  each other, and a container is recognized in one of the scenes if and only if it is in the other one.
* `Scene.Reorders.same` says that such scenes have the same outlines but for the order of the members of
  sets, to every depth.  Values may be inside themselves.
* `Run.inspect_eq_of_reorders` says that they have the same text.
* Texts that compare in their own way are put into an order that depends on the one they come in:
  `Run.inspect_members_differ`.
-/

set_option autoImplicit false

namespace ValueShape

open Run

/-- Two nodes have values that correspond in the same places. -/
inductive Node.Relates (R : Value → Value → Prop) : Node → Node → Prop
  /-- Two values. -/
  | value {v v' : Value} (h : R v v') : Relates R (.value v) (.value v')
  /-- Two pairs. -/
  | pair {k k' v v' : Value} (hkey : R k k') (hvalue : R v v') : Relates R (.pair k v) (.pair k' v')

namespace Aspect

/-- Two aspects show nodes that are related, and the order of the members of a set does not count. -/
inductive Reorders (R : Node → Node → Prop) : Aspect → Aspect → Prop
  /-- The same text. -/
  | leaf (text : List Char) : Reorders R (.leaf text) (.leaf text)
  /-- Two mappings that cannot be read. -/
  | sealed (typeName : List Char) : Reorders R (.sealed typeName) (.sealed typeName)
  /-- Two lists with items that are related, one after the other. -/
  | list {ps qs : List Node} (h : List.Forall₂ R ps qs) : Reorders R (.list ps) (.list qs)
  /-- Two tuples with items that are related, one after the other. -/
  | tuple {ps qs : List Node} (h : List.Forall₂ R ps qs) : Reorders R (.tuple ps) (.tuple qs)
  /-- Two sets with members that are related, in any order. -/
  | set (typeName : List Char) {ps qs rs : List Node} (h : List.Forall₂ R ps qs) (hperm : qs.Perm rs) :
      Reorders R (.set typeName ps) (.set typeName rs)
  /-- Two mappings with entries that are related, one after the other. -/
  | mapping {es es' : List (Value × Value)}
      (h : List.Forall₂ (fun e e' => R (.value e.1) (.value e'.1) ∧ R (.value e.2) (.value e'.2))
        es es') : Reorders R (.mapping es) (.mapping es')

variable {R : Node → Node → Prop} {a b : Aspect}

theorem Reorders.isContainer_eq (h : a.Reorders R b) : a.isContainer = b.isContainer := by
  cases h <;> rfl

/-- Outlines of what stands inside are put together to the same outline. -/
theorem Reorders.same (h : a.Reorders R b) {f g : Node → Outline}
    (hitem : ∀ p q, R p q → (f p).Same (g q)) : (a.outline f).Same (b.outline g) := by
  have hitems {ps qs : List Node} (h : List.Forall₂ R ps qs) :
      List.Forall₂ Outline.Same (ps.map f) (qs.map g) :=
    List.forall₂_map_left_iff.mpr (List.forall₂_map_right_iff.mpr (h.imp hitem))
  cases h with
  | leaf | sealed => exact .refl _
  | list h | tuple h => exact .of_forall₂ rfl (hitems h) (.inl rfl)
  | set typeName h hperm => exact .of_forall₂ rfl (hitems h) (.inr ⟨rfl, hperm.map g⟩)
  | mapping h =>
    refine .of_forall₂ rfl ?_ (.inl rfl)
    rw [parts_outline, parts_outline]
    refine hitems (List.rel_flatMap h fun e e' he => ?_)
    exact .cons he.1 (.cons he.2 .nil)

end Aspect

namespace Scene

/-- The values of two scenes correspond, and the order of the members of sets does not count. -/
structure Reorders (σ σ' : Scene) (R : Value → Value → Prop) : Prop where
  /-- They show what corresponds. -/
  aspect {v v' : Value} (h : R v v') : (σ v).Reorders (Node.Relates R) (σ' v')
  /-- Containers are the same if and only if those are that correspond to them. -/
  identical {v v' w w' : Value} (hv : R v v') (hw : R w w') (hopens : (σ v).isContainer = true)
    (hopens' : (σ w).isContainer = true) : v.identical w = v'.identical w'

/-- Two paths have containers that correspond. -/
def Tracks (σ : Scene) (R : Value → Value → Prop) : List Value → List Value → Prop :=
  List.Forall₂ fun u u' => R u u' ∧ (σ u).isContainer = true

namespace Reorders

variable {σ σ' : Scene} {R : Value → Value → Prop} {p p' : Node} {path path' : List Value}
  {depth : Nat} (h : σ.Reorders σ' R)
include h

theorem look (hp : p.Relates R p') : (σ.look p).Reorders (Node.Relates R) (σ'.look p') := by
  cases hp with
  | value hv => exact h.aspect hv
  | pair hkey hvalue => exact .tuple (.cons (.value hkey) (.cons (.value hvalue) .nil))

/-- What corresponds is recognized in both scenes or in none. -/
theorem isOn_eq (hp : p.Relates R p') (hopens : (σ.look p).isContainer = true)
    (hpath : σ.Tracks R path path') : p.isOn path = p'.isOn path' := by
  cases hp with
  | pair => rfl
  | value hv =>
    rw [Node.isOn, Node.isOn]
    induction hpath with
    | nil => rfl
    | cons hu _ ih => rw [List.any_cons, List.any_cons, ih, h.identical hv hu.1 hopens hu.2]

omit h in
/-- A container goes onto both paths. -/
theorem tracks_step (hp : p.Relates R p') (hopens : (σ.look p).isContainer = true)
    (hpath : σ.Tracks R path path') : σ.Tracks R (p.step path) (p'.step path') := by
  cases hp with
  | pair => exact hpath
  | value hv => exact .cons ⟨hv, hopens⟩ hpath

/-- What the outlines of a node need of what stands inside it, one level further down. -/
theorem same_of (hp : p.Relates R p') (hpath : σ.Tracks R path path')
    (hitem : ∀ d, depth = d + 1 → (σ.look p).isContainer = true → ∀ q q', q.Relates R q' →
      (σ.outline d (p.step path) q).Same (σ'.outline d (p'.step path') q')) :
    (σ.outline depth path p).Same (σ'.outline depth path' p') := by
  have hlook := h.look hp
  have hopens' := hlook.isContainer_eq.symm
  cases hopens : (σ.look p).isContainer with
  | false =>
    rw [hopens] at hopens'
    rw [outline_leaf hopens depth path fun _ => .cut, outline_leaf hopens' depth path' fun _ => .cut]
    exact hlook.same fun _ _ _ => .refl _
  | true =>
    have hon' := (h.isOn_eq hp hopens hpath).symm
    rw [hopens] at hopens'
    cases hon : p.isOn path with
    | true =>
      rw [outline_circular hopens hon, outline_circular hopens' (hon'.trans hon)]
      exact .refl _
    | false =>
      rw [hon] at hon'
      cases depth with
      | zero =>
        rw [outline_zero hopens hon, outline_zero hopens' hon']
        exact .refl _
      | succ d =>
        rw [outline_succ hopens hon, outline_succ hopens' hon']
        exact hlook.same (hitem d rfl hopens)

/-- **The order of the members of sets is all that differs** between what two scenes show to a depth, by
induction on the depth. -/
theorem same (depth : Nat) (hp : p.Relates R p') (hpath : σ.Tracks R path path') :
    (σ.outline depth path p).Same (σ'.outline depth path' p') := by
  induction depth generalizing p p' path path' with
  | zero => exact h.same_of hp hpath nofun
  | succ depth ih =>
    refine h.same_of hp hpath fun d hd hopens q q' hq => ?_
    cases hd
    exact ih hq (tracks_step hp hopens hpath)

end Reorders

end Scene

namespace Run

variable {c c' : Conduct} {I I' : Session → Prop} {S S' : Value → Prop} {σ σ' : Scene}
  {R : Value → Value → Prop}

/-- **Rendering does not depend on the order of the members of sets.**  Two values, wherever they are and
whatever is inside themselves, have the same text if they show the same but for the order in which sets
yield their members, on any level. -/
theorem inspect_eq_of_reorders (hI : Session.Steadfast I) (hI' : Session.Steadfast I') {s s' : Session}
    (hs : I s) (hs' : I' s') (hσ : σ.Staged c I S s.heap.next) (hσ' : σ'.Staged c' I' S' s'.heap.next)
    (hreorders : σ.Reorders σ' R) {v v' : Value} (hv : S v) (hv' : S' v') (hvv' : R v v')
    {options options' : Value} {o : RenderOptions}
    (hoptions : s.heap.knownLimits? options = some o)
    (hoptions' : s'.heap.knownLimits? options' = some o) :
    ∃ text, Settles c I s (inspect v options) (fun w _ => w.text? = some text) ∧
      Settles c' I' s' (inspect v' options') (fun w _ => w.text? = some text) := by
  have hsame : (σ.outline o.maxDepth [] (.value v)).Same (σ'.outline o.maxDepth [] (.value v')) :=
    hreorders.same o.maxDepth (.value hvv') .nil
  refine ⟨_, settles_inspect_scene hI hσ hv hs (Nat.le_refl _) hoptions, ?_⟩
  rw [hsame.layout_eq]
  exact settles_inspect_scene hI' hσ' hv' hs' (Nat.le_refl _) hoptions'

end Run

/-! ### Sets in two orders, in a list that contains itself

The same value in two sessions, which differ in how sets yield their members, as two runs of a
program may do. -/

/-- Two members of a set, in one of their two orders. -/
def inOrder {α : Type} (swapped : Bool) (a b : α) : List α := if swapped then [b, a] else [a, b]

theorem perm_inOrder {α : Type} (a b : α) : (inOrder false a b).Perm (inOrder true a b) := .swap b a []

/-- Two texts as keys. -/
def twoTexts (swapped : Bool) : List (Key Value) :=
  inOrder swapped ⟨.keptText "a", hashText "a"⟩ ⟨.keptText "b", hashText "b"⟩

/-- An immutable set of two texts. -/
def innerSet (swapped : Bool) : Value := .frozenSet (.kind .frozenSet) 5 (twoTexts swapped)

/-- This set as a key. -/
def innerKey (swapped : Bool) : Key Value :=
  ⟨innerSet swapped, .members ((twoTexts swapped).map (·.hash))⟩

/-- A set of this set and a text. -/
def outerSet (swapped : Bool) : Value :=
  .frozenSet (.kind .frozenSet) 6 (inOrder swapped (innerKey swapped) ⟨.keptText "a", hashText "a"⟩)

/-- A list of itself, a set in which there is a set, the keys of a mapping, and a mapping with a set as a
key and another one as a value. -/
def reordered (swapped : Bool) : List Cell :=
  [⟨.kind .list, .list [.ref 0, outerSet swapped, .ref 2, .ref 3]⟩,
    ⟨.kind .dict, .dict ((twoTexts swapped).map fun k => (k, .ref 0))⟩,
    ⟨.kind (.listing .keys false), .listing .keys (.ref 1)⟩,
    ⟨.kind .dict, .dict [(innerKey swapped, .ref 4)]⟩,
    ⟨.kind .set, .set (twoTexts swapped)⟩]

/-- A session with this list. -/
def reorderedSession (swapped : Bool) : Session := (Session.ofCells (reordered swapped)).withNext 7

/-- What is met there. -/
inductive Spot
  /-- The list. -/
  | whole
  /-- The set in which there is a set. -/
  | outer
  /-- The set in it. -/
  | inner
  /-- The keys of a mapping. -/
  | keys
  /-- The mapping with sets. -/
  | entries
  /-- The set that is a value. -/
  | members
  /-- The first text. -/
  | a
  /-- The second text. -/
  | b

/-- The value that is met. -/
def Spot.value (swapped : Bool) : Spot → Value
  | whole => .ref 0
  | outer => outerSet swapped
  | inner => innerSet swapped
  | keys => .ref 2
  | entries => .ref 3
  | members => .ref 4
  | a => .keptText "a"
  | b => .keptText "b"

/-- The nodes with given values. -/
def Spot.nodes (swapped : Bool) (spots : List Spot) : List Node :=
  spots.map fun spot => .value (spot.value swapped)

/-- What is shown there. -/
def reorderedScene (swapped : Bool) : Scene
  | .ref 0 => .list (Spot.nodes swapped [.whole, .outer, .keys, .entries])
  | .ref 2 => .set (Kind.listing .keys false).name.toList (Spot.nodes swapped (inOrder swapped .a .b))
  | .ref 3 => .mapping [(Spot.inner.value swapped, Spot.members.value swapped)]
  | .ref _ => .set Kind.set.name.toList (Spot.nodes swapped (inOrder swapped .a .b))
  | .frozenSet _ 6 _ =>
    .set Kind.frozenSet.name.toList (Spot.nodes swapped (inOrder swapped .inner .a))
  | .frozenSet .. => .set Kind.frozenSet.name.toList (Spot.nodes swapped (inOrder swapped .a .b))
  | .scalar _ _ (.text text) => .leaf (quote text.toList)
  | _ => .leaf []

/-- A value is met there. -/
def IsMet (swapped : Bool) (v : Value) : Prop := ∃ spot : Spot, v = spot.value swapped

theorem stocked_reorderedSession (swapped : Bool) :
    Session.Stocked (reordered swapped) (reorderedSession swapped) :=
  (Session.lasting_stocked _).notes (Session.stocked_ofCells (by simp [reordered]))
    (.withNext (by cases swapped <;> decide))

theorem isClosed_reorderedScene (swapped : Bool) :
    (reorderedScene swapped).IsClosed (IsMet swapped) := by
  have hnodes (spots : List Spot) : ∀ q ∈ Spot.nodes swapped spots, q.Within (IsMet swapped) :=
    List.forall_mem_map.mpr fun spot _ => ⟨spot, rfl⟩
  rintro v ⟨spot, rfl⟩
  cases spot with
  | whole | outer | inner | keys | members => exact hnodes _
  | entries => exact hnodes [.inner, .members]
  | a | b => exact nofun

section Reveals

variable (swapped : Bool)

/-- What a value reveals in this session. -/
abbrev RevealsThere (v : Value) (a : Aspect) : Prop :=
  v.Reveals (Ask.conduct .none 1) (Session.Stocked (reordered swapped)) a

theorem reveals_whole : RevealsThere swapped (.ref 0)
    (.list ([.ref 0, outerSet swapped, .ref 2, .ref 3].map .value)) :=
  .list (k := .list) (by decide) (fun _ hs => hs.isOrdinary rfl) fun _ hs => hs.contents? rfl

theorem reveals_frozenSet (id : Nat) (ms : List (Key Value)) :
    RevealsThere swapped (.frozenSet (.kind .frozenSet) id ms)
      (.set Kind.frozenSet.name.toList (ms.map (.value ·.value))) :=
  .frozenSet fun _ hs => hs.1.isOrdinary rfl

theorem reveals_keys : RevealsThere swapped (.ref 2)
    (.set (Kind.listing .keys false).name.toList
      (((twoTexts swapped).map fun k => (k, Value.ref 0)).map (.value ·.1.value))) :=
  .keys fun _ hs => hs.holdsListing rfl rfl

theorem reveals_entries : RevealsThere swapped (.ref 3)
    (.mapping ([(innerKey swapped, Value.ref 4)].map fun e => (e.1.value, e.2))) :=
  .dict (k := .dict) (by decide) fun _ hs => hs.holdsEntries rfl

theorem reveals_members : RevealsThere swapped (.ref 4)
    (.set Kind.set.name.toList ((twoTexts swapped).map (.value ·.value))) :=
  .set (fun _ hs => hs.isOrdinary rfl) fun _ hs => hs.contents? rfl

theorem reveals_spot (spot : Spot) :
    RevealsThere swapped (spot.value swapped) (reorderedScene swapped (spot.value swapped)) := by
  cases spot with
  | whole => exact reveals_whole swapped
  | outer => cases swapped <;> exact reveals_frozenSet _ 6 _
  | inner => cases swapped <;> exact reveals_frozenSet _ 5 _
  | keys => cases swapped <;> exact reveals_keys _
  | entries => exact reveals_entries swapped
  | members => cases swapped <;> exact reveals_members _
  | a => exact Session.Stocked.reveals_text _ .none 0 _ "a"
  | b => exact Session.Stocked.reveals_text _ .none 0 _ "b"

theorem staged_reorderedScene (n : Nat) :
    (reorderedScene swapped).Staged (Ask.conduct .none 1) (Session.Stocked (reordered swapped))
      (IsMet swapped) n := by
  refine Scene.staged_of_reveals (Session.lasting_stocked (reordered swapped))
    (isClosed_reorderedScene swapped) ?_ ?_ ?_
  all_goals rintro v ⟨spot, rfl⟩
  · cases spot <;> rfl
  · exact reveals_spot swapped spot
  · intro cls id items h
    cases spot <;> cases h

end Reveals

theorem reorders_reorderedScene : (reorderedScene false).Reorders (reorderedScene true)
    fun v v' => ∃ spot : Spot, v = spot.value false ∧ v' = spot.value true where
  aspect := by
    have hnodes (spots : List Spot) : List.Forall₂ (Node.Relates fun v v' =>
        ∃ spot : Spot, v = spot.value false ∧ v' = spot.value true)
        (Spot.nodes false spots) (Spot.nodes true spots) :=
      List.forall₂_map_left_iff.mpr (List.forall₂_map_right_iff.mpr
        (List.forall₂_same.mpr fun spot _ => .value ⟨spot, rfl, rfl⟩))
    rintro v v' ⟨spot, rfl, rfl⟩
    cases spot with
    | whole => exact .list (hnodes _)
    | outer | inner | keys | members => exact .set _ (hnodes _) ((perm_inOrder _ _).map _)
    | entries => exact .mapping (.cons ⟨.value ⟨.inner, rfl, rfl⟩, .value ⟨.members, rfl, rfl⟩⟩ .nil)
    | a | b => exact .leaf _
  identical := by
    rintro v v' w w' ⟨spot, rfl, rfl⟩ ⟨spot', rfl, rfl⟩ _ _
    cases spot <;> cases spot' <;> rfl

namespace Run

theorem inspect_eq_of_reorders_twoOrders :
    ∃ text, Settles (Ask.conduct .none 1) (Session.Stocked (reordered false)) (reorderedSession false)
        (inspect (.ref 0) (.limits 20 8)) (fun w _ => w.text? = some text) ∧
      Settles (Ask.conduct .none 1) (Session.Stocked (reordered true)) (reorderedSession true)
        (inspect (.ref 0) (.limits 20 8)) (fun w _ => w.text? = some text) := by
  have hlimits (swapped : Bool) :
      (reorderedSession swapped).heap.knownLimits? (.limits 20 8) = some ⟨.upTo 20, 8⟩ := by
    cases swapped <;> decide +kernel
  exact inspect_eq_of_reorders (Session.lasting_stocked (reordered false))
    (Session.lasting_stocked (reordered true)) (stocked_reorderedSession false)
    (stocked_reorderedSession true) (staged_reorderedScene false _) (staged_reorderedScene true _)
    reorders_reorderedScene ⟨.whole, rfl⟩ ⟨.whole, rfl⟩ ⟨.whole, rfl, rfl⟩ (hlimits false)
    (hlimits true)

end Run

/-! ### A name that is not less than any other one -/

/-- A predicate with a name, as a key. -/
def nameKey (id : Nat) (name : String) (cls : Class) : Key Value :=
  let v : Value := .predicate id ⟨name, cls, id + 1⟩ Facets.none (.leaf .any)
  ⟨v, v.identityHash⟩

/-- A session with the keys of a mapping, which are two predicates.  The name of one of them belongs to a
class of texts that are not less than any other text. -/
def namesSession (swapped : Bool) : Session :=
  .withMethod .less (.builtin 4 .callable)
    [⟨.kind .dict, .dict ((inOrder swapped (nameKey 5 "a" (.declared 0))
        (nameKey 7 "b" (.kind .text))).map fun k => (k, .int 1))⟩,
      ⟨.kind (.listing .keys false), .listing .keys (.ref 0)⟩]

namespace Run

/-- The members stay in the order in which they come. -/
theorem inspect_members_differ :
    let shown (swapped : Bool) :=
      (exec (Ask.conduct .none 2) (inspect (.ref 1) (.limits 20 8)) (namesSession swapped)).result?.map
        (·.text?)
    (∀ swapped, (namesSession swapped).heap.knownLimits? (.limits 20 8) = some ⟨.upTo 20, 8⟩) ∧
      shown false = some (some "\x7ba, b\x7d") ∧ shown true = some (some "\x7bb, a\x7d") ∧
      shown false ≠ shown true := by
  decide +kernel

end Run

end ValueShape
