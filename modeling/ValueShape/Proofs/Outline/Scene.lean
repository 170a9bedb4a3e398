import Mathlib.Algebra.GroupWithZero.Nat
import Mathlib.Logic.Relation
import ValueShape.Outline.Unfold
import ValueShape.Proofs.Outline.Spacing

/-!
# Graphs of values

What there is to be shown of values that may be shared and may be inside themselves, apart from how
they are asked for it.

* A `Scene` says of each value which `Aspect` it shows of itself: a text, its items or its entries.  What
  stands inside a value is a `Node`: another value, or a pair that a collection of entries makes anew
  each time it is gone through.
* `Scene.outline` shows a node to a depth, inside the containers of a path.  A container that is on the
  path is circular, and this goes before the cut.
* `Scene.Unravels` relates a node to what is shown of it without any cut.  `Scene.unravels_outline` says
  that this is what is shown to every depth from a certain one on: each container that is opened is on
  the path from then on, so the containers that are left become fewer.
* `Scene.tree` shows a node without knowing which values are the same.  `Scene.outline_eq_tree` says that
  this makes no difference if nothing is inside itself.
-/

set_option autoImplicit false

namespace ValueShape

/-! ## Nodes and aspects

A scene is a graph, and what is shown of it is a function of nodes.  Sessions come in only when it
is said which values stand for the nodes. -/

/-- What stands inside a container. -/
inductive Node
  /-- A value. -/
  | value (v : Value)
  /-- A pair of values, which is made anew whenever the container is gone through. -/
  | pair (key value : Value)

namespace Node

/-- Whether a node is made anew. -/
def isPair : Node → Bool
  | value _ => false
  | pair .. => true

/-- Whether a node is one of the containers of a path. -/
def isOn (path : List Value) : Node → Bool
  | value v => path.any v.identical
  | pair .. => false

/-- The path inside a node.  What is made anew is never met again, so it can be left out. -/
def step (path : List Value) : Node → List Value
  | value v => v :: path
  | pair .. => path

/-- The values of a node belong to a set. -/
def Within (S : Value → Prop) : Node → Prop
  | value v => S v
  | pair k v => S k ∧ S v

theorem Within.mono {S T : Value → Prop} {q : Node} (h : q.Within S) (hST : ∀ v, S v → T v) :
    q.Within T := by
  cases q with
  | value v => exact hST v h
  | pair k v => exact ⟨hST k h.1, hST v h.2⟩

end Node

/-- What a value shows of itself. -/
inductive Aspect
  /-- A text. -/
  | leaf (text : List Char)
  /-- A mapping that cannot be read, which shows the name of its class. -/
  | sealed (typeName : List Char)
  /-- A list. -/
  | list (nodes : List Node)
  /-- A tuple. -/
  | tuple (nodes : List Node)
  /-- A set. -/
  | set (typeName : List Char) (nodes : List Node)
  /-- A mapping. -/
  | mapping (entries : List (Value × Value))

namespace Aspect

/-- Whether something is a container. -/
def isContainer : Aspect → Bool
  | leaf _ => false
  | _ => true

/-- What stands directly inside. -/
def nodes : Aspect → List Node
  | leaf _ | sealed _ => []
  | list nodes | tuple nodes | set _ nodes => nodes
  | mapping entries => entries.flatMap fun e => [.value e.1, .value e.2]

/-- The outline, if what stands inside has outlines. -/
def outline (item : Node → Outline) : Aspect → Outline
  | leaf text | sealed text => .leaf text
  | list nodes => .list (nodes.map item)
  | tuple nodes => .tuple (nodes.map item)
  | set typeName nodes => .set typeName (nodes.map item)
  | mapping entries => .mapping (entries.map fun e => (item (.value e.1), item (.value e.2)))

theorem forall_mem_nodes_mapping {P : Node → Prop} {entries : List (Value × Value)} :
    (∀ q ∈ (mapping entries).nodes, P q) ↔ ∀ e ∈ entries, P (.value e.1) ∧ P (.value e.2) := by
  simp only [nodes, List.forall_mem_flatMap, List.forall_mem_cons, List.not_mem_nil, false_imp_iff,
    implies_true, and_true]

/-- The outline depends on the outlines of what stands inside. -/
theorem outline_congr {a : Aspect} {f g : Node → Outline} (h : ∀ q ∈ a.nodes, f q = g q) :
    a.outline f = a.outline g := by
  cases a with
  | leaf | sealed => rfl
  | list nodes => exact congrArg Outline.list (List.map_congr_left h)
  | tuple nodes => exact congrArg Outline.tuple (List.map_congr_left h)
  | set typeName nodes => exact congrArg (Outline.set typeName) (List.map_congr_left h)
  | mapping entries =>
    refine congrArg Outline.mapping (List.map_congr_left fun e he => ?_)
    obtain ⟨hkey, hvalue⟩ := forall_mem_nodes_mapping.mp h e he
    rw [hkey, hvalue]

theorem outline_ne (a : Aspect) (item : Node → Outline) :
    a.outline item ≠ .circular ∧ a.outline item ≠ .cut := by
  cases a <;> exact ⟨nofun, nofun⟩

theorem parts_outline (a : Aspect) (item : Node → Outline) :
    (a.outline item).parts = a.nodes.map item := by
  cases a with
  | leaf | sealed | list | tuple | set => rfl
  | mapping entries =>
    simp only [outline, Outline.parts, nodes, List.flatMap_map, List.map_flatMap, List.map_cons,
      List.map_nil]

theorem throughout_outline {P : Outline → Prop} {a : Aspect} {item : Node → Outline}
    (ha : P (a.outline item)) (h : ∀ q ∈ a.nodes, (item q).Throughout P) :
    (a.outline item).Throughout P := by
  refine .intro ha ?_
  rw [parts_outline]
  exact List.forall_mem_map.mpr h

end Aspect

/-- What each value shows of itself. -/
abbrev Scene := Value → Aspect

namespace Scene

variable (σ : Scene)

/-- What a node shows of itself.  A pair shows its two values. -/
def look : Node → Aspect
  | .value v => σ v
  | .pair key value => .tuple [.value key, .value value]

/-- What is shown of a node inside the containers of a path, to a depth. -/
def outline (depth : Nat) (path : List Value) (p : Node) : Outline :=
  if (σ.look p).isContainer then
    if p.isOn path then .circular
    else match depth with
      | 0 => .cut
      | depth + 1 => (σ.look p).outline (outline depth (p.step path))
  else (σ.look p).outline fun _ => .cut

/-- What is shown of a node to a depth, if nothing is ever recognized. -/
def tree (depth : Nat) (p : Node) : Outline :=
  if (σ.look p).isContainer then
    match depth with
    | 0 => .cut
    | depth + 1 => (σ.look p).outline (tree depth)
  else (σ.look p).outline fun _ => .cut

/-- What is inside the values of a set belongs to this set. -/
def IsClosed (S : Value → Prop) : Prop := ∀ v, S v → ∀ q ∈ (σ v).nodes, q.Within S

variable {σ} {S : Value → Prop} {path : List Value} {p : Node}

theorem IsClosed.within (hS : σ.IsClosed S) (hp : p.Within S) :
    ∀ q ∈ (σ.look p).nodes, q.Within S := by
  cases p with
  | value v => exact hS v hp
  | pair key value => exact List.forall_mem_cons.mpr ⟨hp.1, List.forall_mem_singleton.mpr hp.2⟩

theorem nodes_eq_nil (hp : (σ.look p).isContainer = false) : (σ.look p).nodes = [] := by
  cases h : σ.look p with
  | leaf => rfl
  | _ =>
    rw [h] at hp
    cases hp

theorem outline_leaf (hp : (σ.look p).isContainer = false) (depth : Nat) (path : List Value)
    (item : Node → Outline) : σ.outline depth path p = (σ.look p).outline item := by
  rw [outline.eq_def, if_neg (Bool.eq_false_iff.mp hp)]
  refine Aspect.outline_congr ?_
  rw [nodes_eq_nil hp]
  exact nofun

theorem outline_circular (hp : (σ.look p).isContainer = true) (hon : p.isOn path = true)
    (depth : Nat) : σ.outline depth path p = .circular := by
  rw [outline.eq_def, if_pos hp, if_pos hon]

theorem outline_zero (hp : (σ.look p).isContainer = true) (hon : p.isOn path = false) :
    σ.outline 0 path p = .cut := by
  rw [outline.eq_def, if_pos hp, if_neg (Bool.eq_false_iff.mp hon)]

theorem outline_succ (hp : (σ.look p).isContainer = true) (hon : p.isOn path = false) (depth : Nat) :
    σ.outline (depth + 1) path p = (σ.look p).outline (σ.outline depth (p.step path)) := by
  rw [outline.eq_def, if_pos hp, if_neg (Bool.eq_false_iff.mp hon)]

/-! ## Without a cut -/

/-- What is shown of a node inside the containers of a path, without any cut. -/
inductive Unravels (σ : Scene) : List Value → Node → Outline → Prop
  /-- A container on the path is circular. -/
  | circular {path : List Value} {p : Node} (hp : (σ.look p).isContainer = true)
      (hon : p.isOn path = true) : Unravels σ path p .circular
  /-- Everything else is shown with what stands inside. -/
  | opened {path : List Value} {p : Node} {item : Node → Outline}
      (hp : (σ.look p).isContainer = true → p.isOn path = false)
      (hitem : ∀ q ∈ (σ.look p).nodes, Unravels σ (p.step path) q (item q)) :
      Unravels σ path p ((σ.look p).outline item)

/-- There is only one way to show a node without a cut. -/
theorem Unravels.unique {o o' : Outline} (h : σ.Unravels path p o) (h' : σ.Unravels path p o') :
    o = o' := by
  induction h generalizing o' with
  | circular hp hon =>
    cases h' with
    | circular => rfl
    | opened hp' => exact absurd (hon.symm.trans (hp' hp)) (by decide)
  | @opened path p item hp _ ih =>
    cases h' with
    | circular hp' hon' => exact absurd (hon'.symm.trans (hp hp')) (by decide)
    | opened _ hitem' => exact Aspect.outline_congr fun q hq => ih q hq (hitem' q hq)

/-! ### The room that is left

A container cannot be on a path twice.  So there are no more levels than the containers take
together, and this is counted by `room`. -/

/-- How many levels a container takes: one, and another one for pairs that it makes anew. -/
def weight (σ : Scene) (v : Value) : Nat := if (σ v).nodes.any Node.isPair then 2 else 1

/-- How many levels the containers take that are not on the path yet. -/
def room (σ : Scene) (cs : List Value) (path : List Value) : Nat :=
  (cs.map fun v => if (Node.value v).isOn path then 0 else σ.weight v).sum

/-- How many levels are enough for a node inside the containers of a path. -/
def need (σ : Scene) (cs path : List Value) (p : Node) : Nat :=
  if p.isPair then σ.room cs path + 1 else σ.room cs path

theorem sum_map_le {f g : Value → Nat} (hle : ∀ u, f u ≤ g u) (cs : List Value) :
    (cs.map f).sum ≤ (cs.map g).sum := by
  induction cs with
  | nil => exact Nat.le_refl _
  | cons u us ih =>
    rw [List.map_cons, List.map_cons, List.sum_cons, List.sum_cons]
    exact Nat.add_le_add (hle u) ih

theorem sum_map_add_le {f g : Value → Nat} {v : Value} {n : Nat} {cs : List Value}
    (hle : ∀ u, f u ≤ g u) (hv : v ∈ cs) (hn : f v + n ≤ g v) :
    (cs.map f).sum + n ≤ (cs.map g).sum := by
  induction cs with
  | nil => exact absurd hv List.not_mem_nil
  | cons u us ih =>
    rw [List.map_cons, List.map_cons, List.sum_cons, List.sum_cons]
    rcases List.mem_cons.mp hv with rfl | hv
    · have hrest := sum_map_le hle us
      omega
    · have hrest := ih hv
      have hu := hle u
      omega

/-- Opening a container uses up its levels. -/
theorem room_cons_add_le {cs : List Value} {v : Value} (hv : v ∈ cs) (hself : v.identical v = true)
    (hon : (Node.value v).isOn path = false) :
    σ.room cs (v :: path) + σ.weight v ≤ σ.room cs path := by
  refine sum_map_add_le (fun u => ?_) hv ?_
  · by_cases hu : (Node.value u).isOn (v :: path) = true
    · rw [if_pos hu]
      exact Nat.zero_le _
    · have hu' : ¬(Node.value u).isOn path = true := fun h => hu (by
        rw [Node.isOn] at h ⊢
        rw [List.any_cons, h, Bool.or_true])
      exact Nat.le_of_eq (by rw [if_neg hu, if_neg hu'])
  · have hmet : (Node.value v).isOn (v :: path) = true := by
      rw [Node.isOn, List.any_cons, hself, Bool.true_or]
    exact Nat.le_of_eq (by rw [if_pos hmet, if_neg (Bool.eq_false_iff.mp hon), Nat.zero_add])

theorem weight_pos (v : Value) : 0 < σ.weight v := by
  rw [weight]
  split <;> decide

/-- A container that makes pairs has a level to spare for them. -/
theorem need_le {v : Value} {q : Node} (hq : q ∈ (σ v).nodes) (cs path : List Value) :
    σ.need cs path q + 1 ≤ σ.room cs path + σ.weight v := by
  rw [need]
  split
  next hpair =>
    have hweight : σ.weight v = 2 := if_pos (List.any_eq_true.mpr ⟨q, hq, hpair⟩)
    exact Nat.le_of_eq (by rw [hweight])
  · exact Nat.add_le_add_left (weight_pos v) _

/-- A node is shown without a cut if it is a leaf, or met again, or there is a level left for it and
what stands inside is shown without a cut. -/
theorem unravels_outline_of {depth : Nat}
    (h : (σ.look p).isContainer = true → p.isOn path = false → ∃ depth', depth = depth' + 1 ∧
      ∀ q ∈ (σ.look p).nodes, σ.Unravels (p.step path) q (σ.outline depth' (p.step path) q)) :
    σ.Unravels path p (σ.outline depth path p) := by
  cases hcontainer : (σ.look p).isContainer with
  | false =>
    rw [outline_leaf hcontainer depth path fun _ => .cut]
    refine .opened (fun h => absurd (hcontainer.symm.trans h) (by decide)) ?_
    rw [nodes_eq_nil hcontainer]
    exact nofun
  | true =>
    cases hon : p.isOn path with
    | true =>
      rw [outline_circular hcontainer hon]
      exact .circular hcontainer hon
    | false =>
      obtain ⟨depth', rfl, hitem⟩ := h hcontainer hon
      rw [outline_succ hcontainer hon]
      exact .opened (fun _ => hon) hitem

section Closed

variable {cs : List Value} (hS : σ.IsClosed S)
  (hself : ∀ v, S v → (σ v).isContainer = true → v.identical v = true)
  (hcs : ∀ v, S v → (σ v).isContainer = true → v ∈ cs)
include hself hcs

theorem need_pos (hp : p.Within S) (hcontainer : (σ.look p).isContainer = true)
    (hon : p.isOn path = false) : 0 < σ.need cs path p := by
  cases p with
  | value v =>
    have hroom := room_cons_add_le (σ := σ) (hcs v hp hcontainer) (hself v hp hcontainer) hon
    have hweight := weight_pos (σ := σ) v
    change 0 < σ.room cs path
    omega
  | pair k v => exact Nat.succ_pos _

/-- Inside a container that is opened, fewer levels are enough. -/
theorem need_lt (hp : p.Within S) (hcontainer : (σ.look p).isContainer = true)
    (hon : p.isOn path = false) :
    ∀ q ∈ (σ.look p).nodes, σ.need cs (p.step path) q < σ.need cs path p := by
  intro q hq
  cases p with
  | value v =>
    have hroom := room_cons_add_le (σ := σ) (hcs v hp hcontainer) (hself v hp hcontainer) hon
    have hneed := need_le (σ := σ) hq cs (v :: path)
    change σ.need cs (v :: path) q < σ.room cs path
    omega
  | pair k v =>
    have hvalue : σ.need cs path q = σ.room cs path := by
      simp only [look, Aspect.nodes, List.mem_cons, List.not_mem_nil, or_false] at hq
      rcases hq with rfl | rfl <;> rfl
    change σ.need cs path q < σ.room cs path + 1
    omega

include hS

/-- **There is a depth to which everything is shown.**  A container takes one level, and two if it makes
pairs; `need` counts the levels of the containers that are not open yet. -/
theorem unravels_outline {depth : Nat} (hp : p.Within S) (hdepth : σ.need cs path p ≤ depth) :
    σ.Unravels path p (σ.outline depth path p) := by
  induction depth generalizing path p with
  | zero =>
    refine unravels_outline_of fun hcontainer hon => ?_
    exact absurd (need_pos hself hcs hp hcontainer hon) (by omega)
  | succ depth ih =>
    refine unravels_outline_of fun hcontainer hon => ⟨depth, rfl, fun q hq => ?_⟩
    have hneed := need_lt hself hcs hp hcontainer hon q hq
    exact ih (hS.within hp q hq) (by omega)

end Closed

/-! ## Without recognizing anything

If nothing is inside itself, the path never matters, and what is shown is the tree that the graph
unfolds to. -/

/-- A node stands directly inside another one. -/
def Holds (σ : Scene) (p q : Node) : Prop := q ∈ (σ.look p).nodes

/-- Nothing that is inside a node, nor the node itself, is inside itself. -/
def IsAcyclic (σ : Scene) (p : Node) : Prop :=
  ∀ q, Relation.ReflTransGen σ.Holds p q → ¬Relation.TransGen σ.Holds q q

theorem IsAcyclic.of_holds {q : Node} (h : σ.IsAcyclic p) (hq : σ.Holds p q) : σ.IsAcyclic q :=
  fun r hr => h r (.head hq hr)

section Acyclic

variable (hS : σ.IsClosed S)
  (heq : ∀ v w, S v → S w → (σ v).isContainer = true → v.identical w = true → v = w)

include heq in
/-- A container is not one of those around it. -/
theorem isOn_eq_false (hp : p.Within S) (hcontainer : (σ.look p).isContainer = true)
    (hacyclic : σ.IsAcyclic p)
    (hpath : ∀ u ∈ path, S u ∧ Relation.TransGen σ.Holds (.value u) p) : p.isOn path = false := by
  cases p with
  | pair k v => rfl
  | value v =>
    rw [Node.isOn, List.any_eq_false]
    intro u hu hidentical
    obtain ⟨hSu, haround⟩ := hpath u hu
    obtain rfl := heq v u hp hSu hcontainer hidentical
    exact hacyclic _ .refl haround

/-- The containers of the path are around what stands inside. -/
theorem forall_mem_step {q : Node} (hp : p.Within S)
    (hpath : ∀ u ∈ path, S u ∧ Relation.TransGen σ.Holds (.value u) p) (hq : σ.Holds p q) :
    ∀ u ∈ p.step path, S u ∧ Relation.TransGen σ.Holds (.value u) q := by
  have hrest : ∀ u ∈ path, S u ∧ Relation.TransGen σ.Holds (.value u) q :=
    fun u hu => ⟨(hpath u hu).1, (hpath u hu).2.tail hq⟩
  cases p with
  | value v => exact List.forall_mem_cons.mpr ⟨⟨hp, .single hq⟩, hrest⟩
  | pair k v => exact hrest

include hS heq

/-- **Nothing is recognized where nothing is inside itself.** -/
theorem outline_eq_tree (depth : Nat) (hp : p.Within S) (hacyclic : σ.IsAcyclic p)
    (hpath : ∀ u ∈ path, S u ∧ Relation.TransGen σ.Holds (.value u) p) :
    σ.outline depth path p = σ.tree depth p := by
  induction depth generalizing path p with
  | zero =>
    rw [outline.eq_def, tree.eq_def]
    split
    next hcontainer =>
      rw [if_neg (Bool.eq_false_iff.mp (isOn_eq_false heq hp hcontainer hacyclic hpath))]
    · rfl
  | succ depth ih =>
    rw [outline.eq_def, tree.eq_def]
    split
    next hcontainer =>
      rw [if_neg (Bool.eq_false_iff.mp (isOn_eq_false heq hp hcontainer hacyclic hpath))]
      exact Aspect.outline_congr fun q hq =>
        ih (hS.within hp q hq) (hacyclic.of_holds hq) (forall_mem_step hp hpath hq)
    · rfl

end Acyclic

/-- Nothing is circular in a tree. -/
theorem throughout_tree (depth : Nat) (p : Node) : (σ.tree depth p).Throughout (· ≠ .circular) := by
  have hleaf (p : Node) (hcontainer : ¬(σ.look p).isContainer = true) :
      ((σ.look p).outline fun _ => .cut).Throughout (· ≠ .circular) := by
    refine Aspect.throughout_outline (Aspect.outline_ne _ _).1 ?_
    rw [nodes_eq_nil (Bool.eq_false_iff.mpr hcontainer)]
    exact nofun
  induction depth generalizing p with
  | zero =>
    rw [tree.eq_def]
    split
    · exact .intro nofun nofun
    next hcontainer => exact hleaf p hcontainer
  | succ depth ih =>
    rw [tree.eq_def]
    split
    · exact Aspect.throughout_outline (Aspect.outline_ne _ _).1 fun q _ => ih q
    next hcontainer => exact hleaf p hcontainer

end Scene

end ValueShape
