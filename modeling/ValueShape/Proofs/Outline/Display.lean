import ValueShape.Proofs.Outline.Exhibit
import ValueShape.Proofs.Outline.Limits
import ValueShape.Proofs.Outline.Scene

/-!
# Values that are rendered as a scene tells

What rendering shows of values that answer in the same way whenever they are asked.

* `Value.Displays c I v a` says that the value `v` shows the aspect `a` of itself, wherever the invariant
  `I` holds.  What is yielded by a container belongs to its nodes in turn: the values themselves, and new
  pairs (`Node.Stands`).
* `Scene.Staged` says that all values of a set display what a scene tells of them.
* `Run.settles_unfold_scene` says that unfolding such values settles, and that it shows the outline of the
  scene.  New pairs stand on the path of the rendering and not on the path of the scene, which makes no
  difference since no value is met that was made before them (`Scene.Meets`).
-/

set_option autoImplicit false

namespace ValueShape

open Run

/-! ## Texts -/

/-- A value is a text that can stand among others and inside a longer text, with the same characters
everywhere. -/
structure Value.Reads (c : Conduct) (I : Session → Prop) (w : Value) (text : List Char) : Prop where
  /-- It is this text. -/
  text? : w.text? = some (String.ofList text)
  /-- It is compared with other texts in the ordinary way. -/
  plain {s : Session} (hs : I s) : s.heap.isPlainText w = true
  /-- It stands for itself inside a longer text. -/
  formatted {s : Session} (hs : I s) :
    Settles c I s (formatted w) fun t _ => t = String.ofList text

/-- A text of the built-in class reads as its characters. -/
theorem Value.reads_text (c : Conduct) (I : Session → Prop) (id : Nat) (text : String) :
    (Value.scalar (.kind .text) id (.text text)).Reads c I text.toList where
  text? := by rw [String.ofList_toList]; rfl
  plain _ := rfl
  formatted hs := .of_exec_self hs rfl String.ofList_toList.symm

/-- What has been rendered is an outline, or a text in place of a leaf. -/
def Rendering.Depicts (c : Conduct) (I : Session → Prop) : Rendering → Outline → Prop
  | .value w, o => ∃ text, o = .leaf text ∧ w.Reads c I text
  | .outline o', o => o' = o

/-! ## What is yielded

The pairs of a mapping are made anew each time it is gone through.  They are no values that were
there before, so they can never be met again further down. -/

/-- An invariant, since a number of identities was handed out. -/
def Session.Since (I : Session → Prop) (n : Nat) (s : Session) : Prop := I s ∧ n ≤ s.heap.next

/-- A node is yielded as itself, or as a new pair that was made after the first `n` identities were handed
out. -/
def Node.Stands (n : Nat) : Node → Value → Session → Prop
  | .value v, w, _ => w = v
  | .pair k v, w, s => ∃ id, n ≤ id ∧ id < s.heap.next ∧ w = .tuple (.kind .tuple) id [k, v]

namespace Run

variable {c : Conduct} {I : Session → Prop} {s : Session} {α : Type}

theorem Settles.since {m : Run α} {P : α → Session → Prop} (h : Settles c I s m P) {n : Nat}
    (hn : n ≤ s.heap.next) : Settles c (Session.Since I n) s m P := by
  obtain ⟨a, s', ha, hle, hs', hP⟩ := h
  exact ⟨a, s', ha, hle, ⟨hs', Nat.le_trans hn hle.next⟩, hP⟩

theorem Settles.of_since {m : Run α} {P : α → Session → Prop} {n : Nat}
    (h : Settles c (Session.Since I n) s m P) : Settles c I s m P := by
  obtain ⟨a, s', ha, hle, hs', hP⟩ := h
  exact ⟨a, s', ha, hle, hs'.1, hP⟩

end Run

/-! ## What values display -/

/-- A container yields the values that stand for its nodes, whenever it is gone through. -/
def Value.Yields (c : Conduct) (I : Session → Prop) (v : Value) (nodes : List Node) : Prop :=
  ∀ s, I s → ∃ cur, exec c (cursor v) s = .ok cur s ∧
    Supplies c (Session.Since I s.heap.next) (Node.Stands s.heap.next) nodes cur ∧
    HasRoom (Session.Since I s.heap.next) nodes.length cur

/-- What a value displays of itself, wherever an invariant holds. -/
inductive Value.Displays (c : Conduct) (I : Session → Prop) : Value → Aspect → Prop
  /-- A value without parts is shown by a text. -/
  | leaf {v : Value} {a : Appearance} {text : List Char} (ha : a ≠ .container)
      (happearance : ∀ s, I s → exec c (appearance v) s = .ok a s)
      (hleaf : ∀ s, I s → Settles c I s (leafOf v a) fun w _ => w.Reads c I text) :
      Displays c I v (.leaf text)
  /-- A list or a tuple displays its items. -/
  | sequence {v : Value} {k : Container} {isTuple : Bool} {nodes : List Node}
      (hk : k = .list ∨ k = .tuple)
      (happearance : ∀ s, I s → exec c (appearance v) s = .ok .container s)
      (hcontainer : ∀ s, I s → exec c (containerOf v) s = .ok k s)
      (htuple : ∀ s, I s → exec c (isOfKind v .tuple) s = .ok isTuple s)
      (hitems : v.Yields c I nodes) :
      Displays c I v (if isTuple then .tuple nodes else .list nodes)
  /-- A set displays its members. -/
  | set {v : Value} {typeName : List Char} {nodes : List Node}
      (happearance : ∀ s, I s → exec c (appearance v) s = .ok .container s)
      (hcontainer : ∀ s, I s → exec c (containerOf v) s = .ok .set s)
      (hname : ∀ s, I s → s.heap.typeName v = String.ofList typeName)
      (hclass : ∀ s, I s → Settles c I s (shownClass v) fun t _ => t = String.ofList typeName)
      (hitems : v.Yields c I nodes) : Displays c I v (.set typeName nodes)
  /-- A mapping displays its entries. -/
  | mapping {v : Value} {entries : List (Value × Value)}
      (happearance : ∀ s, I s → exec c (appearance v) s = .ok .container s)
      (hcontainer : ∀ s, I s → exec c (containerOf v) s = .ok .mapping s)
      (hread : ∀ s, I s → Settles c I s (guarded (readParts .items v)) fun pairs? _ =>
        ∃ pairs, pairs? = some pairs ∧ List.Forall₂ (fun e pair => ∀ s', I s' →
          Settles c I s' (unpackTwo pair) fun entry _ => entry = e) entries pairs) :
      Displays c I v (.mapping entries)
  /-- A mapping that cannot be read displays the name of its class. -/
  | sealed {v : Value} {typeName : List Char}
      (happearance : ∀ s, I s → exec c (appearance v) s = .ok .container s)
      (hcontainer : ∀ s, I s → exec c (containerOf v) s = .ok .mapping s)
      (hread : ∀ s, I s → Settles c I s (guarded (readParts .items v)) fun pairs? _ => pairs? = none)
      (hname : ∀ s, I s → Settles c I s (do identified ((← heap).typeNameValue v)) fun w _ =>
        w.Reads c I typeName) :
      Displays c I v (.sealed typeName)

namespace Run

variable {c : Conduct} {I : Session → Prop} {s : Session}

/-! ## Items -/

theorem exec_joinable_of_depicts {rs : List Rendering} {os : List Outline}
    (h : List.Forall₂ (Rendering.Depicts c I) rs os) (place : Nat) :
    exec c (joinable place rs) s = .ok os s := by
  induction h generalizing place with
  | nil => rfl
  | @cons r o rs os hr _ ih =>
    cases r with
    | outline o' =>
      cases hr
      rw [joinable, exec_bind, ih]
      rfl
    | value w =>
      obtain ⟨text, rfl, hw⟩ := hr
      simp only [joinable, hw.text?, exec_bind, ih, Ending.andThen_ok, exec_pure,
        String.toList_ofList]

theorem settles_embedded_of_depicts {r : Rendering} {o : Outline} (hr : r.Depicts c I o) (hs : I s) :
    Settles c I s (embedded r) fun o' _ => o' = o := by
  cases r with
  | outline o' => exact .of_exec_self hs rfl hr
  | value w =>
    obtain ⟨text, rfl, hw⟩ := hr
    refine (hw.formatted hs).bind fun t s' _ hs' ht => .of_exec_self hs' rfl ?_
    rw [ht, String.toList_ofList]

theorem exec_closed_of_depicts {line : LineLimit} {rs : List Rendering} {os : List Outline}
    (h : List.Forall₂ (Rendering.Depicts c I) rs os) (make : List Outline → Outline) :
    exec c (closed (.known line) make rs) s = .ok (.outline (make os)) s := by
  rw [closed, exec_bind, exec_joinable_of_depicts h]
  rfl

/-- What a set shows is put into order by its texts. -/
theorem isPlainText_sortKey {rs : List Rendering} {os : List Outline}
    (h : List.Forall₂ (Rendering.Depicts c I) rs os) (line : LineLimit) (hs : I s) :
    (rs.map (sortKey line)).all s.heap.isPlainText = true := by
  induction h with
  | nil => rfl
  | @cons r o rs os hr _ ih =>
    rw [List.map_cons, List.all_cons, ih, Bool.and_true]
    cases r with
    | outline o' => rfl
    | value w =>
      obtain ⟨text, -, hw⟩ := hr
      exact hw.plain hs

theorem exec_closedSet_of_depicts {line : LineLimit} {rs : List Rendering} {os : List Outline}
    (h : List.Forall₂ (Rendering.Depicts c I) rs os) (typeName : List Char) (hs : I s) :
    exec c (closedSet (.known line) typeName rs) s = .ok (.outline (.set typeName os)) s := by
  rw [closedSet, exec_bind, exec_heap, Ending.andThen_ok]
  change exec c (if (rs.map (sortKey line)).all s.heap.isPlainText = true then _ else _) s = _
  rw [if_pos (isPlainText_sortKey h line hs), exec_closed_of_depicts h]

/-- Unfolding the entries of a mapping. -/
theorem settles_unfoldEntries {item : Value → Run Rendering} {out : Node → Outline}
    {entries : List (Value × Value)} {pairs : List Value}
    (hpairs : List.Forall₂ (fun e pair => ∀ s', I s' →
      Settles c I s' (unpackTwo pair) fun entry _ => entry = e) entries pairs)
    (hitem : ∀ e ∈ entries, ∀ v, v = e.1 ∨ v = e.2 → ∀ s', s.LeadsTo s' → I s' →
      Settles c I s' (item v) fun r _ => r.Depicts c I (out (.value v)))
    (hs : I s) :
    Settles c I s (pairs.mapM (unfoldEntry item)) fun es _ =>
      es = entries.map fun e => (out (.value e.1), out (.value e.2)) := by
  induction hpairs generalizing s with
  | nil => exact .of_exec_self hs rfl rfl
  | @cons e pair entries pairs hpair _ ih =>
    obtain ⟨he, hentries⟩ := List.forall_mem_cons.mp hitem
    have hentry : Settles c I s (unfoldEntry item pair) fun o _ =>
        o = (out (.value e.1), out (.value e.2)) := by
      rw [unfoldEntry]
      refine (hpair s hs).bind fun entry s₁ hle₁ hs₁ heq => ?_
      subst heq
      refine (he entry.1 (.inl rfl) s₁ hle₁ hs₁).bind fun r s₂ hle₂ hs₂ hr => ?_
      refine (settles_embedded_of_depicts hr hs₂).bind fun o s₃ hle₃ hs₃ ho => ?_
      have hle := ((hle₁.trans hle₂).trans hle₃)
      refine (he entry.2 (.inr rfl) s₃ hle hs₃).bind fun r' s₄ _ hs₄ hr' => ?_
      refine (settles_embedded_of_depicts hr' hs₄).bind fun o' s₅ _ hs₅ ho' => ?_
      exact .of_exec_self hs₅ rfl (by rw [ho, ho'])
    rw [List.mapM_cons]
    refine hentry.bind fun o s₁ hle₁ hs₁ ho => ?_
    refine (ih (fun e' he' v hv s' hle' => hentries e' he' v hv s' (hle₁.trans hle')) hs₁).bind
      fun os s₂ _ hs₂ hos => .of_exec_self hs₂ (exec_pure c s₂ _) ?_
    rw [ho, hos, List.map_cons]

/-- Closing a list or a tuple whose items were unfolded. -/
theorem settles_closed_of_depicts {line : LineLimit} {v : Value} {isTuple : Bool}
    {rs : List Rendering} {os : List Outline} (h : List.Forall₂ (Rendering.Depicts c I) rs os)
    (htuple : exec c (isOfKind v .tuple) s = .ok isTuple s) (hs : I s) :
    Settles c I s (do
      if !(← isOfKind v .tuple) then closed (.known line) .list rs
      else match rs with
        | [one] => return .outline (.tuple [← embedded one])
        | items => closed (.known line) .tuple items) fun r _ =>
      r.Depicts c I (if isTuple then .tuple os else .list os) := by
  refine .after htuple ?_
  cases isTuple with
  | false => exact .of_exec_self hs (exec_closed_of_depicts h _) rfl
  | true =>
    rw [if_neg (by decide)]
    split
    next one =>
      obtain ⟨o, os, hone, hos, rfl⟩ := List.forall₂_cons_left_iff.mp h
      obtain rfl := List.forall₂_nil_left_iff.mp hos
      refine (settles_embedded_of_depicts hone hs).bind fun o' s' _ hs' ho' =>
        .of_exec_self hs' rfl ?_
      exact congrArg (Outline.tuple [·]) ho'
    · exact .of_exec_self hs (exec_closed_of_depicts h _) rfl

/-- What unfolding the items of a container needs of unfolding each of them. -/
theorem settles_unfoldItems_display {line : LineLimit} {v : Value} {a : Aspect} {k : Container}
    {item : Value → Run Rendering} {out : Node → Outline} (hv : v.Displays c I a)
    (hopens : a.isContainer = true) (hk : exec c (containerOf v) s = .ok k s)
    (hitem : ∀ q ∈ a.nodes, ∀ w s', s.heap.next ≤ s'.heap.next → I s' →
      q.Stands s.heap.next w s' → Settles c I s' (item w) fun r _ => r.Depicts c I (out q))
    (hs : I s) :
    Settles c I s (unfoldItems (.known line) item v k) fun r _ => r.Depicts c I (a.outline out) := by
  have heach (item' : Value → Run Rendering) (hitem' : ∀ w s' P, Settles c I s' (item w) P →
      Settles c I s' (item' w) P) (nodes : List Node) (hnodes : a.nodes = nodes)
      (hitems : v.Yields c I nodes) : ∃ cur, exec c (cursor v) s = .ok cur s ∧
        Settles c I s (each (fun _ w => item' w) cur) fun rs _ =>
          List.Forall₂ (Rendering.Depicts c I) rs (nodes.map out) := by
    obtain ⟨cur, hcur, hsupplies, hroom⟩ := hitems s hs
    refine ⟨cur, hcur, (settles_each_supplied hsupplies hroom
      (fun q r => r.Depicts c I (out q)) (fun q hq _ w s' hw hs' => ?_)
      ⟨hs, Nat.le_refl _⟩).of_since.mono fun rs _ _ _ hrs => ?_⟩
    · exact (hitem' w s' _ (hitem q (hnodes ▸ hq) w s' hs'.2 hs'.1 hw)).since hs'.2
    · exact List.forall₂_map_right_iff.mpr hrs.flip
  cases hv with
  | leaf => cases hopens
  | @sequence k' isTuple nodes hk' _ hcontainer htuple hitems =>
    cases (hcontainer s hs).symm.trans hk
    obtain ⟨cur, hcur, heach⟩ :=
      heach item (fun _ _ _ h => h) nodes (by cases isTuple <;> rfl) hitems
    have hout : (if isTuple then Aspect.tuple nodes else .list nodes).outline out =
        if isTuple then .tuple (nodes.map out) else .list (nodes.map out) := by
      cases isTuple <;> rfl
    rw [hout]
    rcases hk' with rfl | rfl <;>
    · rw [unfoldItems]
      exact .after hcur (heach.bind fun rs s₁ _ hs₁ hrs =>
        settles_closed_of_depicts hrs (htuple s₁ hs₁) hs₁)
  | @set typeName nodes _ hcontainer hname hclass hitems =>
    cases (hcontainer s hs).symm.trans hk
    obtain ⟨cur, hcur, heach⟩ := heach _ (fun _ _ _ h => h.yielded) nodes rfl hitems
    rw [unfoldItems]
    refine .after hcur (heach.bind fun rs s₁ _ hs₁ hrs => ?_)
    split
    · refine (hclass s₁ hs₁).bind fun t s₂ _ hs₂ ht => .of_exec_self hs₂ rfl ?_
      change Outline.set t.toList [] = .set typeName (nodes.map out)
      rw [List.forall₂_nil_left_iff.mp hrs, ht, String.toList_ofList]
    · refine .after (exec_heap c s₁) ?_
      rw [hname s₁ hs₁, String.toList_ofList]
      exact .of_exec_self hs₁ (exec_closedSet_of_depicts hrs _ hs₁) rfl
  | @mapping entries _ hcontainer hread =>
    cases (hcontainer s hs).symm.trans hk
    rw [unfoldItems]
    refine (hread s hs).bind fun pairs? s₁ hle₁ hs₁ hpairs => ?_
    obtain ⟨pairs, rfl, hpairs⟩ := hpairs
    have hitem' : ∀ e ∈ entries, ∀ v, v = e.1 ∨ v = e.2 → ∀ s', s₁.LeadsTo s' → I s' →
        Settles c I s' (item v) fun r _ => r.Depicts c I (out (.value v)) := by
      intro e he v hv s' hle' hs'
      refine hitem (.value v) (List.mem_flatMap.mpr ⟨e, he, ?_⟩) v s' (hle₁.trans hle').next hs' rfl
      rcases hv with rfl | rfl <;> simp
    exact (settles_unfoldEntries hpairs hitem' hs₁).bind
      fun es s₂ _ hs₂ hes => .of_exec_self hs₂ rfl (congrArg Outline.mapping hes)
  | sealed _ hcontainer hread hname =>
    cases (hcontainer s hs).symm.trans hk
    rw [unfoldItems]
    refine (hread s hs).bind fun pairs? s₁ _ hs₁ hnone => ?_
    subst hnone
    exact (hname s₁ hs₁).bind fun w s₂ _ hs₂ hw => .of_exec_self hs₂ rfl ⟨_, rfl, hw⟩

/-- A container says so, and of which kind it is. -/
theorem exec_appearance_of_displays {v : Value} {a : Aspect} (hv : v.Displays c I a)
    (hopens : a.isContainer = true) (hs : I s) :
    exec c (appearance v) s = .ok .container s ∧ ∃ k, exec c (containerOf v) s = .ok k s := by
  cases hv with
  | leaf => cases hopens
  | sequence _ happearance hcontainer => exact ⟨happearance s hs, _, hcontainer s hs⟩
  | set happearance hcontainer => exact ⟨happearance s hs, _, hcontainer s hs⟩
  | mapping happearance hcontainer => exact ⟨happearance s hs, _, hcontainer s hs⟩
  | sealed happearance hcontainer => exact ⟨happearance s hs, _, hcontainer s hs⟩

theorem settles_unfold_of_leaf {v : Value} {a : Aspect} (hv : v.Displays c I a)
    (hleaf : a.isContainer = false) (hs : I s) (line : LineLimit) (depth : Nat) (path : List Value)
    (item : Node → Outline) :
    Settles c I s (unfold line depth path v) fun r _ => r.Depicts c I (a.outline item) := by
  cases hv with
  | @leaf appearance text ha happearance hname =>
    rw [unfold_eq]
    refine .after (happearance s hs) ?_
    cases appearance with
    | container => exact absurd rfl ha
    | primitive | cls | callable | other =>
      exact (hname s hs).bind fun w s₁ _ hs₁ hw => .of_exec_self hs₁ rfl ⟨text, rfl, hw⟩
  | @sequence _ isTuple => cases isTuple <;> cases hleaf
  | set | mapping | sealed => cases hleaf

end Run

/-! ## Scenes on the stage

Rendering recognizes the containers around a value by identity, and a scene by its nodes.
`SamePath` says that both recognize the same. -/

/-- A value was there before the identities from `n` on were handed out, if it is a tuple. -/
def Value.IsOlder (n : Nat) (v : Value) : Prop :=
  ∀ cls id items, v = .tuple cls id items → id < n

theorem Value.IsOlder.identical_eq_false {n id : Nat} {v : Value} (hv : v.IsOlder n) (hid : n ≤ id)
    (cls : Class) (items : List Value) :
    v.identical (.tuple cls id items) = false ∧
      (Value.tuple cls id items).identical v = false := by
  cases v with
  | tuple cls' id' items' =>
    have hlt := hv cls' id' items' rfl
    simp only [Value.identical, beq_eq_false_iff_ne]
    omega
  | generic _ starred => cases starred <;> exact ⟨rfl, rfl⟩
  | _ => exact ⟨rfl, rfl⟩

theorem Value.isOlder_ref (n place : Nat) : (Value.ref place).IsOlder n := by
  intro cls id items h
  cases h

theorem Value.isOlder_text (n : Nat) (text : String) : (Value.keptText text).IsOlder n := by
  intro cls id items h
  cases h

/-- The values of a set display what a scene tells of them, wherever an invariant holds.  They were there
before the first `n` identities had been handed out. -/
structure Scene.Staged (σ : Scene) (c : Conduct) (I : Session → Prop) (S : Value → Prop) (n : Nat) :
    Prop where
  /-- What is inside them belongs to the set. -/
  closed : σ.IsClosed S
  /-- Each of them displays its aspect. -/
  displays (v : Value) (hv : S v) : v.Displays c I (σ v)
  /-- The pairs that they make display their two values. -/
  pairs (v : Value) (hv : S v) (k w : Value) (hpair : .pair k w ∈ (σ v).nodes) (id : Nat) :
    (Value.tuple (.kind .tuple) id [k, w]).Displays c I (.tuple [.value k, .value w])
  /-- They are older than what is made from now on. -/
  older (v : Value) (hv : S v) : v.IsOlder n

/-- The path of a rendering and the path of a scene agree: the values of a set are on both of them or on
neither, and no pair is on the first one that is made from now on. -/
structure SamePath (S : Value → Prop) (n : Nat) (path path' : List Value) : Prop where
  /-- The values of the set are on both or on neither. -/
  any_eq (v : Value) (hv : S v) : path.any v.identical = path'.any v.identical
  /-- New pairs are not met. -/
  new (id : Nat) (hid : n ≤ id) (k v : Value) :
    path.any (Value.tuple (.kind .tuple) id [k, v]).identical = false

theorem SamePath.nil (S : Value → Prop) (n : Nat) : SamePath S n [] [] :=
  ⟨fun _ _ => rfl, fun _ _ _ _ => rfl⟩

/-- A value is met in place of a node. -/
structure Scene.Meets (σ : Scene) (c : Conduct) (I : Session → Prop) (S : Value → Prop) (n : Nat)
    (path path' : List Value) (p : Node) (w : Value) : Prop where
  /-- The values of the node belong to the set. -/
  within : p.Within S
  /-- The value displays what the node shows. -/
  displays : w.Displays c I (σ.look p)
  /-- It is recognized if the node is. -/
  on : path.any w.identical = p.isOn path'
  /-- The paths inside it agree. -/
  inside : SamePath S n (w :: path) (p.step path')

namespace Scene.Staged

variable {σ : Scene} {c : Conduct} {I : Session → Prop} {S : Value → Prop} {n m : Nat}
  {path path' : List Value} (hσ : σ.Staged c I S n)
include hσ

/-- A value of the set is met in its own place. -/
theorem meets_value (hpath : SamePath S m path path') (hnm : n ≤ m) {v : Value} (hv : S v) :
    σ.Meets c I S m path path' (.value v) v where
  within := hv
  displays := hσ.displays v hv
  on := hpath.any_eq v hv
  inside := by
    refine ⟨fun u hu => ?_, fun id hid k w => ?_⟩
    · rw [Node.step, List.any_cons, List.any_cons, hpath.any_eq u hu]
    · rw [List.any_cons, hpath.new id hid k w, Bool.or_false]
      exact ((hσ.older v hv).identical_eq_false (Nat.le_trans hnm hid) _ _).2

/-- What stands for a node inside a container is met in place of it, later on. -/
theorem meets (hpath : SamePath S m path path') (hnm : n ≤ m) {p q : Node} (hp : p.Within S)
    (hq : q ∈ (σ.look p).nodes) {w : Value} {s : Session} (hm : m ≤ s.heap.next)
    (hw : q.Stands m w s) : σ.Meets c I S s.heap.next path path' q w := by
  have hlater : SamePath S s.heap.next path path' :=
    ⟨hpath.any_eq, fun id hid => hpath.new id (Nat.le_trans hm hid)⟩
  have hwithin := hσ.closed.within hp q hq
  cases q with
  | value v =>
    cases hw
    exact hσ.meets_value hlater (Nat.le_trans hnm hm) hwithin
  | pair k v =>
    obtain ⟨id, hid, hlt, rfl⟩ := hw
    have hdisplays : (Value.tuple (.kind .tuple) id [k, v]).Displays c I
        (.tuple [.value k, .value v]) := by
      cases p with
      | value u => exact hσ.pairs u hp k v hq id
      | pair k' v' => simp [look, Aspect.nodes] at hq
    refine ⟨hwithin, hdisplays, hpath.new id hid k v, fun u hu => ?_, fun id' hid' k' v' => ?_⟩
    · rw [Node.step, List.any_cons, hpath.any_eq u hu,
        ((hσ.older u hu).identical_eq_false (Nat.le_trans hnm hid) _ _).1, Bool.false_or]
    · rw [List.any_cons, hlater.new id' hid' k' v', Bool.or_false]
      simp only [Value.identical, beq_eq_false_iff_ne]
      omega

end Scene.Staged

namespace Run

variable {c : Conduct} {I : Session → Prop} {S : Value → Prop} {n : Nat} {σ : Scene}

/-- What unfolding a value that is met needs of unfolding what stands inside it, one level further
down. -/
theorem settles_unfold_meets {line : LineLimit} {depth : Nat} {path path' : List Value} {p : Node}
    {w : Value} {s : Session} (hw : σ.Meets c I S s.heap.next path path' p w)
    (hitem : ∀ d, depth = d + 1 → ∀ q ∈ (σ.look p).nodes, ∀ w' s', s.heap.next ≤ s'.heap.next →
      I s' → q.Stands s.heap.next w' s' → Settles c I s' (unfold line d (w :: path) w') fun r _ =>
        r.Depicts c I (σ.outline d (p.step path') q))
    (hs : I s) :
    Settles c I s (unfold line depth path w) fun r _ =>
      r.Depicts c I (σ.outline depth path' p) := by
  cases hopens : (σ.look p).isContainer with
  | false =>
    rw [Scene.outline_leaf hopens depth path' fun _ => .cut]
    exact settles_unfold_of_leaf hw.displays hopens hs line depth path _
  | true =>
    obtain ⟨happearance, k, hk⟩ := exec_appearance_of_displays hw.displays hopens hs
    rw [unfold_eq]
    refine .after happearance ?_
    dsimp only
    rw [hw.on]
    cases hon : p.isOn path' with
    | true =>
      rw [Scene.outline_circular hopens hon, if_pos rfl]
      exact .of_exec_self hs rfl rfl
    | false =>
      rw [if_neg (by decide)]
      cases depth with
      | zero =>
        rw [Scene.outline_zero hopens hon]
        exact .of_exec_self hs rfl rfl
      | succ d =>
        rw [Scene.outline_succ hopens hon]
        exact .after hk (settles_unfoldItems_display hw.displays hopens hk (hitem d rfl) hs)

/-- **Unfolding shows what the scene tells**, by induction on the levels of containers that are still
shown. -/
theorem settles_unfold_scene (hσ : σ.Staged c I S n) (line : LineLimit) (depth : Nat)
    {path path' : List Value} {p : Node} {w : Value} {s : Session} (hs : I s) (hn : n ≤ s.heap.next)
    (hw : σ.Meets c I S s.heap.next path path' p w) :
    Settles c I s (unfold line depth path w) fun r _ =>
      r.Depicts c I (σ.outline depth path' p) := by
  induction depth generalizing path path' p w s with
  | zero => exact settles_unfold_meets hw nofun hs
  | succ depth ih =>
    refine settles_unfold_meets hw (fun d hd q hq w' s' hle hs' hstands => ?_) hs
    cases hd
    exact ih hs' (Nat.le_trans hn hle) (hσ.meets hw.inside hn hw.within hq hle hstands)

theorem settles_renderingValue_of_depicts (hI : Session.Steadfast I) {s : Session} {r : Rendering}
    {o : Outline} (hr : r.Depicts c I o) (hs : I s) (line : LineLimit) :
    Settles c I s (renderingValue line r) fun w _ =>
      w.text? = some (String.ofList (o.layout line)) := by
  cases r with
  | value w =>
    obtain ⟨text, rfl, hw⟩ := hr
    exact .of_exec_self hs rfl hw.text?
  | outline o' =>
    cases hr
    cases o with
    | cut | circular => exact .of_exec_self hs rfl rfl
    | leaf | list | tuple | set | arranged | mapping =>
      exact .of_exec hI hs rfl (.withNext (Nat.le_succ _)) rfl

/-- **Rendering writes what the scene tells.** -/
theorem settles_inspect_scene (hI : Session.Steadfast I) (hσ : σ.Staged c I S n) {v options : Value}
    {o : RenderOptions} (hv : S v) {s : Session} (hs : I s) (hn : n ≤ s.heap.next)
    (hoptions : s.heap.knownLimits? options = some o) :
    Settles c I s (inspect v options) fun w _ => w.text? =
      some (String.ofList ((σ.outline o.maxDepth [] (.value v)).layout o.threshold)) := by
  have hmeets := hσ.meets_value (.nil S s.heap.next) hn hv
  have hrender : Settles c I s (renderValue o v) fun w _ => w.text? =
      some (String.ofList ((σ.outline o.maxDepth [] (.value v)).layout o.threshold)) :=
    (settles_unfold_scene hσ o.threshold o.maxDepth hs hn hmeets).bind fun r s' _ hs' hr =>
      settles_renderingValue_of_depicts hI hr hs' o.threshold
  obtain ⟨w, s', hw, hrest⟩ := hrender
  exact ⟨w, s', (exec_inspect hoptions v).trans hw, hrest⟩

end Run

end ValueShape
