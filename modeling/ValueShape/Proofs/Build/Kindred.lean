import ValueShape.Proofs.Ask.Kindred
import ValueShape.Proofs.Build.Object

/-!
# Products and the kind of containers

Whether a container is a list or a tuple, and what kind of mapping it is, makes no difference to
products that are built from leaves and primitive literals.

* `Value.Built I N p` says that `p` is a leaf, or a product of a factory or a modifier whose parts are
  built in the same way.  Names of fields belong to `N`, and there is no check for the objects of a
  class.
* `Value.Built.composed` says that such a product is composed of checks that only look at the shape of a
  value.
* `Build.call_kindred` is the main result: called about values of the same shape, such a product ends
  alike.

An attribute that was put into a mapping in place of one of its methods makes a difference, and so does
a value that is changed when it is asked: `Build.call_tells_containers`.
-/

set_option autoImplicit false

namespace ValueShape

open Run

/-! ## What products are built from -/

/-- The callables that are asked when a decision is made. -/
def Decision.callables : Decision → List Value
  | rule check | predicate check => check.callables
  | callable q => [q]

/-- Products of a recipe only look at the shape of a value: literals are primitive, and the names of
fields are known. -/
def Recipe.LooksAtShape (I : Session → Prop) (N : Name → Prop) : Recipe → Prop
  | object fields _ => ∀ field ∈ fields, N field.1
  | literal v => v.ServesAsLiteral I
  | literals vs => ∀ v ∈ vs, v.ServesAsLiteral I
  | instanceOf _ => False
  | _ => True

/-- A callable is built by factories and modifiers from leaves and primitive literals. -/
inductive Value.Built (I : Session → Prop) (N : Name → Prop) : Value → Prop
  /-- A leaf. -/
  | leaf (l : Leaf) : Built I N (.leaf l)
  /-- A product of what is built. -/
  | product {r : Recipe} {title : String} {p : Value} (hp : r.Product title p)
      (hr : r.LooksAtShape I N) (hparts : ∀ f ∈ r.decides.callables, Built I N f) : Built I N p

section

variable {I : Session → Prop} {N : Name → Prop}

/-- The check of a product looks at the shape of a value as well. -/
theorem Recipe.LooksAtShape.check {r : Recipe} (hr : r.LooksAtShape I N) {check : Rule}
    (hdecides : r.decides = .rule check ∨ r.decides = .predicate check) : check.LooksAtShape I N := by
  cases r with
  | object fields strict =>
    obtain rfl : .object fields (if strict then some ((distinctFields fields).map (·.1.key)) else none) =
        check := by simpa [decides] using hdecides
    refine ⟨hr, fun keys hkeys => ⟨(distinctFields fields).map (·.1), ?_, fun k hk => ?_⟩⟩
    · cases strict with
      | true =>
        rw [List.map_map]
        exact (Option.some.inj hkeys).symm
      | false => cases hkeys
    · obtain ⟨field, hfield, rfl⟩ := List.mem_map.mp hk
      exact forall_mem_distinctFields (P := N) hr field hfield
  | instanceOf cls => exact hr.elim
  | optional | readonly | array | tuple | uniformTuple | record | parameters | oneOf | allOf |
    literal | literals =>
    rcases hdecides with hdecides | hdecides <;> cases hdecides <;> exact hr

/-- **What factories and modifiers build is composed** of checks that look at the shape of a value. -/
theorem Value.Built.composed {p : Value} (hp : p.Built I N) : p.Composed I N := by
  induction hp with
  | leaf l => exact .leaf l
  | @product r title p hp hr hparts ih =>
    obtain ⟨idName, hid, hdecides⟩ := hp
    have hcheck {check : Rule} (h : r.decides = .rule check ∨ r.decides = .predicate check) :=
      hr.check h
    generalize r.decides = d at hdecides ih hcheck
    cases hdecides with
    | rule id check => exact .predicate _ _ _ (.rule id (hcheck (.inl rfl)) ih)
    | predicate id name f id' check =>
      exact .predicate _ _ _ (.predicate _ _ _ (.rule id' (hcheck (.inr rfl)) ih))
    | callable => exact .predicate _ _ _ (ih _ List.mem_cons_self)

end

/-- A composed predicate answers with its verdict. -/
theorem Value.Composed.callWith_eq {I : Session → Prop} {N : Name → Prop} {p : Value}
    (hp : p.Composed I N) (host : Host) (x : Value) :
    Ask.callWith host p [x] = do return .bool (← (Ask.asked host p).accepts x) := by
  cases hp with
  | leaf l =>
    have hleaf : Ask.callWith host (.leaf l) [x] = do return .bool (← Leaf.ask l x) := rfl
    simp only [Asked.accepts, Ask.asked, hleaf, bind_assoc, pure_bind, truth_bool]
  | predicate id name facets => rw [Ask.callWith_predicate, Ask.accepts_predicate]
  | rule id =>
    rw [Ask.callWith_rule, Ask.accepts_rule_run]

/-! ## Names as keys -/

/-- What comes to one result wherever an invariant holds, and changes nothing, can be repeated. -/
theorem Run.Repeatable.of_exec {α : Type} {c : Conduct} {I : Session → Prop} {m : Run α} {a : α}
    (h : ∀ s, I s → exec c m s = .ok a s) : Repeatable c I m := by
  rintro cells cells' s s' ⟨hs, hs'⟩
  rw [h s hs.1, h s' hs'.1]
  exact .ok ⟨hs, hs'⟩

namespace Name.ServeAsKeys

variable {c : Conduct} {I : Session → Prop} {names : List Name} (h : ServeAsKeys c I names)
include h

theorem repeatable_hash (k : Name) (hk : k ∈ names) : Repeatable c I (Run.hash (.ofName k)) :=
  .of_exec fun _ hs => h.hash hk hs

/-- Names answer as keys of a mapping. -/
theorem keysAnswer {keys : List (Key Value)} (hkeys : ∀ key ∈ keys, ∃ k ∈ names, key = k.key) :
    KeysAnswer c I (· ∈ names) keys where
  identified key hkey := by
    obtain ⟨k, hk, rfl⟩ := hkeys key hkey
    exact h.identified hk
  compares key hkey name hname := by
    obtain ⟨k, hk, rfl⟩ := hkeys key hkey
    exact .of_exec fun _ hs => h.equivalent hk hname hs
  looksUp key hkey allowed hallowed := by
    obtain ⟨k, hk, rfl⟩ := hkeys key hkey
    refine .of_exec (a := allowed.any fun k' => k'.text == k.text) fun s hs => ?_
    change exec c (keyed (.ofName k) >>= fun key => hasMember key (allowed.map Name.key)) s = _
    rw [exec_bind, h.exec_keyed hs hk, Ending.andThen_ok, h.exec_hasMember hs hk hallowed]

end Name.ServeAsKeys

/-! ## Calls -/

namespace Build

/-- **The kind of a container does not matter.**  A product is built from leaves and primitive literals,
and the names of its fields are hashed in the same way whenever they are.  Values are related by `E` only
if they have the same shape: they are lists or tuples with related elements, mappings of the built-in
kinds with the same keys in the same order and related values, or otherwise the same value, about which
built callables say the same whenever they are asked.  The values may be inside themselves.  About any
two related values, the product then gives the same verdict or fails in the same way. -/
theorem call_kindred (host : Host) (n : Nat) {I : Session → Prop} {N : Name → Prop}
    (hI : Session.Spacious I)
    (hhash : ∀ name, N name → Repeatable (Ask.conduct host (n + 1)) I (Run.hash (.ofName name)))
    {p : Value} (hp : p.Built I N) {E : Value → Value → Prop}
    (hE : ∀ x y, E x y → x.Kindred host (Ask.conduct host (n + 1)) I N I I E y) {x y : Value}
    (hxy : E x y) {s s' : Session} (hs : I s) (hs' : I s') :
    (exec (Ask.conduct host (n + 2)) (call p [x]) s).Alike (Session.Both I I)
      (exec (Ask.conduct host (n + 2)) (call p [y]) s') := by
  have hcomposed := hp.composed
  have htreats := hcomposed.treatsAlike hI hhash
  have hagrees := htreats [] [] E (by simpa only [Session.holding_nil] using hE) x y hxy
  rw [Session.holding_nil] at hagrees
  rw [exec_call_of_sound host _ (hI.sound hs), exec_call_of_sound host _ (hI.sound hs'),
    hcomposed.callWith_eq, hcomposed.callWith_eq]
  refine Ending.Parallel.alike ((hagrees.bind fun b b' hb => ?_) s s' ⟨hs, hs'⟩)
  exact hb ▸ .pure rfl

/-- A product about lists of mappings with one field is built, and called about a list with a mapping,
and about a tuple with a read-only mapping that shows one which keeps an order. -/
theorem call_kindred_array :
    let c := Ask.conduct .none 3
    let fields : List (Name × Value) := [(.kept "a", .leaf .string)]
    let own := keyedFields [(.kept "a", .keptText "text")]
    let I := Session.Holding Session.Untouched [(0, ⟨.kind .dict, .dict (keyedFields fields)⟩),
      (1, ⟨.kind .dict, .dict own⟩), (2, ⟨.kind .orderedDict, .dict own⟩),
      (3, ⟨.kind .list, .list [.ref 1]⟩)]
    ∃ q p s s₁ s₂, I s ∧ exec c (object (.ref 0) (.bool true)) s = .ok q s₁ ∧
      exec c (array q) s₁ = .ok p s₂ ∧ p.Built I (· ∈ fields.map (·.1)) ∧
      (exec c (call p [.ref 3]) s₂).Alike (Session.Both I I)
        (exec c (call p [.tuple (.kind .tuple) 7 [.view 8 (.ref 2)]]) s₂) := by
  intro c fields own I
  have hI : Session.Spacious I := Session.spacious_untouched.holding _
  let s : Session := { Session.start with heap := { Heap.start with
    cells := #[⟨.kind .dict, .dict (keyedFields fields)⟩, ⟨.kind .dict, .dict own⟩,
      ⟨.kind .orderedDict, .dict own⟩, ⟨.kind .list, .list [.ref 1]⟩] } }
  have hs : I s := by
    refine ⟨⟨rfl, rfl, rfl, by decide, nofun⟩, ?_⟩
    exact List.forall_mem_cons.mpr ⟨rfl, List.forall_mem_cons.mpr ⟨rfl, List.forall_mem_cons.mpr
      ⟨rfl, List.forall_mem_singleton.mpr rfl⟩⟩⟩
  have hholds : ∀ s, I s → s.heap.HoldsFields 0 fields := fun s hs => hs.2 _ List.mem_cons_self
  have hfields (n : Nat) :=
    SteadyFields.of_leaves .none n hI.enduring.abiding (fun _ hs => hs.1) [("a", .string)] (by decide)
  -- The product is built.
  obtain ⟨q, s₁, hq, -, hs₁, hmade⟩ := @settles_object .none 2 _ _ _ _ true _ hI.enduring
    (fun _ _ => Nat.zero_le _) (hfields 2) _
    (settles_requireFields_dict hI.enduring (hfields 2) (by decide) hholds hs _)
  obtain ⟨p, s₂, hp, -, hs₂, hmade'⟩ := @settles_array .none 2 _ _ 0 hI.toLasting hs₁ _ _
    ⟨_, hmade.product.steady hI.enduring⟩
  have hbuilt : p.Built I (· ∈ fields.map (·.1)) := by
    refine .product hmade'.product trivial (List.forall_mem_singleton.mpr ?_)
    exact .product hmade.product (fun field hfield => List.mem_map_of_mem hfield)
      (List.forall_mem_singleton.mpr (.leaf .string))
  -- The values have the same shape.
  have hcell : ∀ s, I s → s.heap.cells[1]? = some ⟨.kind .dict, .dict own⟩ ∧
      s.heap.cells[2]? = some ⟨.kind .orderedDict, .dict own⟩ ∧
      s.heap.cells[3]? = some ⟨.kind .list, .list [.ref 1]⟩ := by
    rintro s ⟨-, hcells⟩
    simp only [List.forall_mem_cons] at hcells
    exact ⟨hcells.2.1, hcells.2.2.1, hcells.2.2.2.1⟩
  let E : Value → Value → Prop := fun v w =>
    v = .ref 3 ∧ w = .tuple (.kind .tuple) 7 [.view 8 (.ref 2)] ∨
      v = .ref 1 ∧ w = .view 8 (.ref 2) ∨ v = .keptText "text" ∧ w = .keptText "text"
  have hE : ∀ x y, E x y →
      x.Kindred .none (Ask.conduct .none 2) I (· ∈ fields.map (·.1)) I I E y := by
    rintro x y (⟨rfl, rfl⟩ | ⟨rfl, rfl⟩ | ⟨rfl, rfl⟩) <;> refine .resembling ?_
    · exact .arrays (.list fun s hs => (hcell s hs).2.2) (.tuple 7)
        (.cons (.inr (.inl ⟨rfl, rfl⟩)) .nil)
    · refine .mappings (.dict fun s hs => (hcell s hs).1)
        (.view 8 (.ordered (fun s hs => (hcell s hs).2.1) fun s hs m _ => hs.1.bare (fun _ => rfl) m.name))
        (.cons ⟨rfl, .inr (.inr ⟨rfl, rfl⟩)⟩ .nil) ?_
      exact (hfields 1).names.keysAnswer fun key hkey =>
        ⟨.kept "a", List.mem_cons_self, List.mem_singleton.mp hkey⟩
    · exact .primitive (k := .text) (by decide) (fun s hs => hs.1.isOrdinary rfl) (.inl rfl) rfl
  exact ⟨q, p, s, s₁, s₂, hs, hq, hp, hbuilt, call_kindred .none 1 hI (hfields 1).names.repeatable_hash
    hbuilt hE (.inl ⟨rfl, rfl⟩) hs₂ hs₂⟩

/-! ### Values that are told apart

The containers have to be read in the built-in way.  An attribute that is put into a mapping, or a
method of its class, can take the place of what is called, and then predicates tell the
difference. -/

/-- A session with the descriptor of one field, and with two mappings of different kinds with the same
entry.  The second one has an attribute of its own that stands for the method `get`. -/
def ownGetSession : Session :=
  let own := keyedFields [(.kept "a", .keptText "text")]
  let get := Value.function 2 (.kept "get") false (.silent (.scalar (.kind .int) 3 (.int 5)))
  { Session.start with heap := { Heap.start with
      cells := #[⟨.kind .dict, .dict (keyedFields [(.kept "a", .leaf .string)])⟩,
        ⟨.kind .dict, .dict own⟩, ⟨.kind .orderedDict, .dict own⟩]
      attributes := Heap.start.attributes ++ [⟨.ref 2, Method.get.name, get⟩] } }

/-- A session with two descriptors of one field, and with a list that has a mapping in it.  The class of
the mapping has a method of its own for the keys, which a script answers. -/
def ownKeysSession : Session :=
  let heap := Heap.start
  let c := Class.declared heap.declarations.size
  let keys := Value.function 2 (.kept "keys") false (.script 0)
  { Session.start with heap := { heap with
      cells := #[⟨.kind .dict, .dict (keyedFields [(.kept "a", .leaf .string)])⟩,
        ⟨.kind .dict, .dict (keyedFields [(.kept "a", .leaf .any)])⟩,
        ⟨c, .dict (keyedFields [(.kept "a", .keptText "text")])⟩, ⟨.kind .list, .list [.ref 2]⟩]
      declarations := heap.declarations.push
        ⟨.kept "M", [.kind .dict, .kind .object], .kind .dict, [.kind .dict]⟩
      attributes := heap.attributes ++ [⟨.ofClass c, Method.keys.name, keys⟩] } }

/-- The surroundings in which that script puts another value under the only key. -/
def overwritingHost : Host where
  script _ x := do
    modifyHeap fun h => { h with cells := h.cells.modify 2 fun cell =>
      { cell with contents := .dict (keyedFields [(.kept "a", .bool true)]) } }
    return .tuple (.kind .tuple) 4 (← iterate x)
  notice _ := return ()

/-- A product of one field accepts a mapping, and refuses one that keeps an order and has the same
entry: the attribute that was put into it is called for the value of the field.  And a product accepts a
list, and then refuses the tuple of its elements, because a mapping among them was changed by reading
its keys. -/
theorem call_tells_containers :
    (exec (Ask.conduct .none 5) (do
        let p ← object (.ref 0) (.bool false)
        return (← truth (← call p [.ref 1]), ← truth (← call p [.ref 2]))) ownGetSession).result? =
      some (true, false) ∧
    (exec (Ask.conduct overwritingHost 5) (do
        let loose ← object (.ref 0) (.bool false)
        let strict ← object (.ref 1) (.bool true)
        let p ← array (← allOf (.tuple (.kind .tuple) 5 [loose, strict]))
        let accepted ← truth (← call p [.ref 3])
        return (accepted, ← truth (← call p [.tuple (.kind .tuple) 6 [.ref 2]])))
      ownKeysSession).result? = some (true, false) := by
  decide +kernel

end Build

end ValueShape
