import ValueShape.Proofs.Ask.Containment
import ValueShape.Proofs.Ask.Strict
import ValueShape.Proofs.Build.Selection

/-!
# Strict and loose products of one descriptor

`object_of` makes a strict and a loose product of the same fields.

* `Build.exec_object_ok` says which checks these products run, whatever the descriptor is.
* `Build.object_strict_loose` is the main result: where all keys of a mapping are among those of the
  descriptor, both products do the same, and everywhere else the strict one refuses at once.

Keys that are not the same but equal the same name are too many for a strict product, though each of
them would be allowed: `Build.strict_differs_from_loose`.
-/

set_option autoImplicit false

namespace ValueShape

open Run

namespace Build

variable {c : Conduct} {s s' : Session} {p : Value}

/-- A product leaves the decision to the callable that it was made with. -/
theorem exec_productBy_ok {factory : String} {args : List Value} {name : String}
    {optional readonly decider : Value}
    (h : exec c (productBy factory args name optional readonly decider) s = .ok p s') :
    ∃ id title facets, p = .predicate id title facets decider := by
  obtain ⟨_, _, -, h⟩ := exists_of_exec_bind h
  obtain ⟨_, _, -, h⟩ := exists_of_exec_bind h
  obtain ⟨q, _, hq, h⟩ := exists_of_exec_bind h
  obtain ⟨_, _, -, h⟩ := exists_of_exec_bind h
  obtain ⟨_, _, -, h⟩ := exists_of_exec_bind h
  cases h
  -- What is made is wrapped around the callable.
  obtain ⟨id, _, -, hq⟩ := exists_of_exec_bind hq
  obtain ⟨_, _, -, hq⟩ := exists_of_exec_bind hq
  obtain ⟨_, _, -, hq⟩ := exists_of_exec_bind hq
  obtain ⟨_, _, -, hq⟩ := exists_of_exec_bind hq
  obtain ⟨_, _, -, hq⟩ := exists_of_exec_bind hq
  obtain ⟨_, _, -, hq⟩ := exists_of_exec_bind hq
  obtain ⟨_, _, -, hq⟩ := exists_of_exec_bind hq
  cases hq
  exact ⟨id, _, _, rfl⟩

/-- A product runs the check that it was made with. -/
theorem exec_product_ok {factory : String} {args : List Value} {name : String} {check : Rule}
    (h : exec c (product factory args name check) s = .ok p s') :
    ∃ id title facets id', p = .predicate id title facets (.rule id' check) := by
  obtain ⟨id', _, -, h⟩ := exists_of_exec_bind h
  obtain ⟨id, title, facets, rfl⟩ := exec_productBy_ok h
  exact ⟨id, title, facets, id', rfl⟩

/-- Keys are those of the mapping that fields were recorded in. -/
def RecordedKeys (c : Conduct) (fields : List (Name × Value)) (keys : List (Key Value)) : Prop :=
  ∃ s recorded s₁ s₂ s₃, exec c (newView (fieldEntries fields)) s = .ok recorded s₁ ∧
    exec c (toMembers recorded) s₂ = .ok keys s₃

/-- `object_of` makes a product that asks the fields that it has read, and that knows the keys of the
recorded fields if it is strict. -/
theorem exec_object_ok {descriptor : Value} {strict : Bool}
    (h : exec c (object descriptor (.bool strict)) s = .ok p s') :
    ∃ fields s₁ keys, exec c (requireFields Operation.objectOf.name descriptor) s = .ok fields s₁ ∧
      RecordedKeys c fields keys ∧ ∃ id title facets id', p = .predicate id title facets
        (.rule id' (.object fields (if strict then some keys else none))) := by
  obtain ⟨fields, s₁, hread, h⟩ := exists_of_exec_bind h
  obtain ⟨_, s₂, -, h⟩ := exists_of_exec_bind h
  obtain ⟨recorded, s₃, hrecorded, h⟩ := exists_of_exec_bind h
  obtain ⟨_, s₄, -, h⟩ := exists_of_exec_bind h
  obtain ⟨keys, s₅, hkeys, h⟩ := exists_of_exec_bind h
  obtain ⟨_, _, -, h⟩ := exists_of_exec_bind h
  obtain ⟨_, _, -, h⟩ := exists_of_exec_bind h
  exact ⟨fields, s₁, keys, hread, ⟨s₂, recorded, s₃, s₄, s₅, hrecorded, hkeys⟩, exec_product_ok h⟩

/-- **Strict is loose and the containment of keys.**  A strict and a loose product are made of the same
fields.  They are called about a mapping whose distinct keys can be hashed and compare as an
equivalence does, in sessions that the fields do not tell apart, also after the keys have been read.
If every key is one of the descriptor, there are no more keys than the descriptor has, and both products
ask the same questions and end alike.  Otherwise the strict one is negative, and asks nothing. -/
theorem object_strict_loose (host : Host) {descriptor descriptor' p q : Value}
    {fields : List (Name × Value)} {s₀ s₁ s₂ s₃ s₄ s₅ : Session}
    (hp : exec c (object descriptor (.bool true)) s₀ = .ok p s₁)
    (hread : exec c (requireFields Operation.objectOf.name descriptor) s₀ = .ok fields s₂)
    (hq : exec c (object descriptor' (.bool false)) s₃ = .ok q s₄)
    (hread' : exec c (requireFields Operation.objectOf.name descriptor') s₃ = .ok fields s₅) :
    ∃ allowed, RecordedKeys c fields allowed ∧
      (∃ id title facets id', p = .predicate id title facets
        (.rule id' (.object fields (some allowed)))) ∧
      ∀ (c : Conduct) (R : Session → Session → Prop) (x : Value) (keys : List (Key Value))
        (same : Key Value → Key Value → Option Bool), ListsKeys c R x allowed keys same →
        (∀ field ∈ fields, Check.FieldIsBlind (fun f => (Ask.asked host f).accepts) c R x field) →
        ∀ s s', R s s' →
          let strict := Ask.checking host c (.object fields (some allowed)) x s
          let loose := Ask.checking host c (.object fields none) x s'
          exec c (Ask.callWith host p [x]) s = strict.ending.map .bool ∧
          exec c (Ask.callWith host q [x]) s' = loose.ending.map .bool ∧
          ((∀ key ∈ keys, IsAllowed same allowed key) → keys.length ≤ allowed.length ∧
            strict.Alike R (fun _ _ v w => v = w) loose) ∧
          ((∃ key ∈ keys, ¬IsAllowed same allowed key) → strict.RefusesAtOnce) := by
  obtain ⟨fs, _, allowed, hfs, hallowed, _, _, _, id, rfl⟩ := exec_object_ok hp
  obtain ⟨fs', _, _, hfs', -, _, _, _, id', rfl⟩ := exec_object_ok hq
  cases hread.symm.trans hfs
  cases hread'.symm.trans hfs'
  refine ⟨allowed, hallowed, ⟨_, _, _, _, rfl⟩, fun c R x keys same hkeys hfields s s' hs => ?_⟩
  -- A product asks its fields directly.
  have hqueries : ∀ field ∈ fields.map fun field => (field.1, (⟨.plain, field.2⟩ : Query Value)),
      Check.FieldIsBlind (Ask.answer host) c R x field := List.forall_mem_map.mpr hfields
  obtain ⟨hall, hnot⟩ := Check.course_strict hkeys hqueries hs
  refine ⟨?_, ?_, hall, hnot⟩
  · rw [Ask.callWith_predicate_rule, ← Ask.callWith_rule host id, if_pos rfl]
    exact Ask.exec_callWith_rule host c id _ x s
  · rw [Ask.callWith_predicate_rule, ← Ask.callWith_rule host id', if_neg Bool.false_ne_true]
    exact Ask.exec_callWith_rule host c id' _ x s'

/-! ### A mapping of the built-in class -/

theorem exec_accepts_any (host : Host) (c : Conduct) (x : Value) (s : Session) :
    exec c ((Ask.asked host (.leaf .any)).accepts x) s = .ok true s := by
  have hask : exec c (Leaf.ask .any x) s = .ok true s := by
    rw [Leaf.ask, exec_bind, exec_heap, Ending.andThen_ok, exec_bind, exec_asksForClass]
    cases s.heap.readsAttributes x <;> rfl
  have hcall : Ask.asked host (.leaf .any) x = do return .bool (← Leaf.ask .any x) := rfl
  rw [Asked.accepts, hcall, exec_bind, exec_bind, hask]
  rfl

/-- A strict and a loose product of one field, and a mapping of the built-in class with this field only.
Its key is allowed, and both products do the same. -/
theorem object_strict_loose_dict :
    let c := Ask.conduct .none 3
    let fields : List (Name × Value) := [(.kept "a", .leaf .any)]
    let own : List (Name × Value) := [(.kept "a", .scalar (.kind .int) 2 (.int 1))]
    let I := Session.Keeping Session.Untouched [(0, fields), (1, own)]
    let s := (Session.start.withDict (keyedFields fields)).withDict (keyedFields own)
    let R := fun s s' => I s ∧ I s'
    ∃ p s₁ q s₂ s₃ s₄, exec c (object (.ref 0) (.bool true)) s = .ok p s₁ ∧
      exec c (requireFields Operation.objectOf.name (.ref 0)) s = .ok fields s₃ ∧
      exec c (object (.ref 0) (.bool false)) s₁ = .ok q s₂ ∧
      exec c (requireFields Operation.objectOf.name (.ref 0)) s₁ = .ok fields s₄ ∧
      (ListsKeys c R (.ref 1) (fields.map (·.1.key)) (own.map (·.1.key)) fun _ _ => some true) ∧
      (∀ field ∈ fields, Check.FieldIsBlind (fun f => (Ask.asked .none f).accepts) c R (.ref 1) field) ∧
      (Ask.checking .none c (.object fields (some (fields.map (·.1.key)))) (.ref 1) s₂).Alike R
        (fun _ _ v w => v = w) (Ask.checking .none c (.object fields none) (.ref 1) s₂) := by
  intro c fields own I s R
  have hI : Session.Enduring I := Session.enduring_untouched.keeping _
  have hs : I s := by
    refine ⟨Session.enduring_untouched.withDict (Session.enduring_untouched.withDict .start _) _, ?_⟩
    exact List.forall_mem_cons.mpr ⟨rfl, List.forall_mem_singleton.mpr rfl⟩
  have hholds : ∀ s, I s → s.heap.HoldsFields 0 fields := fun s hs => hs.2 _ List.mem_cons_self
  have hown : ∀ s, I s → s.heap.HoldsFields 1 own :=
    fun s hs => hs.2 _ (List.mem_cons_of_mem _ List.mem_cons_self)
  have hfields := SteadyFields.of_leaves .none 2 hI.abiding (fun _ hs => hs.1) [("a", .any)]
    (by decide)
  have hread : ∀ s, I s → Settles c I s (requireFields Operation.objectOf.name (.ref 0))
      fun fs _ => fs = fields := fun s hs =>
    settles_requireFields_dict hI hfields (by decide) hholds hs _
  obtain ⟨p, s₁, hp, -, hs₁, ⟨hproduct, -⟩⟩ := @settles_object .none 2 _ _ _ _ true _ hI
    (fun _ _ => Nat.zero_le _) hfields _ (hread s hs)
  obtain ⟨q, s₂, hq, -, hs₂, -⟩ := @settles_object .none 2 _ _ _ _ false _ hI
    (fun _ _ => Nat.zero_le _) hfields _ (hread s₁ hs₁)
  obtain ⟨_, s₃, hread₁, -, -, rfl⟩ := hread s hs
  obtain ⟨_, s₄, hread₂, -, -, rfl⟩ := hread s₁ hs₁
  have ha : Name.kept "a" ∈ fields.map (·.1) := List.mem_cons_self
  have hkeys : ListsKeys c R (.ref 1) (fields.map (·.1.key)) (own.map (·.1.key))
      fun _ _ => some true := by
    have hmapping : ∀ s, I s → exec c (Look.mapping (.ref 1)).read s = .ok true s := fun s hs =>
      exec_isOfKind_dict c (hI.regular hs) (hown s hs) .mapping
    refine ⟨fun s s' hs => ⟨s, s', hs, hmapping s hs.1, hmapping s' hs.2⟩, .of_settles fun s hs => ?_,
      fun key hkey => ?_, fun key hkey stored hstored => ?_, ⟨fun _ => rfl, fun _ _ _ => rfl,
        fun _ _ _ _ _ => rfl⟩, List.pairwise_singleton _ _⟩
    · refine (settles_readParts (exec_listing c (hI.regular hs) (hown s hs) .keys)
        (iterates_entries hI hown (fun _ hfield => ?_) (fun _ hfield => ?_) .keys)
        (hasRoom_entries hown .keys 0) hs).mono fun ws _ _ _ hws => ?_
      · rw [List.mem_singleton.mp hfield]; rfl
      · rw [List.mem_singleton.mp hfield]; rfl
      · change List.Forall₂ _ [_] ws at hws
        rcases hws with _ | ⟨hw, ⟨⟩⟩
        rw [hw]
        rfl
    · rw [List.mem_singleton.mp hkey]
      exact .of_settles fun s hs => .of_exec_self hs (hfields.names.hash ha hs) rfl
    · rw [List.mem_singleton.mp hkey]
      have hstored : stored = (Name.kept "a").key := by simpa [fields, own] using hstored
      rw [hstored]
      exact .of_settles fun s hs => .of_exec_self hs (hfields.names.exec_isKey hs ha ha) rfl
  have hblind : ∀ field ∈ fields,
      Check.FieldIsBlind (fun f => (Ask.asked .none f).accepts) c R (.ref 1) field := by
    intro field hfield
    rw [List.mem_singleton.mp hfield]
    refine ⟨.of_settles fun s hs => .of_exec_self hs (exec_getValue hI hown hfields.names
      (fun _ hfield => by rw [List.mem_singleton.mp hfield]; exact ha) hs ha _) rfl, fun v _ _ _ _ _ =>
        .of_settles fun s hs => .of_exec_self hs (exec_accepts_any .none c v s) rfl⟩
  obtain ⟨allowed, -, ⟨_, _, _, _, hrule⟩, hcalls⟩ := object_strict_loose .none hp hread₁ hq hread₂
  obtain rfl : allowed = fields.map (·.1.key) := by
    cases hproduct with
    | mk _ _ hdecides =>
      cases hdecides
      cases hrule
      rfl
  obtain ⟨-, -, hsame, -⟩ := hcalls c R (.ref 1) _ _ hkeys hblind s₂ s₂ ⟨hs₂, hs₂⟩
  refine ⟨p, s₁, q, s₂, s₃, s₄, hp, hread₁, hq, hread₂, hkeys, hblind, (hsame ?_).2⟩
  exact fun key _ => rfl

/-! ## Keys that change what is read

A strict product looks up the keys, and the loose one does not.  If that has an effect on the
mapping, or on the answers, the verdicts can differ. -/

/-- A session with the descriptor of one field, with a mapping, and with a class that has one
attribute. -/
def describingOneSession (name : String) (leaf : Leaf) (base : Kind) (member : String × Value)
    (own : Class → Cell) : Session :=
  let heap := Heap.start
  let c := Class.declared heap.declarations.size
  { Session.start with heap := { heap with
      cells := #[⟨.kind .dict, .dict (keyedFields [(.kept name, .leaf leaf)])⟩, own c]
      declarations := heap.declarations.push
        ⟨.kept "C", [.kind base, .kind .object], .kind base, [.kind base]⟩
      attributes := heap.attributes ++ [⟨.ofClass c, member.1, member.2⟩] } }

/-- The verdicts of a strict and of a loose product on the mapping of such a session. -/
def strictAndLoose : Run (Bool × Bool) := do
  let p ← object (.ref 0) (.bool true)
  let q ← object (.ref 0) (.bool false)
  let loose ← truth (← call q [.ref 1])
  return (← truth (← call p [.ref 1]), loose)

/-- A class of texts whose objects equal the empty text, and nothing else. -/
def emptyKeysSession : Session :=
  describingOneSession "" .any .text
    (Method.equality.name, .predicate 3 (.plain "") .none (.rule 4 (.literal (.keptText "")))) fun c =>
      ⟨.kind .dict, .dict (keyedFields [(⟨"", c, 5⟩, .null), (⟨"", c, 6⟩, .null)])⟩

/-- A mapping that is changed when it is asked for its keys, by a script. -/
def changedByKeysSession : Session :=
  describingOneSession "a" .null .dict
    (Method.keys.name, .function 3 (.kept "keys") false (.script 0)) fun c =>
      ⟨c, .dict (keyedFields [(.kept "a", .null)])⟩

/-- The surroundings in which that script puts another value under the only key. -/
def changingHost : Host where
  script _ x := do
    modifyHeap fun h => { h with cells := h.cells.modify 1 fun cell =>
      { cell with contents := .dict (keyedFields [(.kept "a", .bool true)]) } }
    return .tuple (.kind .tuple) 7 (← iterate x)
  notice _ := return ()

/-- Two keys that are different but equal to the only name of a descriptor are too many for a strict
product, and a mapping that is changed by reading its keys is read differently: the loose products
accept both mappings. -/
theorem strict_differs_from_loose :
    (exec (Ask.conduct .none 5) (do
        let stored := Value.scalar (.kind .text) 8 (.text "")
        let keys ← iterate (.ref 1)
        let equalities ← (stored :: keys).mapM fun k => keys.mapM (equivalent k)
        return (equalities, ← strictAndLoose)) emptyKeysSession).result? =
      some ([[true, true], [true, false], [false, true]], false, true) ∧
    (exec (Ask.conduct changingHost 5) strictAndLoose changedByKeysSession).result? =
      some (false, true) := by
  decide +kernel

end Build

end ValueShape
