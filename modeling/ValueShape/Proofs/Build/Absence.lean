import ValueShape.Proofs.Ask.Lookup
import ValueShape.Proofs.Build.Split

/-!
# Absent fields

An `object_of` product sees nothing of a mapping but the values under the names of its fields, and if it
is strict, whether there are other keys.

* `Session.Makes.exec_callWith` says that asking a product is to run its check, so it is the course of that.
* `Build.object_absent` is the main result: an absent field may as well be stored as the absent value, the
  order of the entries does not matter, and other keys do not matter to a loose product.
* This takes keys that equal one name at most, and mappings that are not changed in the meantime:
  `Build.object_tells_entries`.
-/

set_option autoImplicit false

namespace ValueShape

open Run

/-- The check of a product. -/
def Check.ofFields (fields : List (Name × Value)) (strict : Bool) : Rule :=
  .object fields (if strict then some ((fields.map (·.1)).map Name.key) else none)

/-- To call a product of fields that list no name twice is to run its check. -/
theorem Session.Makes.exec_callWith {s₀ : Session} {old : Nat} {fields : List (Name × Value)}
    {strict : Bool} {title : String} {p : Value} (hp : s₀.Makes old (.object fields strict) title p)
    (hnodup : (fieldTexts fields).Nodup) (host : Host) (c : Conduct) (x : Value) (s : Session) :
    exec c (Ask.callWith host p [x]) s =
      (Ask.checking host c (.ofFields fields strict) x s).ending.map .bool := by
  rw [← Ask.exec_callWith_rule host c 0, hp.callWith_object host hnodup, Ask.callWith_rule,
    Check.ofFields, List.map_map]
  rfl

namespace Build

/-- **An absent field is one that is stored as the absent value, and only fields matter.**  A product is
made of fields that list no name twice.  It is called about two mappings of built-in classes, in sessions
that the field predicates do not tell apart when they are asked about what is stored under the names.
Neither mapping is changed in the meantime.  Then it asks the same questions about both, with the same
answers, and gives the same verdict or fails in the same way,

* if the second one has one more entry, with the absent value under a key that stands for the name of a
  field, and if the first one has no such key,
* if the entries of the second one are those of the first one in another order,
* or if the product is loose, and what is stored under the names of the fields is the same. -/
theorem object_absent (host : Host) (n : Nat) {I₀ : Session → Prop} (hI₀ : Session.Abiding I₀)
    {s₀ : Session} {descriptor : Value} {fields : List (Name × Value)} {texts : List (String × String)}
    (strict : Bool)
    (hread : Settles (Ask.conduct host (n + 1)) I₀ s₀
      (requireFields Operation.objectOf.name descriptor) fun fs _ => fs = fields)
    (hfields : SteadyFields (Ask.conduct host (n + 1)) I₀ fields texts)
    (hnodup : (fieldTexts fields).Nodup) :
    Settles (Ask.conduct host (n + 1)) I₀ s₀ (Build.object descriptor (.bool strict)) fun p _ =>
      ∀ (c : Conduct) (R : Session → Session → Prop) (textOf : Key Value → Option String)
        (I I' : Session → Prop) (x x' : Value) (es es' : List Entry),
        TwoMappings textOf c R (fields.map (·.1)) strict I I' x es x' es' →
        (∀ field ∈ fields, Blind c R
          ((Ask.asked host field.2).accepts ((storedUnder textOf es field.1).getD .undefined))) →
        ∀ s s', R s s' →
          let course := Ask.checking host c (.ofFields fields strict) x s
          let course' := Ask.checking host c (.ofFields fields strict) x' s'
          exec c (Ask.callWith host p [x]) s = course.ending.map .bool ∧
          exec c (Ask.callWith host p [x']) s' = course'.ending.map .bool ∧
          (∀ field ∈ fields, ∀ key, (∀ e ∈ es, textOf e.1 ≠ some field.1.text) →
            textOf key = some field.1.text → es' = es ++ [(key, .undefined)] →
            course.Alike R (fun _ _ v w => v = w) course') ∧
          (es.Perm es' → course.Alike R (fun _ _ v w => v = w) course') ∧
          (strict = false →
            (∀ field ∈ fields, (storedUnder textOf es field.1).getD .undefined =
              (storedUnder textOf es' field.1).getD .undefined) →
            course.Alike R (fun _ _ v w => v = w) course') := by
  have hobject : Settles (Ask.conduct host (n + 1)) I₀ s₀ (Build.object descriptor (.bool strict))
      fun p s₁ => s₁.Makes 0 (.object fields strict) (objectTitle texts strict) p :=
    settles_object host n hI₀ (fun _ _ => Nat.zero_le _) hfields hread
  refine hobject.mono fun p s₁ _ _ hp c R textOf I I' x x' es es' htwo hblind s s' hs => ?_
  -- A product asks its fields directly.
  let queries := fields.map fun field => (field.1, (⟨.plain, field.2⟩ : Query Value))
  have hanswer : ∀ field ∈ queries, Blind c R (Ask.answer host field.2
      ((storedUnder textOf es field.1).getD .undefined)) := List.forall_mem_map.mpr hblind
  have halike (hsame : ∀ field ∈ fields, (storedUnder textOf es field.1).getD .undefined =
        (storedUnder textOf es' field.1).getD .undefined)
      (hkeys : strict = true → allNamed textOf (fields.map (·.1)) (es.map (·.1)) =
        allNamed textOf (fields.map (·.1)) (es'.map (·.1))) :
      (Ask.checking host c (.ofFields fields strict) x s).Alike R (fun _ _ v w => v = w)
        (Ask.checking host c (.ofFields fields strict) x' s') := by
    have hstored : ∀ field ∈ queries, (storedUnder textOf es field.1).getD .undefined =
        (storedUnder textOf es' field.1).getD .undefined := List.forall_mem_map.mpr hsame
    have hobject := Check.object_alike htwo hstored hanswer List.map_map hkeys hs
    cases strict <;> exact hobject
  refine ⟨hp.exec_callWith hnodup host c x s, hp.exec_callWith hnodup host c x' s', ?_, ?_, ?_⟩
  · rintro field hfield key hnone hkey rfl
    refine halike (fun f hf => ?_) fun _ => ?_
    · rw [storedUnder_append, storedUnder_singleton]
      split
      · -- The names of the field and of this one are the same, so there is no such entry before.
        have htext : storedUnder textOf es f.1 = none := by
          rw [storedUnder, Option.map_eq_none_iff, List.find?_eq_none]
          intro e he heq
          exact hnone e he ((beq_iff_eq.mp heq).trans (by rw [← ‹textOf key = some f.1.text›, hkey]))
        rw [htext]
        rfl
      · rw [Option.or_none]
    · have hallowed : allNamed textOf (fields.map (·.1)) [key] = true := by
        simp only [allNamed, List.all_cons, List.all_nil, Bool.and_true, List.any_eq_true, List.mem_map,
          beq_iff_eq]
        exact ⟨field.1, ⟨field, hfield, rfl⟩, hkey⟩
      rw [List.map_append, allNamed_append, List.map_singleton, hallowed, Bool.and_true]
  · intro hperm
    exact halike (fun f _ => congrArg (·.getD .undefined) (storedUnder_perm hperm htwo.stand.distinct f.1))
      fun _ => allNamed_perm (hperm.map _)
  · intro hloose hsame
    exact halike hsame fun hstrict => absurd (hloose.symm.trans hstrict) Bool.false_ne_true

/-- A strict product of two fields, and two mappings of the built-in class.  One of the fields is missing in
the first mapping, and the second one has the absent value for it.  The product does the same about both. -/
theorem object_absent_dict :
    let c := Ask.conduct .none 3
    let fields : List (Name × Value) := [(.kept "a", .leaf .any), (.kept "b", .leaf .any)]
    let own : List (Name × Value) := [(.kept "a", .scalar (.kind .int) 2 (.int 1))]
    let own' : List (Name × Value) := own ++ [(.kept "b", .undefined)]
    let I := Session.Holding Session.Untouched [(0, ⟨.kind .dict, .dict (keyedFields fields)⟩),
      (1, ⟨.kind .dict, .dict (keyedFields own)⟩), (2, ⟨.kind .dict, .dict (keyedFields own')⟩)]
    let R := fun s s' : Session => s = s' ∧ I s
    ∃ s p s₁, I s ∧ exec c (object (.ref 0) (.bool true)) s = .ok p s₁ ∧ I s₁ ∧
      TwoMappings (·.value.text?) c R (fields.map (·.1)) true I I (.ref 1) (keyedFields own) (.ref 2)
        (keyedFields own') ∧
      (exec c (Ask.callWith .none p [.ref 1]) s₁).Alike R (exec c (Ask.callWith .none p [.ref 2]) s₁) := by
  intro c fields own own' I R
  have hI : Session.Spacious I := Session.spacious_untouched.holding _
  let s : Session := { Session.start with heap := { Heap.start with
    cells := #[⟨.kind .dict, .dict (keyedFields fields)⟩, ⟨.kind .dict, .dict (keyedFields own)⟩,
      ⟨.kind .dict, .dict (keyedFields own')⟩] } }
  have hs : I s := by
    refine ⟨⟨rfl, rfl, rfl, by decide, nofun⟩, ?_⟩
    exact List.forall_mem_cons.mpr ⟨rfl, List.forall_mem_cons.mpr ⟨rfl, List.forall_mem_singleton.mpr rfl⟩⟩
  have hcells : ∀ s, I s → s.heap.HoldsFields 0 fields ∧ s.heap.HoldsFields 1 own ∧
      s.heap.HoldsFields 2 own' := by
    rintro s ⟨-, hcells⟩
    simp only [List.forall_mem_cons] at hcells
    exact ⟨hcells.1, hcells.2.1, hcells.2.2.1⟩
  have hfields := SteadyFields.of_leaves .none 2 hI.enduring.abiding (fun _ hs => hs.1)
    [("a", .any), ("b", .any)] (by decide)
  obtain ⟨p, s₁, hp, -, hs₁, hcalls⟩ := object_absent .none 2 hI.enduring.abiding true
    (settles_requireFields_dict hI.enduring.abiding hfields (by decide) (fun s hs => (hcells s hs).1) hs
      _) hfields (by decide)
  have hleft : ∀ s s', R s s' → I s := fun _ _ hs => hs.2
  have hright : ∀ s s', flip R s s' → I s := by
    rintro s s' ⟨rfl, hs⟩
    exact hs
  have hstand {own : List Name} (hown : ∀ k ∈ own, k ∈ fields.map (·.1))
      (hnodup : (own.map Name.text).Nodup) {R : Session → Session → Prop}
      (hR : ∀ s s', R s s' → I s) :=
    hfields.names.standFor hR (fun _ hk => hk) hown hnodup
  have hown := hstand (show ∀ k ∈ own.map (·.1), k ∈ fields.map (·.1) by decide) (by decide) hleft
  have hown' := hstand (show ∀ k ∈ own'.map (·.1), k ∈ fields.map (·.1) by decide) (by decide) hright
  have htwo : TwoMappings (·.value.text?) c R (fields.map (·.1)) true I I (.ref 1) (keyedFields own)
      (.ref 2) (keyedFields own') :=
    { spacious := hI
      spacious' := hI
      mapping := .dict fun s hs => (hcells s hs).2.1
      mapping' := .dict fun s hs => (hcells s hs).2.2
      invariants := fun s s' hs => ⟨hs.2, hs.1 ▸ hs.2⟩
      stand := hown.1
      stand' := hown'.1
      listed := fun _ => ⟨hown.2, hown'.2⟩ }
  have hblind : ∀ field ∈ fields, Blind c R ((Ask.asked .none field.2).accepts
      ((storedUnder (·.value.text?) (keyedFields own) field.1).getD .undefined)) := by
    intro field hfield t t' ht
    have hleaf : ∀ field ∈ fields, field.2 = .leaf .any :=
      List.forall_mem_cons.mpr ⟨rfl, List.forall_mem_singleton.mpr rfl⟩
    rw [hleaf field hfield, exec_accepts_any, exec_accepts_any]
    exact .ok ht
  obtain ⟨hcall, hcall', habsent, -⟩ :=
    hcalls c R _ I I (.ref 1) (.ref 2) _ _ htwo hblind s₁ s₁ ⟨rfl, hs₁⟩
  have hb : (Name.kept "b", Value.leaf .any) ∈ fields := List.mem_cons_of_mem _ List.mem_cons_self
  have hnone : ∀ e ∈ keyedFields own, e.1.value.text? ≠ some "b" := by decide
  have halike := habsent _ hb (Name.kept "b").key hnone rfl rfl
  refine ⟨s, p, s₁, hs, hp, hs₁, htwo, ?_⟩
  rw [hcall, hcall']
  exact halike.ending.map Value.bool

/-! ## Keys that equal the same name, and mappings that change

Both conditions on the mapping are needed: no two keys may equal the same name, and asking the
fields must leave the mapping as it is. -/

/-- A session with the descriptor of one field, and with a mapping of the built-in class whose keys are of
a class of texts that equal the empty text, and nothing else. -/
def emptyTextKeysSession (values : Value × Value) : Session :=
  describingOneSession "" .null .text
    (Method.equality.name, .predicate 3 (.plain "") .none (.rule 4 (.literal (.keptText "")))) fun c =>
      ⟨.kind .dict, .dict (keyedFields [(⟨"", c, 5⟩, values.1), (⟨"", c, 6⟩, values.2)])⟩

/-- The verdict of a product on that mapping. -/
def emptyTextVerdict (values : Value × Value) : Option Bool :=
  let verdict : Run Bool := do
    let p ← object (.ref 0) (.bool false)
    truth (← call p [.ref 1])
  (exec (Ask.conduct .none 5) verdict (emptyTextKeysSession values)).result?

/-- The surroundings in which a script stores a value in a mapping. -/
def storingHost : Host where
  script _ _ := do
    modifyHeap fun h => { h with cells := h.cells.modify 1 fun cell =>
      { cell with contents := .dict (keyedFields [(.kept "b", .bool true)]) } }
    return .bool true
  notice _ := return ()

/-- Where two keys that are different equal the same name, the first one counts, so the order matters.
And a predicate that stores a value in an empty mapping, while that is asked for its first field, makes the
second field present.  In a mapping that has the absent value there, the field stays absent. -/
theorem object_tells_entries :
    emptyTextVerdict (.null, .bool true) = some true ∧
    emptyTextVerdict (.bool true, .null) = some false ∧
    (exec (Ask.conduct storingHost 5) (do
        let p ← object (.ref 0) (.bool false)
        let stored ← truth (← call p [.ref 2])
        return (stored, ← truth (← call p [.ref 1])))
      (((Session.start.withDict (keyedFields [(.kept "a", .function 2 (.kept "f") false (.script 0)),
        (.kept "b", .leaf .undefined)])).withDict []).withDict
          (keyedFields [(.kept "b", .undefined)]))).result? = some (true, false) := by
  decide +kernel

end Build

end ValueShape
