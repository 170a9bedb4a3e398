import ValueShape.Proofs.Build.Object

/-!
# Selecting fields

Which fields keys select, and what becomes of an `object_of` product all of whose recorded fields are
picked.

* `Run.selects_of_names` says which fields are selected by keys that are read as names.
* An `object_of` product asks its fields as they were listed, and records what they amount to as a
  mapping.  `Build.object_pick_all` says what follows for the product of all recorded fields: it asks
  what the fields amount to, which is the same where no name is listed twice.
* Where a name is listed twice, it need not be the same: `Build.object_pick_repeated`.
-/

set_option autoImplicit false

namespace ValueShape

open Run

namespace Run

section Names

variable {c : Conduct} {I : Session → Prop} {s : Session} (hI : Session.Abiding I)
  {names : List Name} (hnames : Name.ServeAsKeys c I names)
include hnames

/-- Whether a name is among members that are names. -/
theorem exec_containsMember_name (hs : I s) {k : Name} (hk : k ∈ names) {picked : List Name}
    (hpicked : ∀ k ∈ picked, k ∈ names) :
    exec c (containsMember (picked.map Name.key) (.ofName k)) s =
      .ok (picked.any fun k' => k'.text == k.text) s := by
  rw [containsMember, exec_bind, exec_heap, Ending.andThen_ok]
  change exec c (keyed (.ofName k) >>= fun key => hasMember key (picked.map Name.key)) s = _
  rw [exec_bind, hnames.exec_keyed hs hk, Ending.andThen_ok, hnames.exec_hasMember hs hk hpicked]

include hI

/-- Names that occur in a descriptor are not unknown. -/
theorem exec_unknownNames {place : Nat} {fields : List (Name × Value)}
    (hholds : ∀ s, I s → s.heap.HoldsFields place fields)
    (hfields : ∀ field ∈ fields, field.1 ∈ names) (hs : I s) (id : Nat)
    {picked : List Name} (hpicked : ∀ k ∈ picked, k ∈ names)
    (hknown : ∀ k ∈ picked, k.text ∈ fieldTexts fields) :
    exec c (Build.unknownNames (.view id (.ref place)) (picked.map Value.ofName)) s = .ok [] s := by
  induction picked with
  | nil => rfl
  | cons k picked ih =>
    obtain ⟨hk, hpicked⟩ := List.forall_mem_cons.mp hpicked
    obtain ⟨htext, hknown⟩ := List.forall_mem_cons.mp hknown
    have hany : (fields.any fun field => field.1.text == k.text) = true := by
      obtain ⟨field, hfield, heq⟩ := List.mem_map.mp htext
      exact List.any_eq_true.mpr ⟨field, hfield, by simpa using heq⟩
    rw [List.map_cons, Build.unknownNames, exec_bind,
      exec_contains_view hI hholds hnames hfields hs id hk, hany, Ending.andThen_ok, if_pos rfl]
    exact ih hpicked hknown

/-- Keys that are read as names of fields select the fields of these names. -/
theorem selects_of_names {fields : List (Name × Value)}
    (hfields : ∀ field ∈ fields, field.1 ∈ names) {keys : Value}
    {picked : List Name} (hpicked : ∀ k ∈ picked, k ∈ names)
    (hknown : ∀ k ∈ picked, k.text ∈ fieldTexts fields)
    (htext : Steadily c I (isOfAnyKind keys [.text, .bytes]) (· = false))
    (hread : Steadily c I (toMembers keys) (· = picked.map Name.key)) (hs : I s) (factory : String) :
    Selects c I s factory fields keys fun k => picked.any fun k' => k'.text == k.text := by
  intro id place hd
  let ds := [(place, fields)]
  have hJ : Session.Abiding (Session.Keeping I ds) := hI.keeping ds
  have hs : Session.Keeping I ds s := ⟨hs, by simpa [ds] using hd⟩
  have hnamesJ := hnames.keeping ds
  have hkeep : Settles c (Session.Keeping I ds) s
      (Build.requireKnown factory (.view id (.ref place)) keys)
      fun selected _ => selected = picked.map Name.key := by
    rw [Build.requireKnown]
    refine (htext ds s hs).bind fun b s₁ _ hs₁ hb => ?_
    subst hb
    refine (hread ds s₁ hs₁).bind fun selected s₂ _ hs₂ hselected => ?_
    subst hselected
    have hvalues : (picked.map Name.key).map (·.value) = picked.map Value.ofName := by
      rw [List.map_map]
      rfl
    rw [hvalues]
    have hunknown := exec_unknownNames hJ hnamesJ (fun s hs => hs.2 _ List.mem_cons_self) hfields hs₂ id
      hpicked hknown
    exact .after (exec_yielded_of_ok hunknown) (.of_exec_self hs₂ rfl rfl)
  refine (Settles.of_keeping ds hkeep).mono fun selected s' _ _ ⟨hselected, hd'⟩ =>
    ⟨hd' _ List.mem_cons_self, fun field hfield ds' s'' hs'' => ?_⟩
  subst hselected
  exact .of_exec_self hs''
    (exec_containsMember_name (hnames.keeping ds') hs'' (hfields field hfield) hpicked) rfl

/-- A tuple of names is read as these names, and is no text. -/
theorem steadily_tuple_of_names {picked : List Name} (hpicked : ∀ k ∈ picked, k ∈ names)
    (hnodup : (picked.map Name.text).Nodup) (id : Nat) :
    let keys := Value.tuple (.kind .tuple) id (picked.map Value.ofName)
    Steadily c I (isOfAnyKind keys [.text, .bytes]) (· = false) ∧
      Steadily c I (toMembers keys) (· = picked.map Name.key) := by
  intro keys
  refine ⟨fun ds s hs => ?_, fun ds s hs => ?_⟩
  · have hi := (hI.sound hs.1).intact
    refine .after (exec_isOfKind_tuple hi id _ .text) ?_
    refine .after (exec_isOfKind_tuple hi id _ .bytes) (.of_exec_self hs rfl rfl)
  · have hi := (hI.sound hs.1).intact
    have hiterates : ∀ {ks : List Name}, (∀ k ∈ ks, k ∈ names) →
        Iterates c (Session.Keeping I ds) (fun k w => w = .ofName k) ks
          (.rest (ks.map Value.ofName)) := by
      intro ks hks
      induction ks with
      | nil => exact iterates_rest (fun _ h => absurd h List.not_mem_nil)
      | cons k ks ih =>
        obtain ⟨hk, hks⟩ := List.forall_mem_cons.mp hks
        refine fun s hs => .of_exec_self hs
          (exec_next_rest_of_isIdentified c s (hnames.identified hk) _) ⟨_, _, rfl, rfl, ih hks⟩
    rw [toMembers]
    refine .after (exec_heap c s) ?_
    change Settles c _ s (toMembers.read keys) _
    rw [toMembers.read]
    refine .after (exec_cursor_tuple hi id _) ?_
    have hroom := hasRoom_rest (I := Session.Keeping I ds) (picked.map Value.ofName)
    rw [List.length_map] at hroom
    exact settles_insertMembers (hnames.keeping ds) (hiterates hpicked) hroom
      hpicked hnodup hs

end Names

end Run

/-- If every field is kept with its value, all of them are left. -/
theorem Changed.eq_of_kept {fields fields' : List (Name × Value)}
    {Q : Name × Value → Option Value → Prop} (h : Changed Q fields fields')
    (hQ : ∀ field ∈ fields, ∀ v?, Q field v? → v? = some field.2) : fields' = fields := by
  induction h with
  | nil => rfl
  | kept hv _ ih =>
    obtain ⟨hfield, hQ⟩ := List.forall_mem_cons.mp hQ
    cases hfield _ hv
    rw [ih hQ]
  | dropped hv _ _ => cases (List.forall_mem_cons.mp hQ).1 _ hv

namespace Run

variable (host : Host) (n : Nat) {I : Session → Prop} {s : Session} {fields : List (Name × Value)}
  {texts : List (String × String)} {strict : Bool} {title : String} {p : Value} {old old' : Nat}

/-- The product of all recorded fields is one of what the fields amount to. -/
theorem settles_pick_all (hI : Session.Abiding I) (hold : ∀ s, I s → old ≤ s.heap.cells.size)
    (hs : I s)
    (hfields : SteadyFields (Ask.conduct host (n + 1)) I fields texts)
    (hp : s.Makes old' (.object fields strict) title p) {keys : Value}
    (htext : Steadily (Ask.conduct host (n + 1)) I (isOfAnyKind keys [.text, .bytes]) (· = false))
    (hread : Steadily (Ask.conduct host (n + 1)) I (toMembers keys)
      (· = (distinctFields fields).map (·.1.key))) :
    Settles (Ask.conduct host (n + 1)) I s (Build.pickFields p keys) fun q s' =>
      ∃ title', s'.Makes old (.object (distinctFields fields) strict) title' q := by
  have hnames : (distinctFields fields).map (·.1.key) =
      ((distinctFields fields).map (·.1)).map Name.key := by
    rw [List.map_map]
    rfl
  rw [hnames] at hread
  have hmem : ∀ k ∈ (distinctFields fields).map (·.1), k ∈ fields.map (·.1) := by
    intro k hk
    obtain ⟨field, hfield, rfl⟩ := List.mem_map.mp hk
    exact SteadyFields.mem_names field hfield
  have hknown : ∀ k ∈ (distinctFields fields).map (·.1),
      k.text ∈ fieldTexts (distinctFields fields) := by
    intro k hk
    obtain ⟨field, hfield, rfl⟩ := List.mem_map.mp hk
    exact List.mem_map_of_mem hfield
  have hselects := selects_of_names hI hfields.names SteadyFields.mem_names hmem hknown htext hread
    hs Operation.pickOf.name
  refine (settles_selectedObject host n hI hold hs hfields hp hselects true).mono
    fun q s' _ _ ⟨fields', texts', hchanged, _, hq⟩ => ⟨objectTitle texts' strict, ?_⟩
  rwa [hchanged.eq_of_kept fun field hfield v? hv => ?_] at hq
  have hany : (((distinctFields fields).map (·.1)).any fun k => k.text == field.1.text) = true :=
    List.any_eq_true.mpr ⟨field.1, List.mem_map_of_mem hfield, beq_self_eq_true _⟩
  rw [hv, hany]
  rfl

end Run

/-- A product of fields asks them in the order in which they are listed. -/
theorem Recipe.Product.callWith_object {fields : List (Name × Value)} {strict : Bool}
    {title : String} {p : Value} (hp : (Recipe.object fields strict).Product title p) (host : Host)
    (x : Value) :
    Ask.callWith host p [x] = do
      let known := if strict then some ((distinctFields fields).map (·.1.key)) else none
      return .bool (← ((Check.object fields known).map (Ask.asked host)).run x) := by
  obtain ⟨_, hid, hdecides⟩ := hp
  cases hdecides
  rw [Ask.callWith_predicate_rule]

namespace Build

/-! ## All fields picked

Fields are recorded in a mapping, in which each name has one place.  So picking all of them makes
the same product again only if no name was listed twice. -/

/-- **All recorded fields picked.**  `object_of` makes a product that asks its fields as they are
listed, and shows in its metadata what they amount to.  The product of all recorded fields, picked at
any later time, as long as the mappings that the metadata shows stay as they are, asks what the fields
amount to.  If no name is listed twice, it does the same as the first one and ends in the same
way when it is called. -/
theorem object_pick_all (host : Host) (n : Nat) {I : Session → Prop} (hI : Session.Enduring I)
    {s : Session} {descriptor : Value} {fields : List (Name × Value)}
    {texts : List (String × String)} (strict : Bool)
    (hread : Settles (Ask.conduct host (n + 1)) I s
      (requireFields Operation.objectOf.name descriptor) fun fs _ => fs = fields)
    (hfields : SteadyFields (Ask.conduct host (n + 1)) I fields texts) :
    let c := Ask.conduct host (n + 1)
    let known := if strict then some ((distinctFields fields).map (·.1.key)) else none
    let asks (fields : List (Name × Value)) (x : Value) : Run Value := do
      return .bool (← ((Check.object fields known).map (Ask.asked host)).run x)
    ∃ p s₁, exec c (Build.object descriptor (.bool strict)) s = .ok p s₁ ∧ I s₁ ∧
      (∀ x, Ask.callWith host p [x] = asks fields x) ∧
      ∃ id id' i i' place place', exec c (metadata? p) s₁ = .ok (some (.metadata (.kind .metadata) id
          (.kept Operation.objectOf.name)
          (.tuple (.kind .tuple) id' [.view i (.ref place), .view i' (.ref place')]))) s₁ ∧
        s₁.heap.HoldsFields place (distinctFields fields) ∧
        s₁.heap.HoldsFields place' (Recipe.strictFields strict) ∧
        ∀ keys s₂, I s₂ → s₁.LeadsTo s₂ →
          s₂.heap.HoldsFields place (distinctFields fields) →
          s₂.heap.HoldsFields place' (Recipe.strictFields strict) →
          Steadily c I (isOfAnyKind keys [.text, .bytes]) (· = false) →
          Steadily c I (toMembers keys) (· = (distinctFields fields).map (·.1.key)) →
          ∃ q s₃, exec c (pickFields p keys) s₂ = .ok q s₃ ∧ I s₃ ∧
            (∀ x, Ask.callWith host q [x] = asks (distinctFields fields) x) ∧
            ((fieldTexts fields).Nodup → ∀ s', I s' → ∀ x,
              exec c (call q [x]) s' = exec c (call p [x]) s') := by
  intro c known asks
  have hobject : Settles c I s (Build.object descriptor (.bool strict)) fun p s' =>
      s'.Makes 0 (.object fields strict) (objectTitle texts strict) p :=
    settles_object host n hI (fun _ _ => Nat.zero_le _) hfields hread
  obtain ⟨p, s₁, hp, -, hs₁, hmakes⟩ := hobject
  obtain ⟨_, id, id', args, rfl, htold, hmetadata, -, -, hstays⟩ :=
    exec_metadata_makes host n (hI.sound hs₁) hmakes
  have hasks : ∀ x, Ask.callWith host p [x] = asks fields x := hmakes.product.callWith_object host
  cases htold with
  | object i place i' place' hplace hplace' hrecorded hstrict =>
  refine ⟨p, s₁, hp, hs₁, hasks, id, id', i, i', place, place', hmetadata, hrecorded, hstrict,
    fun keys s₂ hs₂ hle hrecorded' hstrict' htext hkeys => ?_⟩
  have hmakes' := hstays s₂ hle (.object i place i' place' hplace hplace' hrecorded' hstrict')
  have hpick : Settles c I s₂ (pickFields p keys) fun q s' =>
      ∃ title', s'.Makes 0 (.object (distinctFields fields) strict) title' q :=
    settles_pick_all host n hI (fun _ _ => Nat.zero_le _) hs₂ hfields hmakes' htext hkeys
  obtain ⟨q, s₃, hq, -, hs₃, title', hmakes''⟩ := hpick
  have hasks' : ∀ x, Ask.callWith host q [x] = asks (distinctFields fields) x := fun x => by
    rw [hmakes''.product.callWith_object host x,
      distinctFields_of_nodup (nodup_distinctFields fields)]
  refine ⟨q, s₃, hq, hs₃, hasks', fun hnodup s' hs' x => ?_⟩
  rw [exec_call_of_sound host n (hI.sound hs'), exec_call_of_sound host n (hI.sound hs'), hasks',
    hasks, distinctFields_of_nodup hnodup]

/-- A strict product of one field, which was described by a mapping of the built-in class, and the one
that is picked from it at once by a tuple of its name. -/
theorem object_pick_all_leaf :
    let c := Ask.conduct .none 3
    let fields : List (Name × Value) := [(.kept "a", .leaf .string)]
    let I := Session.Keeping Session.Untouched [(0, fields)]
    let s := Session.start.withDict (keyedFields fields)
    let keys := Value.tuple (.kind .tuple) 2 [.keptText "a"]
    (Session.Enduring I ∧
      (Settles c I s (requireFields Operation.objectOf.name (.ref 0)) fun fs _ => fs = fields) ∧
      ∃ texts, SteadyFields c I fields texts) ∧
      ∃ p s₁ q s₂, exec c (Build.object (.ref 0) (.bool true)) s = .ok p s₁ ∧
        exec c (pickFields p keys) s₁ = .ok q s₂ ∧
        ∀ s', I s' → ∀ x, exec c (call q [x]) s' = exec c (call p [x]) s' := by
  intro c fields I s keys
  have hI : Session.Enduring I := Session.enduring_untouched.keeping _
  have hs : I s := by
    refine ⟨Session.enduring_untouched.withDict .start _, fun d hd => ?_⟩
    rw [List.mem_singleton.mp hd]
    exact Session.holdsFields_withDict Session.start fields
  have hfields := SteadyFields.of_leaves .none 2 hI.abiding (fun _ hs => hs.1) [("a", .string)]
    (by decide)
  have hread := settles_requireFields_dict hI hfields (by decide)
    (fun _ hs => hs.2 _ (List.mem_singleton_self _)) hs Operation.objectOf.name
  have hkept : ∀ k ∈ [Name.kept "a"], k ∈ fields.map (·.1) := fun _ hk => hk
  obtain ⟨htext, hkeys⟩ := steadily_tuple_of_names hI hfields.names hkept (by decide) 2
  obtain ⟨p, s₁, hp, hs₁, -, _, _, _, _, _, _, -, hrecorded, hstrict, hpick⟩ :=
    object_pick_all .none 2 hI true hread hfields
  obtain ⟨q, s₂, hq, -, -, hsame⟩ :=
    hpick keys s₁ hs₁ (.refl s₁) hrecorded hstrict htext hkeys
  exact ⟨⟨hI, hread, _, hfields⟩, p, s₁, q, s₂, hp, hq, hsame (by decide)⟩

/-! ## Names that are listed twice -/

/-- A session with a mapping of a class of its own, which lists one name twice, and with a mapping of
the built-in class, which has a number for this name. -/
def repeatingSession : Session :=
  { Session.start with heap := { Heap.start with
      cells := #[
        ⟨.kind .foreign, .foreign ⟨[(.keptText "a", .leaf .string), (.keptText "a", .leaf .number)],
          [], ⟨.runtime, "unreadable"⟩⟩⟩,
        ⟨.kind .dict, .dict (keyedFields [(.kept "a", .scalar (.kind .int) 2 (.int 1))])⟩] } }

/-- A product of fields that list one name twice asks for both values, and the product of its one
recorded name only asks for the second one. -/
theorem object_pick_repeated :
    let verdicts : Run (Bool × Bool) := do
      let p ← Build.object (.ref 0) (.bool false)
      let q ← pickFields p (.tuple (.kind .tuple) 3 [.keptText "a"])
      return (← truth (← call p [.ref 1]), ← truth (← call q [.ref 1]))
    (exec (Ask.conduct .none 3) verdicts repeatingSession).result? = some (false, true) := by
  decide +kernel

end Build

end ValueShape
