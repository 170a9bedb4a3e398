import Mathlib.Data.List.Induction
import ValueShape.Proofs.Conduct.Entries
import ValueShape.Proofs.Store.Mapping

/-!
# Reading mappings

What the readings of mappings of the built-in class give, and those of the read-only mappings that
show them.

* `Run.iterates_entries` says that an iteration over a part of a mapping yields one element for each
  field, and `Run.exec_foldUpTo_entries` how far one has come after the first of them.
* `Run.settles_readEntries` are the entries as pairs, and `Run.settles_toMembers` the names as the
  members of a set.
* `Run.exec_item_view` and `Run.exec_contains_view` look up a name.
* `Run.settles_newView` says what a new read-only mapping shows.
-/

set_option autoImplicit false

namespace ValueShape

namespace Run

variable (c : Conduct) {s : Session} {place : Nat} {fields : List (Name × Value)}

/-! ## Opening a mapping -/

/-- The method through which a mapping is read, as long as its class has it from a kind. -/
theorem exec_findMethod_of_inherited {k owner : Kind} (hv : s.heap.IsOrdinary k (.ref place))
    (hreading : Heap.start.classSlot? .readAttribute (.kind k) = none)
    (hmissing : Heap.start.classSlot? .missingAttribute (.kind k) = none) {m : Method}
    (hm : m.isOfMappings = true) (hbare : s.heap.assigned? (.ref place) m.name = none)
    (hin : Heap.start.inherited? (.kind k) m.name = some (.native owner)) :
    exec c (findMethod (.ref place) m) s = .ok (.native owner) s := by
  rw [findMethod, exec_bind, exec_heap, Ending.andThen_ok, hv.slot?, hv.slot?, hreading, hmissing,
    hv.find?_method hm hbare hin]
  rfl

theorem exec_listing_of_inherited {k owner : Kind} (hv : s.heap.IsOrdinary k (.ref place))
    (hreading : Heap.start.classSlot? .readAttribute (.kind k) = none)
    (hmissing : Heap.start.classSlot? .missingAttribute (.kind k) = none) (part : Part)
    (hbare : s.heap.assigned? (.ref place) part.method.name = none)
    (hin : Heap.start.inherited? (.kind k) part.method.name = some (.native owner)) :
    exec c (listing part (.ref place)) s = exec c (nativeListing owner part (.ref place)) s := by
  rw [listing, exec_bind, exec_findMethod_of_inherited c hv hreading hmissing part.isOfMappings_method
    hbare hin, Ending.andThen_ok, callListing]
  intros
  contradiction

/-- The value under a key, as long as the class of the mapping has the method for it from a kind. -/
theorem exec_getValue_of_inherited {k owner : Kind} (hv : s.heap.IsOrdinary k (.ref place))
    (hreading : Heap.start.classSlot? .readAttribute (.kind k) = none)
    (hmissing : Heap.start.classSlot? .missingAttribute (.kind k) = none)
    (hbare : s.heap.assigned? (.ref place) Method.get.name = none)
    (hin : Heap.start.inherited? (.kind k) Method.get.name = some (.native owner))
    (key default : Value) :
    exec c (getValue (.ref place) key default) s =
      exec c (nativeGet owner (.ref place) key default) s := by
  rw [getValue, exec_bind, exec_findMethod_of_inherited c hv hreading hmissing rfl hbare hin,
    Ending.andThen_ok]
  intros
  contradiction

theorem exec_listing_dict (hs : s.heap.Regular)
    (hv : s.heap.initialClass (.ref place) = .kind .dict) (part : Part) :
    exec c (listing part (.ref place)) s =
      .ok (.parts (.entries part false (.ref place) 0 (s.heap.count (.ref place)) false) none) s :=
  (exec_listing_of_inherited c (hs.isOrdinary rfl hv) rfl rfl part (hs.attributes place hv _)
    (show _ = some (Slot.native .dict) by cases part <;> rfl)).trans rfl

section Open

variable (hs : s.heap.Regular) (hd : s.heap.HoldsFields place fields)
include hs hd

theorem exec_cursor_view (id : Nat) :
    exec c (cursor (.view id (.ref place))) s =
      .ok (.entries .keys false (.ref place) 0 fields.length false) s := by
  have hslot := hs.slot? (k := .dict) rfl hd.initialClass .iteration
  have hnative : exec c (nativeCursor .dict (.ref place)) s =
      .ok (.entries .keys false (.ref place) 0 fields.length false) s := by
    rw [← hd.count]
    rfl
  simp only [cursor, cursorOr, exec_bind, exec_heap, Ending.andThen_ok, hslot]
  exact hnative

theorem exec_listing (part : Part) :
    exec c (listing part (.ref place)) s =
      .ok (.parts (.entries part false (.ref place) 0 fields.length false) none) s := by
  rw [← hd.count]
  exact exec_listing_dict c hs hd.initialClass part

theorem exec_listing_view (part : Part) (id : Nat) :
    exec c (listing part (.view id (.ref place))) s =
      .ok (.parts (.entries part false (.ref place) 0 fields.length false) none) s := by
  rw [listing]
  exact exec_listing c hs hd part

omit hd in
theorem exec_isOfKind_view (id : Nat) (k : Kind) :
    exec c (isOfKind (.view id (.ref place)) k) s =
      .ok (Heap.start.hasKind (.kind .view) k) s := by
  have hread : s.heap.readsAttributes (.view id (.ref place)) = false :=
    hs.readsAttributes (k := .view) rfl rfl rfl
  rw [exec_isOfKind c hread, hs.isOfKind (k := .view) rfl rfl]

theorem exec_isOfKind_dict (k : Kind) :
    exec c (isOfKind (.ref place) k) s = .ok (Heap.start.hasKind (.kind .dict) k) s := by
  have hread : s.heap.readsAttributes (.ref place) = false :=
    hs.readsAttributes (k := .dict) rfl hd.initialClass rfl
  rw [exec_isOfKind c hread, hs.isOfKind (k := .dict) rfl hd.initialClass]

end Open

/-! ## Going through the entries

An iteration over a mapping keeps the place that it has come to, and the size that the mapping has
to keep. -/

/-- What an iteration over a part of a mapping yields for a field. -/
def Yields (part : Part) (field : Name × Value) (w : Value) : Prop :=
  match part with
  | .keys => w = .ofName field.1
  | .values => w = field.2
  | .items => ∃ id, w = .tuple (.kind .tuple) id [.ofName field.1, field.2]

/-- The part of the field at a place is yielded. -/
theorem exec_next_field (hd : s.heap.HoldsFields place fields)
    (hname : ∀ field ∈ fields, (Value.ofName field.1).isIdentified = true)
    (hvalue : ∀ field ∈ fields, field.2.isIdentified = true) (part : Part) {i : Nat}
    {field : Name × Value} (hi : fields[i]? = some field) :
    ∃ w n, s.heap.next ≤ n ∧
      exec c (next (.entries part false (.ref place) i fields.length false)) s =
        .ok (some (w, .entries part false (.ref place) (i + 1) fields.length false)) (s.withNext n) ∧
      Yields part field w := by
  have hmem := List.mem_of_getElem? hi
  have hentry : (keyedFields fields)[i]? = some (field.1.key, field.2) := by
    rw [keyedFields, List.getElem?_map, hi]
    rfl
  have hid : IsYieldedAsIs part (field.1.key, field.2) := by
    cases part with
    | keys => exact hname field hmem
    | values => exact hvalue field hmem
    | items => trivial
  obtain ⟨w, n, hn, hw, hyields⟩ := exec_next_part (c := c) hd.entries? part false hentry hid
  rw [keyedFields, List.length_map] at hw
  exact ⟨w, n, hn, hw, by cases part <;> exact hyields⟩

/-- Going through the first entries of a mapping.  What holds in the beginning, whichever identities are
handed out next, and is kept by each step, holds when the others are left. -/
theorem exec_foldUpTo_entries {α : Type} {part : Part} {step : α → Value → Run α}
    {P : List (Name × Value) → α → Session → Prop}
    (hholds : ∀ done a s, P done a s → s.heap.HoldsFields place fields)
    (hnext : ∀ done a s n, s.heap.next ≤ n → P done a s → P done a (s.withNext n))
    (hname : ∀ field ∈ fields, (Value.ofName field.1).isIdentified = true)
    (hvalue : ∀ field ∈ fields, field.2.isIdentified = true) {done rest : List (Name × Value)}
    (hsplit : fields = done ++ rest)
    (hstep : ∀ done' field rest', done = done' ++ field :: rest' → ∀ a w s, Yields part field w →
      P done' a s → ∃ a' s', exec c (step a w) s = .ok a' s' ∧ P (done' ++ [field]) a' s')
    (fuel : Nat) {a : α} (ha : P [] a s) :
    ∃ a' s', P done a' s' ∧
      exec c (foldUpTo step (fuel + done.length) a
        (.entries part false (.ref place) 0 fields.length false)) s =
      exec c (foldUpTo step fuel a'
        (.entries part false (.ref place) done.length fields.length false)) s' := by
  induction done using List.reverseRecOn generalizing fuel rest with
  | nil => exact ⟨a, s, ha, rfl⟩
  | append_singleton done field ih =>
    have hsplit' : fields = done ++ field :: rest := by simpa using hsplit
    obtain ⟨a₁, s₁, ha₁, hexec⟩ := ih hsplit'
      (fun done' field' rest' hdone => hstep done' field' (rest' ++ [field]) (by simp [hdone]))
      (fuel + 1)
    obtain ⟨w, n, hn, hw, hyields⟩ := exec_next_field (c := c) (hholds _ _ _ ha₁) hname hvalue part
      (show fields[done.length]? = some field by simp [hsplit'])
    obtain ⟨a₂, s₂, ha₂, hdone⟩ :=
      hstep done field [] rfl a₁ w _ hyields (hnext _ _ _ _ hn ha₁)
    refine ⟨a₂, s₂, hdone, ?_⟩
    rw [List.length_append, List.length_singleton, ← Nat.add_assoc, Nat.add_right_comm, hexec, foldUpTo,
      exec_bind, hw, Ending.andThen_ok]
    dsimp only
    rw [exec_bind, ha₂, Ending.andThen_ok]

section Iterate

variable {c} {I : Session → Prop} (hI : Session.Abiding I)
  (hholds : ∀ s, I s → s.heap.HoldsFields place fields)
include hholds

theorem hasRoom_entries (part : Part) (m : Nat) :
    HasRoom I fields.length (.entries part false (.ref place) m fields.length false) := by
  intro s hs
  have hremaining : (Cursor.entries part false (.ref place) m fields.length false).remaining s.heap =
      fields.length := (hholds s hs).count
  rw [hremaining]
  exact Nat.lt_add_of_pos_right (by decide)

variable (hname : ∀ field ∈ fields, (Value.ofName field.1).isIdentified = true)
  (hvalue : ∀ field ∈ fields, field.2.isIdentified = true)
include hI hname hvalue

/-- An iteration over a part of a mapping yields one element for each field. -/
theorem iterates_entries (part : Part) :
    Iterates c I (Yields part) fields (.entries part false (.ref place) 0 fields.length false) := by
  refine iterates_places (fun i => .entries part false (.ref place) i fields.length false)
    (fun i field hi s hs => ?_) fun s hs => ?_
  · obtain ⟨w, n, hn, hw, hyields⟩ := exec_next_field (c := c) (hholds s hs) hname hvalue part hi
    exact .of_exec hI.toSteadfast hs hw (.withNext hn) ⟨w, rfl, hyields⟩
  · have hend := exec_next_part_end (c := c) (hholds s hs).entries? part false
    rw [keyedFields, List.length_map] at hend
    exact .of_exec_self hs hend rfl

/-- The entries of a mapping, as pairs. -/
theorem settles_readEntries (id : Nat) (hs : I s) :
    Settles c I s (readParts .items (.view id (.ref place)))
      fun ws _ => List.Forall₂ (Yields .items) fields ws :=
  settles_readParts (exec_listing_view c (hI.regular hs) (hholds s hs) .items id)
    (iterates_entries hI hholds hname hvalue .items) (hasRoom_entries hholds .items 0) hs

end Iterate

/-! ## Names -/

section Names

variable {c} {I : Session → Prop} (hI : Session.Abiding I)
  (hholds : ∀ s, I s → s.heap.HoldsFields place fields) {names : List Name}
  (hnames : Name.ServeAsKeys c I names) (hfields : ∀ field ∈ fields, field.1 ∈ names)
include hI hholds hnames hfields

/-- The value under a name. -/
theorem exec_item_view (hs : I s) (id : Nat) {k : Name} (hk : k ∈ names) {v : Value}
    (hv : fields.find? (fun field => field.1.text == k.text) = some (k, v)) :
    exec c (item (.view id (.ref place)) (.ofName k)) s = .ok v s := by
  have hslot := (hI.regular hs).slot? (k := .dict) rfl (hholds s hs).initialClass .item
  have hnative : exec c (nativeItem .dict (.ref place) (.ofName k)) s = .ok v s := by
    simp only [nativeItem, exec_bind, hnames.exec_keyed hs hk, exec_heap, Ending.andThen_ok,
      (hholds s hs).entries?, Option.getD_some, hnames.exec_entryUnder hs hk hfields, hv,
      Option.map_some, exec_pure]
  simp only [item, exec_bind, exec_heap, Ending.andThen_ok, hslot]
  exact hnative

/-- Whether there is a field of a name. -/
theorem exec_contains_view (hs : I s) (id : Nat) {k : Name} (hk : k ∈ names) :
    exec c (contains (.view id (.ref place)) (.ofName k)) s =
      .ok (fields.any fun field => field.1.text == k.text) s := by
  have hslot := (hI.regular hs).slot? (k := .dict) rfl (hholds s hs).initialClass .membership
  have hany : (fields.find? fun field => field.1.text == k.text).isSome =
      fields.any fun field => field.1.text == k.text := by
    rw [Bool.eq_iff_iff, List.find?_isSome, List.any_eq_true]
  have hnative : exec c (nativeContains .dict (.ref place) (.ofName k)) s =
      .ok (fields.any fun field => field.1.text == k.text) s := by
    simp only [nativeContains, exec_bind, hnames.exec_keyed hs hk, exec_heap, Ending.andThen_ok,
      (hholds s hs).entries?, Option.getD_some, hnames.exec_entryUnder hs hk hfields,
      exec_pure, Option.isSome_map, hany]
  simp only [contains, exec_bind, exec_heap, Ending.andThen_ok, hslot]
  exact hnative

/-- The value under a name, or another one if there is none. -/
theorem exec_getValue (hs : I s) {k : Name} (hk : k ∈ names) (default : Value) :
    exec c (getValue (.ref place) (.ofName k) default) s =
      .ok (((fields.find? fun field => field.1.text == k.text).map (·.2)).getD default) s := by
  have hregular := hI.regular hs
  have hclass := (hholds s hs).initialClass
  have hin : Heap.start.inherited? (.kind .dict) Method.get.name = some (.native .dict) := rfl
  rw [exec_getValue_of_inherited c (hregular.isOrdinary rfl hclass) rfl rfl
    (hregular.attributes place hclass _) hin]
  simp only [nativeGet, exec_bind, hnames.exec_keyed hs hk, exec_heap, Ending.andThen_ok,
    (hholds s hs).entries?, Option.getD_some, hnames.exec_entryUnder hs hk hfields, exec_pure]

omit hI hholds hfields in
/-- Distinct names become the members of a set. -/
theorem settles_insertMembers {β : Type} {name : β → Name} {bs : List β} {cur : Cursor}
    (hcur : Iterates c I (fun b w => w = .ofName (name b)) bs cur) (hroom : HasRoom I bs.length cur)
    (hbs : ∀ b ∈ bs, name b ∈ names) (hnodup : (bs.map fun b => (name b).text).Nodup) (hs : I s) :
    Settles c I s (fold (fun members item => do insertMember members (← keyed item)) [] cur)
      fun members _ => members = bs.map fun b => (name b).key := by
  refine (settles_fold hcur hroom (fun done members _ => members = (done.map name).map Name.key)
    (fun _ _ _ _ _ _ h => h) ?_ hs rfl).mono fun members _ _ _ h => by rw [h, List.map_map]; rfl
  rintro done b rest hsplit members w s rfl hs rfl
  have hb : name b ∈ names := hbs b (by rw [hsplit]; simp)
  have hdone : ∀ k ∈ done.map name, k ∈ names := by
    intro k hk
    obtain ⟨b', hb', rfl⟩ := List.mem_map.mp hk
    exact hbs b' (by rw [hsplit]; simp [hb'])
  have hnew : (name b).text ∉ (done.map name).map Name.text := by
    rw [hsplit, List.map_append, List.map_cons] at hnodup
    intro hmem
    refine (List.nodup_append.mp hnodup).2.2 _ ?_ _ List.mem_cons_self rfl
    simpa using hmem
  refine .of_exec_self hs ?_ rfl
  rw [exec_bind, hnames.exec_keyed hs hb, Ending.andThen_ok,
    hnames.exec_insertMember hs hb hdone hnew, @List.map_append _ _ _ done]
  rfl

/-- The names of distinct fields, as the members of a set. -/
theorem settles_toMembers (hs : I s) (id : Nat) (hvalue : ∀ field ∈ fields, field.2.isIdentified = true)
    (hnodup : (fieldTexts fields).Nodup) :
    Settles c I s (toMembers (.view id (.ref place)))
      fun members _ => members = fields.map fun field => field.1.key := by
  have hname : ∀ field ∈ fields, (Value.ofName field.1).isIdentified = true := fun field hfield =>
    hnames.identified (hfields field hfield)
  rw [toMembers]
  refine .after (exec_heap c s) ?_
  change Settles c I s (toMembers.read (.view id (.ref place))) _
  rw [toMembers.read]
  refine .after (exec_cursor_view c (hI.regular hs) (hholds s hs) id) ?_
  exact settles_insertMembers hnames (iterates_entries hI hholds hname hvalue .keys)
    (hasRoom_entries hholds .keys 0) hfields hnodup hs

end Names

/-! ## New mappings -/

/-- A new read-only mapping shows a new mapping, with what the fields amount to. -/
theorem settles_newView {I : Session → Prop} (hI : Session.Abiding I) (hs : I s)
    {names : List Name} (hnames : Name.ServeAsKeys c I names)
    (hfields : ∀ field ∈ fields, field.1 ∈ names) :
    Settles c I s (newView (fieldEntries fields)) fun w s' =>
      ∃ id place, w = .view id (.ref place) ∧ s.heap.cells.size ≤ place ∧
        s'.heap.HoldsFields place (distinctFields fields) := by
  let es := keyedFields (distinctFields fields)
  have hadds : (s.withDict es).Adds ((s.withDict es).withNext (s.heap.next + 1)) :=
    .withNext (Nat.le_succ _)
  refine ⟨.view s.heap.next (.ref s.heap.cells.size), (s.withDict es).withNext (s.heap.next + 1), ?_,
    (s.leadsTo_withDict es).trans hadds.leadsTo, hI.adds (hI.withDict hs es) hadds, _, _, rfl,
    Nat.le_refl _, s.holdsFields_withDict (distinctFields fields)⟩
  rw [newView, newDict, exec_bind, exec_bind, hnames.exec_distinctEntries hs hfields]
  rfl

/-! ## Pairs -/

/-- The two parts of a pair. -/
theorem exec_unpackTwo (hs : s.heap.Intact) (id : Nat) {v w : Value} (hv : v.isIdentified = true)
    (hw : w.isIdentified = true) :
    exec c (unpackTwo (.tuple (.kind .tuple) id [v, w])) s = .ok (v, w) s := by
  have hcursor : exec c (cursorOr .notUnpackable (.tuple (.kind .tuple) id [v, w])) s =
      .ok (.rest [v, w]) s := by
    simp only [cursorOr, exec_bind, exec_heap, Ending.andThen_ok,
      hs.slot? (v := .tuple (.kind .tuple) id [v, w]) rfl]
    rfl
  rw [unpackTwo, exec_bind, hcursor, Ending.andThen_ok, exec_bind,
    exec_next_rest_of_isIdentified c s hv [w], Ending.andThen_ok]
  change exec c (next (.rest [w]) >>= _) s = _
  rw [exec_bind, exec_next_rest_of_isIdentified c s hw [], Ending.andThen_ok]
  change exec c (next (.rest []) >>= _) s = _
  rw [exec_bind, exec_next_rest_nil, Ending.andThen_ok, exec_pure]

end Run

end ValueShape
