import ValueShape.Proofs.Ask.Strict
import ValueShape.Proofs.Conduct.Container

/-!
# Looking up names in mappings

What checks find in mappings of the built-in classes, whatever the keys of these are.

* `StandFor c R names textOf keys` says which of the names each key stands for, if any: the one that it is
  found under.  `KeysListed c R names textOf keys` says that the keys are looked up among the names in the
  same way.
* `storedUnder textOf es name` is the value under the key that stands for a name.  It does not depend on
  the order of the entries (`storedUnder_perm`).
* `StandFor.unnoticed_get` says that this is what is read, and `KeysListed.unnoticed_within` whether all
  keys are allowed.  Only one of two sessions notices this, as `Unnoticed` has it.
* `Check.object_alike` is the main result: an `object_of` product asks the same questions about two
  mappings, and ends alike, if it finds the same values under the names of its fields, and if all keys are
  allowed in both of them or in none.
-/

set_option autoImplicit false

namespace ValueShape

open Run

/-! ## Keys and names

The keys of a mapping may be of any class, as long as they compare with names in a fixed way.  So a
key is known by the name that it stands for, if there is one. -/

section Keys

variable (textOf : Key Value → Option String)

/-- The value under the key that stands for a name. -/
def storedUnder (es : List Entry) (name : Name) : Option Value :=
  (es.find? fun e => textOf e.1 == some name.text).map (·.2)

/-- Whether each key stands for one of the names. -/
def allNamed (names : List Name) (keys : List (Key Value)) : Bool :=
  keys.all fun key => names.any fun name => textOf key == some name.text

/-- Keys stand for names, wherever sessions are related: a name is compared with them in this way, and no
two keys stand for the same one. -/
structure StandFor (c : Conduct) (R : Session → Session → Prop) (names : List Name)
    (keys : List (Key Value)) : Prop where
  /-- The names can be hashed. -/
  named (name : Name) (hname : name ∈ names) :
    Unnoticed c R (hash (.ofName name)) (some (hashText name.text))
  /-- A key is found under the name that it stands for. -/
  finds (key : Key Value) (hkey : key ∈ keys) (name : Name) (hname : name ∈ names) :
    Unnoticed c R (isKey name.key key) (some (textOf key == some name.text))
  /-- No two keys stand for the same name. -/
  distinct : (keys.filterMap textOf).Nodup

/-- Keys are looked up among names. -/
structure KeysListed (c : Conduct) (R : Session → Session → Prop) (names : List Name)
    (keys : List (Key Value)) : Prop where
  /-- They are values that a caller can hold. -/
  identified (key : Key Value) (hkey : key ∈ keys) : key.value.isIdentified = true
  /-- They can be hashed. -/
  hashes (key : Key Value) (hkey : key ∈ keys) : Unnoticed c R (hash key.value) (some key.hash)
  /-- A key is the same as the name that it stands for. -/
  compares (key : Key Value) (hkey : key ∈ keys) (name : Name) (hname : name ∈ names) :
    Unnoticed c R (isKey key name.key) (some (textOf key == some name.text))

end Keys

section Lists

variable {textOf : Key Value → Option String} {names : List Name} {es es' : List Entry}
  {keys keys' : List (Key Value)}

/-- What is stored under a name, if no two keys stand for the same one. -/
theorem storedUnder_eq_some_iff (hdistinct : ((es.map (·.1)).filterMap textOf).Nodup) {name : Name}
    {v : Value} :
    storedUnder textOf es name = some v ↔ ∃ e ∈ es, textOf e.1 = some name.text ∧ e.2 = v := by
  induction es with
  | nil => simp [storedUnder]
  | cons e es ih =>
    rw [List.map_cons] at hdistinct
    by_cases htext : textOf e.1 = some name.text
    · rw [List.filterMap_cons_some htext, List.nodup_cons] at hdistinct
      have hothers : ∀ e' ∈ es, textOf e'.1 ≠ some name.text := fun e' he' heq =>
        hdistinct.1 (List.mem_filterMap.mpr ⟨e'.1, List.mem_map_of_mem he', heq⟩)
      rw [storedUnder, List.find?_cons_of_pos (by simpa using htext), Option.map_some, Option.some.injEq,
        List.exists_mem_cons_iff]
      refine ⟨fun h => .inl ⟨htext, h⟩, ?_⟩
      rintro (⟨-, h⟩ | ⟨e', he', heq, -⟩)
      · exact h
      · exact absurd heq (hothers e' he')
    · have hrest : ((es.map (·.1)).filterMap textOf).Nodup :=
        hdistinct.sublist ((List.sublist_cons_self _ _).filterMap textOf)
      rw [storedUnder, List.find?_cons_of_neg (by simpa using htext), ← storedUnder, ih hrest,
        List.exists_mem_cons_iff]
      exact (or_iff_right fun h => htext h.1).symm

/-- The order of the entries does not matter. -/
theorem storedUnder_perm (hperm : es.Perm es') (hdistinct : ((es.map (·.1)).filterMap textOf).Nodup)
    (name : Name) : storedUnder textOf es name = storedUnder textOf es' name := by
  have hdistinct' : ((es'.map (·.1)).filterMap textOf).Nodup :=
    ((hperm.map _).filterMap textOf).nodup_iff.mp hdistinct
  ext v
  rw [storedUnder_eq_some_iff hdistinct, storedUnder_eq_some_iff hdistinct']
  simp only [hperm.mem_iff]

theorem storedUnder_append (es es' : List Entry) (name : Name) :
    storedUnder textOf (es ++ es') name =
      (storedUnder textOf es name).or (storedUnder textOf es' name) := by
  rw [storedUnder, List.find?_append]
  cases h : es.find? fun e => textOf e.1 == some name.text <;> simp [storedUnder, h]

/-- An entry whose key stands for the name. -/
theorem storedUnder_singleton (key : Key Value) (v : Value) (name : Name) :
    storedUnder textOf [(key, v)] name = if textOf key = some name.text then some v else none := by
  by_cases h : textOf key = some name.text <;> simp [storedUnder, h]

theorem allNamed_perm (hperm : keys.Perm keys') : allNamed textOf names keys = allNamed textOf names keys' :=
  hperm.all_eq

theorem allNamed_append :
    allNamed textOf names (keys ++ keys') = (allNamed textOf names keys && allNamed textOf names keys') :=
  List.all_append

theorem allNamed_of_sublist (hsub : keys.Sublist keys') (h : allNamed textOf names keys' = true) :
    allNamed textOf names keys = true :=
  List.all_eq_true.mpr fun key hkey => List.all_eq_true.mp h key (hsub.subset hkey)

/-- Distinct keys that all stand for names are no more in number than these. -/
theorem length_le_of_allNamed (hdistinct : (keys.filterMap textOf).Nodup)
    (h : allNamed textOf names keys = true) : keys.length ≤ names.length := by
  have hnamed : ∀ key ∈ keys, ∃ name ∈ names, textOf key = some name.text := fun key hkey => by
    simpa using List.all_eq_true.mp h key hkey
  have hlength : (keys.filterMap textOf).length = keys.length := by
    rw [List.filterMap_length_eq_length]
    intro key hkey
    obtain ⟨name, -, htext⟩ := hnamed key hkey
    rw [htext]
    rfl
  have hsub : keys.filterMap textOf ⊆ names.map Name.text := by
    intro t ht
    obtain ⟨key, hkey, htext⟩ := List.mem_filterMap.mp ht
    obtain ⟨name, hname, htext'⟩ := hnamed key hkey
    obtain rfl : name.text = t := Option.some.inj (htext'.symm.trans htext)
    exact List.mem_map_of_mem hname
  have hle := (hdistinct.subperm hsub).length_le
  rwa [hlength, List.length_map] at hle

theorem allNamed_eq_false_of_length_lt (hdistinct : (keys.filterMap textOf).Nodup)
    (h : names.length < keys.length) : allNamed textOf names keys = false :=
  Bool.eq_false_iff.mpr fun hall => absurd h (Nat.not_lt_of_le (length_le_of_allNamed hdistinct hall))

end Lists

/-! ## What is read -/

/-- The keys of a mapping are read at once. -/
theorem Value.IsMappingOf.exec_keys {c : Conduct} {I : Session → Prop} (hI : Session.Spacious I)
    {es : List Entry} {x : Value} (hx : x.IsMappingOf I es)
    (hid : ∀ key ∈ es.map (·.1), key.value.isIdentified = true) {s : Session} (hs : I s) :
    exec c (Glance.keys x).read s = .ok ((es.map (·.1)).map (·.value)) s := by
  obtain ⟨place, ordered, hcontents, hlisting⟩ := hx.exec_listing (c := c) hI
  have hentries : s.heap.entries? (.ref place) = some es := by rw [Heap.entries?, hcontents s hs]
  -- Nothing else happens in the meantime, so the session itself is the invariant.
  have hcursor : Run.Iterates c (· = s) (YieldsEntry .keys) es
      (.entries .keys ordered (.ref place) 0 es.length false) := by
    refine iterates_places (fun i => .entries .keys ordered (.ref place) i es.length false)
      (fun i e hi t ht => ?_) fun t ht => ?_
    · subst ht
      have hkey : e.1.value.isIdentified = true :=
        hid _ (List.mem_map_of_mem (List.mem_of_getElem? hi))
      have hlt : i < es.length := (List.getElem?_eq_some_iff.mp hi).1
      have hnext : exec c (next (.entries .keys ordered (.ref place) i es.length false)) t =
          .ok (some (e.1.value, .entries .keys ordered (.ref place) (i + 1) es.length false)) t := by
        simp only [next, Run.maxChain, nextUpTo, nextElement, nextEntry, exec_bind, exec_heap,
          Ending.andThen_ok, hentries, Option.getD_some, bne_self_eq_false, Bool.false_and,
          Bool.false_eq_true, if_false, Nat.not_le.mpr hlt, hi, partOf, exec_pure,
          exec_identified_of_isIdentified c hkey]
      exact .of_exec_self rfl hnext ⟨e.1.value, rfl, rfl⟩
    · subst ht
      exact .of_exec_self rfl (exec_next_part_end hentries .keys ordered) rfl
  have hread := Run.settles_readParts (hlisting s hs .keys) hcursor
    (hasRoom_parts .keys ordered 0 fun t ht => ht ▸ hcontents s hs) rfl
  obtain ⟨ws, t, hws, -, rfl, hyields⟩ := hread
  have hmap : ws = es.map (·.1.value) := eq_map_of_yields (fun e w (h : YieldsEntry .keys e w) => h) hyields
  rw [hmap] at hws
  rw [List.map_map]
  exact hws

section Read

variable {c : Conduct} {R : Session → Session → Prop} {names : List Name}
  {textOf : Key Value → Option String} {es : List Entry}

namespace StandFor

variable (h : StandFor textOf c R names (es.map (·.1))) {name : Name} (hname : name ∈ names)
include h hname

/-- The entry that is found under a name is the one whose key stands for it. -/
theorem unnoticed_entryUnder :
    Unnoticed c R (entryUnder? name.key es) (some (storedUnder textOf es name)) := by
  induction es with
  | nil => exact .pure none
  | cons e es ih =>
    obtain ⟨stored, v⟩ := e
    have hstored := h.finds stored List.mem_cons_self name hname
    have hrest : StandFor textOf c R names (es.map (·.1)) :=
      ⟨h.named, fun key hkey => h.finds key (List.mem_cons_of_mem _ hkey),
        h.distinct.sublist ((List.sublist_cons_self _ _).filterMap textOf)⟩
    have hfound : some (storedUnder textOf ((stored, v) :: es) name) =
        (some (textOf stored == some name.text)).bind fun b =>
          if b then some (some v) else some (storedUnder textOf es name) := by
      rw [storedUnder, List.find?_cons]
      cases textOf stored == some name.text <;> rfl
    rw [entryUnder?, hfound]
    refine hstored.bind fun b _ => ?_
    cases b with
    | true => exact .pure (some v)
    | false => exact ih hrest

/-- What is read under a name is what is stored there, or the absent value. -/
theorem unnoticed_get {I : Session → Prop} (hI : Session.Spacious I) {x : Value}
    (hx : x.IsMappingOf I es) (hR : ∀ s s', R s s' → I s) :
    Unnoticed c R (Glance.get x name).read (some ((storedUnder textOf es name).getD .undefined)) := by
  obtain ⟨place, hentries, hget⟩ := hx.exec_getValue (c := c) hI
  intro s s' hs
  obtain ⟨s₁, hs₁, hhash⟩ := h.named name hname s s' hs
  obtain ⟨s₂, hs₂, hfound⟩ := h.unnoticed_entryUnder hname s₁ s' hs₁
  refine ⟨s₂, hs₂, ?_⟩
  have hhash : exec c (hash (.ofName name)) s = .ok (hashText name.text) s₁ := hhash
  have hfound : exec c (entryUnder? ⟨.ofName name, hashText name.text⟩ es) s₁ =
      .ok (storedUnder textOf es name) s₂ := hfound
  rw [Glance.read, hget s (hR s s' hs)]
  simp only [keyed, exec_bind, hhash, exec_pure, exec_heap, Ending.andThen_ok,
    hentries s₁ (hR s₁ s' hs₁), Option.getD_some, hfound]

end StandFor

/-- Whether all keys are found among the names. -/
theorem KeysListed.unnoticed_within {keys : List (Key Value)} (h : KeysListed textOf c R names keys) :
    Unnoticed c R (Glance.within (names.map Name.key) (keys.map (·.value))).read
      (some (allNamed textOf names keys)) := by
  let same (stored key : Key Value) : Option Bool := some (textOf key == stored.value.text?)
  have hsame : (keys.allM fun key => (names.map Name.key).anyM (same · key)) =
      some (allNamed textOf names keys) := by
    have hany (key : Key Value) : (names.map Name.key).anyM (same · key) =
        some (names.any fun name => textOf key == some name.text) := by
      induction names with
      | nil => rfl
      | cons name names ih =>
        rw [List.map_cons, List.anyM, List.any_cons]
        have hname : same name.key key = some (textOf key == some name.text) := rfl
        rw [hname]
        cases textOf key == some name.text with
        | true => rfl
        | false => exact ih ⟨h.identified, h.hashes, fun key hkey name hname =>
            h.compares key hkey name (List.mem_cons_of_mem _ hname)⟩
    induction keys with
    | nil => rfl
    | cons key keys ih =>
      rw [List.allM, hany, allNamed, List.all_cons]
      cases names.any fun name => textOf key == some name.text with
      | false => rfl
      | true => exact ih ⟨fun key hkey => h.identified key (List.mem_cons_of_mem _ hkey),
          fun key hkey => h.hashes key (List.mem_cons_of_mem _ hkey),
          fun key hkey => h.compares key (List.mem_cons_of_mem _ hkey)⟩
  rw [← hsame]
  refine ValueShape.unnoticed_within h.hashes fun key hkey stored hstored => ?_
  obtain ⟨name, hname, rfl⟩ := List.mem_map.mp hstored
  exact h.compares key hkey name hname

/-- Names stand for themselves. -/
theorem Name.ServeAsKeys.standFor {I : Session → Prop} (h : Name.ServeAsKeys c I names)
    (hR : ∀ s s', R s s' → I s) {asked own : List Name} (hasked : ∀ k ∈ asked, k ∈ names)
    (hown : ∀ k ∈ own, k ∈ names) (hnodup : (own.map Name.text).Nodup) :
    StandFor (·.value.text?) c R asked (own.map Name.key) ∧
      KeysListed (·.value.text?) c R asked (own.map Name.key) := by
  have hexec {α : Type} {m : Run α} {a : α} (hm : ∀ s, I s → exec c m s = .ok a s) :
      Unnoticed c R m (some a) := fun s s' hs => ⟨s, hs, hm s (hR s s' hs)⟩
  have hsame (k k' : Name) : (k.text == k'.text) = (k.key.value.text? == some k'.text) := rfl
  have htexts : (own.map Name.key).filterMap (·.value.text?) = own.map Name.text := by
    rw [List.filterMap_map]
    exact congrFun List.filterMap_eq_map' own
  refine ⟨⟨fun name hname => hexec fun s hs => h.hash (hasked name hname) hs, ?_, ?_⟩, ?_, ?_, ?_⟩
  · refine List.forall_mem_map.mpr fun k hk name hname => hexec fun s hs => ?_
    rw [h.exec_isKey hs (hasked name hname) (hown k hk), hsame]
  · rwa [htexts]
  · exact List.forall_mem_map.mpr fun k hk => h.identified (hown k hk)
  · exact List.forall_mem_map.mpr fun k hk => hexec fun s hs => h.hash (hown k hk) hs
  · refine List.forall_mem_map.mpr fun k hk name hname => hexec fun s hs => ?_
    rw [h.exec_isKey hs (hown k hk) (hasked name hname), hsame]
    exact congrArg (EStateM.Result.ok · s) (Bool.beq_comm)

end Read

/-! ## Courses -/

/-- Two mappings have certain entries wherever sessions are related, one in the first session and one in
the second, and each of their keys stands for a name, or for none.  Only a strict product looks up the
keys. -/
structure TwoMappings (textOf : Key Value → Option String) (c : Conduct)
    (R : Session → Session → Prop) (names : List Name) (strict : Bool) (I I' : Session → Prop)
    (x : Value) (es : List Entry) (x' : Value) (es' : List Entry) : Prop where
  /-- The built-in classes are as they were in the beginning. -/
  spacious : Session.Spacious I
  spacious' : Session.Spacious I'
  /-- These are the entries. -/
  mapping : x.IsMappingOf I es
  mapping' : x'.IsMappingOf I' es'
  /-- The entries stay. -/
  invariants (s s' : Session) (hs : R s s') : I s ∧ I' s'
  /-- The keys stand for names. -/
  stand : StandFor textOf c R names (es.map (·.1))
  stand' : StandFor textOf c (flip R) names (es'.map (·.1))
  /-- They can be looked up among the names. -/
  listed (hstrict : strict = true) :
    KeysListed textOf c R names (es.map (·.1)) ∧ KeysListed textOf c (flip R) names (es'.map (·.1))

namespace Check

open Dialogue

section Mapping

variable {κ : Type} {answer : κ → Value → Run Bool} {c : Conduct} {R : Session → Session → Prop}
  {E : Session → Session → Value → Value → Prop} {names : List Name} {textOf : Key Value → Option String}
  {I : Session → Prop} (hI : Session.Spacious I) {x : Value} {es : List Entry} (hx : x.IsMappingOf I es)
  {d d' : Dialogue κ Bool} {s s' : Session}
include hI hx

/-- In the first dialogue, it is found out whether all keys are allowed. -/
theorem alike_keys_left (hlisted : KeysListed textOf c R names (es.map (·.1)))
    (hdistinct : ((es.map (·.1)).filterMap textOf).Nodup) (hs : I s) (hR : R s s')
    (hd : ∀ s₁, R s₁ s' →
      ((if allNamed textOf names (es.map (·.1)) then d else done false).course answer c s₁).Alike R E
        (d'.course answer c s')) :
    (Dialogue.course answer c (do if ← keysDialogue (names.map Name.key) x then d else done false)
      s).Alike R E (d'.course answer c s') := by
  refine alike_glance_left (hx.exec_keys hI hlisted.identified hs) ?_
  by_cases hlength : (names.map Name.key).length < ((es.map (·.1)).map (·.value)).length
  · have hnot := allNamed_eq_false_of_length_lt hdistinct (by simpa using hlength)
    have hd := hd s hR
    rw [hnot, if_neg Bool.false_ne_true] at hd
    simp only [hlength, if_true]
    exact hd
  · obtain ⟨s₁, hs₁, hwithin⟩ := hlisted.unnoticed_within s s' hR
    simp only [hlength, if_false]
    exact alike_glance_left hwithin (hd s₁ hs₁)

/-- In the second dialogue, it is found out whether all keys are allowed. -/
theorem alike_keys_right (hlisted : KeysListed textOf c (flip R) names (es.map (·.1)))
    (hdistinct : ((es.map (·.1)).filterMap textOf).Nodup) (hs' : I s') (hR : R s s')
    (hd : ∀ s₁, R s s₁ → (d.course answer c s).Alike R E
      ((if allNamed textOf names (es.map (·.1)) then d' else done false).course answer c s₁)) :
    (d.course answer c s).Alike R E
      (Dialogue.course answer c (do if ← keysDialogue (names.map Name.key) x then d' else done false)
        s') := by
  refine alike_glance_right (hx.exec_keys hI hlisted.identified hs') ?_
  by_cases hlength : (names.map Name.key).length < ((es.map (·.1)).map (·.value)).length
  · have hnot := allNamed_eq_false_of_length_lt hdistinct (by simpa using hlength)
    have hd := hd s' hR
    rw [hnot, if_neg Bool.false_ne_true] at hd
    simp only [hlength, if_true]
    exact hd
  · obtain ⟨s₁, hs₁, hwithin⟩ := hlisted.unnoticed_within s' s hR
    simp only [hlength, if_false]
    exact alike_glance_right hwithin (hd s₁ hs₁)

end Mapping

section Two

variable {κ : Type} {answer : κ → Value → Run Bool} {c : Conduct} {R : Session → Session → Prop}
  {names : List Name} {textOf : Key Value → Option String} {I I' : Session → Prop} {strict : Bool}
  {x x' : Value} {es es' : List Entry} (h : TwoMappings textOf c R names strict I I' x es x' es')
  {fields : List (Name × κ)}
  (hsame : ∀ field ∈ fields, (storedUnder textOf es field.1).getD .undefined =
    (storedUnder textOf es' field.1).getD .undefined)
  (hanswer : ∀ field ∈ fields,
    Blind c R (answer field.2 ((storedUnder textOf es field.1).getD .undefined))) {s s' : Session}
include h hsame hanswer

/-- The fields of two mappings, if the same values are stored under their names. -/
theorem fieldsDialogue_alike_stored (hnames : ∀ field ∈ fields, field.1 ∈ names) (hs : R s s') :
    ((fieldsDialogue x fields).course answer c s).Alike R (fun _ _ v w => v = w)
      ((fieldsDialogue x' fields).course answer c s') := by
  induction fields generalizing s s' with
  | nil => exact alike_done true hs
  | cons field fields ih =>
    obtain ⟨hname, hnames⟩ := List.forall_mem_cons.mp hnames
    obtain ⟨heq, hsame⟩ := List.forall_mem_cons.mp hsame
    obtain ⟨hask, hanswer⟩ := List.forall_mem_cons.mp hanswer
    obtain ⟨s₁, hs₁, hget⟩ := h.stand.unnoticed_get hname h.spacious h.mapping
      (fun s s' hs => (h.invariants s s' hs).1) s s' hs
    obtain ⟨s₁', hs₁', hget'⟩ := h.stand'.unnoticed_get hname h.spacious' h.mapping'
      (fun s s' hs => (h.invariants s' s hs).2) s' s₁ hs₁
    rw [← heq] at hget'
    refine alike_glance_left hget (alike_glance_right hget' ?_)
    exact alike_ask_goOn rfl rfl hs₁' (hask s₁ s₁' hs₁') fun s₂ s₂' hs₂ _ => ih hsame hanswer hnames hs₂

/-- **What an `object_of` product finds in a mapping.**  The same values are stored in two mappings under
the names of its fields.  A strict product finds that all keys are allowed in both of them, or in none.
Then it asks the same questions about both, and ends alike. -/
theorem object_alike (hfields : fields.map (·.1) = names)
    (hkeys : strict = true →
      allNamed textOf names (es.map (·.1)) = allNamed textOf names (es'.map (·.1))) (hs : R s s') :
    let known := if strict then some (names.map Name.key) else none
    (((Check.object fields known).dialogue x).course answer c s).Alike R (fun _ _ v w => v = w)
      (((Check.object fields known).dialogue x').course answer c s') := by
  intro known
  have hnames : ∀ field ∈ fields, field.1 ∈ names :=
    fun field hfield => hfields ▸ List.mem_map_of_mem hfield
  have halike {s s' : Session} (hs : R s s') :=
    fieldsDialogue_alike_stored h hsame hanswer hnames hs
  refine alike_look_left (h.mapping.exec_isMapping h.spacious c (h.invariants s s' hs).1)
    (alike_look_right (h.mapping'.exec_isMapping h.spacious' c (h.invariants s s' hs).2) ?_)
  cases strict with
  | false => exact halike hs
  | true =>
    obtain ⟨hlisted, hlisted'⟩ := h.listed rfl
    refine alike_keys_left h.spacious h.mapping hlisted h.stand.distinct (h.invariants s s' hs).1 hs
      fun s₁ hs₁ => ?_
    refine alike_keys_right h.spacious' h.mapping' hlisted' h.stand'.distinct
      (h.invariants s₁ s' hs₁).2 hs₁ fun s₂ hs₂ => ?_
    rw [← hkeys rfl]
    cases allNamed textOf names (es.map (·.1)) with
    | false => exact alike_done false hs₂
    | true => exact halike hs₂

end Two

end Check

end ValueShape
