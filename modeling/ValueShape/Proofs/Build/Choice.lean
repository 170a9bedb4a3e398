import Mathlib.Data.Finset.Sort
import Mathlib.Data.String.Basic
import ValueShape.Proofs.Build.Selection

/-!
# Names that keys give

`pick_of` and `omit_of` are told by keys which fields of a product they mean.

* `Value.GivesNames c I s names keys K` says that keys are no text, and that the members of a set that
  is made of them are names with the texts `K`.  In which order the keys list the names, how often, and
  of which class they are does not matter (`Run.givesNames_of_iterates`).
* `Run.settles_selected` is the product of the fields whose names are in `K`, or of the others.
* `Run.exec_selected_unknown` says how keys are refused that give other names.
-/

set_option autoImplicit false

namespace ValueShape

open Run

/-- Keys are no text, and the members of a set that is made of them are names with certain texts, in the
session at hand.  It may be that they can be read only once. -/
def Value.GivesNames (c : Conduct) (I : Session → Prop) (s : Session) (names : List Name)
    (keys : Value) (K : Finset String) : Prop :=
  ∀ ds, Session.Keeping I ds s →
    Settles c (Session.Keeping I ds) s (isOfAnyKind keys [.text, .bytes]) fun isText s' =>
      isText = false ∧ Settles c (Session.Keeping I ds) s' (toMembers keys) fun members _ =>
        ∃ ks : List Name, (∀ k ∈ ks, k ∈ names) ∧ (ks.map Name.text).Nodup ∧
          (ks.map Name.text).toFinset = K ∧ members = ks.map Name.key

/-- Names are written without quotes by their characters. -/
def Name.WrittenPlainly (c : Conduct) (I : Session → Prop) (names : List Name) : Prop :=
  ∀ k ∈ names, ∀ ds s, Session.Keeping I ds s →
    Settles c (Session.Keeping I ds) s (plainForm (.ofName k)) fun w _ =>
      ∃ id, w = .ofName ⟨k.text, .kind .text, id⟩

theorem Value.GivesNames.keeping {c : Conduct} {I : Session → Prop} {s : Session} {names : List Name}
    {keys : Value} {K : Finset String} (h : keys.GivesNames c I s names K)
    (ds : List (Nat × List (Name × Value))) :
    keys.GivesNames c (Session.Keeping I ds) s names K := by
  intro ds'
  rw [Session.keeping_keeping]
  exact h (ds ++ ds')

theorem Name.WrittenPlainly.keeping {c : Conduct} {I : Session → Prop} {names : List Name}
    (h : WrittenPlainly c I names) (ds : List (Nat × List (Name × Value))) :
    WrittenPlainly c (Session.Keeping I ds) names := by
  intro k hk ds'
  rw [Session.keeping_keeping]
  exact h k hk (ds ++ ds')

/-- The names that are not those of fields. -/
def unknownOf (fields : List (Name × Value)) (names : List Name) : List Name :=
  names.filter fun k => decide (k.text ∉ fieldTexts fields)

theorem Name.WrittenPlainly.unknownOf {c : Conduct} {I : Session → Prop} {names : List Name}
    (h : WrittenPlainly c I names) (fields : List (Name × Value)) :
    WrittenPlainly c I (unknownOf fields names) := fun k hk => h k (List.mem_of_mem_filter hk)

/-- The texts that are not among known ones. -/
def unknownTexts (known : List String) (K : Finset String) : Finset String := K.filter (· ∉ known)

/-- How keys are refused that give unknown names. -/
def unknownMessage (known : List String) (K : Finset String) : String :=
  "unknown keys: " ++ ", ".intercalate ((unknownTexts known K).sort (· ≤ ·))

/-- The fields whose names are among certain ones, or the others. -/
def chosenFields (K : Finset String) (keep : Bool) (fields : List (Name × Value)) :
    List (Name × Value) :=
  fields.filter fun field => decide (field.1.text ∈ K) == keep

theorem Changed.eq_chosenFields {K : Finset String} {keep : Bool} {fields fields' : List (Name × Value)}
    (h : Changed (fun field v? => v? = if decide (field.1.text ∈ K) == keep then some field.2 else none)
      fields fields') : fields' = chosenFields K keep fields := by
  induction h with
  | nil => rfl
  | kept hv _ ih =>
    split at hv
    · cases hv
      rw [ih, chosenFields, chosenFields, List.filter_cons_of_pos ‹_›]
    · cases hv
  | dropped hv _ ih =>
    split at hv
    · cases hv
    · rw [ih, chosenFields, chosenFields, List.filter_cons_of_neg ‹_›]

theorem any_text_eq (ks : List Name) (t : String) :
    (ks.any fun k => k.text == t) = decide (t ∈ (ks.map Name.text).toFinset) := by
  rw [Bool.eq_iff_iff, List.any_eq_true, decide_eq_true_eq, List.mem_toFinset, List.mem_map]
  simp only [beq_iff_eq]

/-- Texts in increasing order, none of which occurs twice, are those of a set. -/
theorem mergeSort_eq_sort {texts : List String} (hnodup : texts.Nodup) :
    texts.mergeSort (fun t u => !decide (u < t)) = texts.toFinset.sort (· ≤ ·) := by
  have hperm := List.mergeSort_perm texts fun t u => !decide (u < t)
  have hsorted : (texts.mergeSort fun t u => !decide (u < t)).Pairwise (· ≤ ·) := by
    refine (List.pairwise_mergeSort (fun a b d hab hbd => ?_) (fun a b => ?_) texts).imp fun h => ?_
    · simp only [Bool.not_eq_true', decide_eq_false_iff_not, not_lt] at *
      exact le_trans hab hbd
    · simp only [Bool.or_eq_true, Bool.not_eq_true', decide_eq_false_iff_not, not_lt]
      exact le_total a b
    · exact not_lt.mp (by simpa only [Bool.not_eq_true', decide_eq_false_iff_not] using h)
  rw [← List.toFinset_eq_of_perm _ _ hperm]
  exact ((List.toFinset_sort _ (hperm.nodup_iff.mpr hnodup)).mpr hsorted).symm

namespace Run

variable {c : Conduct} {I : Session → Prop} {s : Session} {names : List Name}

/-- A name that is among the members already is not put in again. -/
theorem exec_insertMember_of_mem (hnames : Name.ServeAsKeys c I names) (hs : I s) {k : Name}
    (hk : k ∈ names) {ks : List Name} (hks : ∀ k ∈ ks, k ∈ names) (hmem : k.text ∈ ks.map Name.text) :
    exec c (insertMember (ks.map Name.key) k.key) s = .ok (ks.map Name.key) s := by
  have hany : (ks.any fun k' => k'.text == k.text) = true := by
    obtain ⟨k', hk', heq⟩ := List.mem_map.mp hmem
    exact List.any_eq_true.mpr ⟨k', hk', by simpa using heq⟩
  rw [insertMember, exec_bind, hnames.exec_hasMember hs hk hks, hany, Ending.andThen_ok]
  rfl

/-- What is made of names that are yielded one after the other has each of their texts once. -/
theorem settles_readMembers (hnames : Name.ServeAsKeys c I names) {ks : List Name} {cur : Cursor}
    (hcur : Iterates c I (fun k w => w = .ofName k) ks cur) (hroom : HasRoom I ks.length cur)
    (hks : ∀ k ∈ ks, k ∈ names) (hs : I s) :
    Settles c I s (fold (fun members item => do insertMember members (← keyed item)) [] cur)
      fun members _ => ∃ ks' : List Name, (∀ k ∈ ks', k ∈ names) ∧ (ks'.map Name.text).Nodup ∧
        (ks'.map Name.text).toFinset = (ks.map Name.text).toFinset ∧ members = ks'.map Name.key := by
  refine settles_fold hcur hroom (fun done members _ => ∃ ks' : List Name, (∀ k ∈ ks', k ∈ names) ∧
    (ks'.map Name.text).Nodup ∧ (ks'.map Name.text).toFinset = (done.map Name.text).toFinset ∧
      members = ks'.map Name.key) (fun _ _ _ _ _ _ h => h) ?_ hs
    ⟨[], fun _ h => absurd h List.not_mem_nil, List.nodup_nil, rfl, rfl⟩
  rintro done k rest hsplit members w s rfl hs ⟨ks', hks', hnodup, htexts, rfl⟩
  have hk : k ∈ names := hks k (by rw [hsplit]; simp)
  refine .after (hnames.exec_keyed hs hk) ?_
  by_cases hmem : k.text ∈ ks'.map Name.text
  · refine .of_exec_self hs (exec_insertMember_of_mem hnames hs hk hks' hmem)
      ⟨ks', hks', hnodup, ?_, rfl⟩
    have hmem' : k.text ∈ (done.map Name.text).toFinset := by rwa [← htexts, List.mem_toFinset]
    rw [htexts, List.map_append, List.toFinset_append, Finset.left_eq_union]
    simpa using hmem'
  · refine .of_exec_self hs (hnames.exec_insertMember hs hk hks' hmem)
      ⟨ks' ++ [k], ?_, ?_, ?_, rfl⟩
    · exact List.forall_mem_append.mpr ⟨hks', List.forall_mem_singleton.mpr hk⟩
    · rw [List.map_append]
      refine List.nodup_append.mpr ⟨hnodup, List.pairwise_singleton _ _, ?_⟩
      rintro t ht u hu rfl
      exact hmem (by rwa [List.mem_singleton.mp hu] at ht)
    · rw [List.map_append, List.map_append, List.toFinset_append, List.toFinset_append, htexts]

/-- Texts of the built-in class are sorted by their characters. -/
theorem exec_sorted_texts (s : Session) {ks : List Name} {ws : List Value}
    (hws : List.Forall₂ (fun k w => ∃ id, w = Value.ofName ⟨k.text, .kind .text, id⟩) ks ws)
    (hnodup : (ks.map Name.text).Nodup) :
    ∃ vs, exec c (sorted ws) s = .ok vs s ∧
      vs.map (fun v => v.text?.getD "") = (ks.map Name.text).toFinset.sort (· ≤ ·) := by
  obtain ⟨htexts, hplain⟩ : ws.map (fun v => v.text?.getD "") = ks.map Name.text ∧
      ws.all s.heap.isPlainText = true := by
    clear hnodup
    induction hws with
    | nil => exact ⟨rfl, rfl⟩
    | @cons k w ks ws hw _ ih =>
      obtain ⟨id, rfl⟩ := hw
      exact ⟨congrArg (k.text :: ·) ih.1, ih.2⟩
  refine ⟨ws.mergeSort fun v w => !decide (w.text?.getD "" < v.text?.getD ""), ?_, ?_⟩
  · rw [sorted, exec_bind, exec_heap, Ending.andThen_ok]
    rw [if_pos hplain]
    rfl
  · rw [List.map_mergeSort (s := fun t u : String => !decide (u < t)) fun _ _ _ _ => rfl, htexts,
      mergeSort_eq_sort hnodup]

/-! ### Reading keys

`Value.GivesNames` leaves open where the names come from.  A caller may write them down as a tuple
or as a set, or hand over anything that yields names. -/

/-- Keys that are no text and yield names give the texts of these names. -/
theorem givesNames_of_iterates (hnames : Name.ServeAsKeys c I names) {keys : Value} {ks : List Name}
    {cur : Cursor} (hks : ∀ k ∈ ks, k ∈ names)
    (htext : Steadily c I (isOfAnyKind keys [.text, .bytes]) (· = false))
    (hread : ∀ s, I s → exec c (toMembers keys) s = exec c (toMembers.read keys) s)
    (hcursor : Steadily c I (cursor keys) (· = cur))
    (hcur : ∀ ds, Iterates c (Session.Keeping I ds) (fun k w => w = .ofName k) ks cur ∧
      HasRoom (Session.Keeping I ds) ks.length cur) :
    keys.GivesNames c I s names (ks.map Name.text).toFinset := by
  intro ds hs
  refine (htext ds s hs).mono fun isText s₁ _ hs₁ htext => ⟨htext, ?_⟩
  obtain ⟨hiterates, hroom⟩ := hcur ds
  rw [Settles, hread s₁ hs₁.1]
  refine (hcursor ds s₁ hs₁).bind fun cur' s₂ _ hs₂ hcur' => ?_
  subst hcur'
  exact settles_readMembers (hnames.keeping ds) hiterates hroom hks hs₂

section Concrete

variable (hI : Session.Abiding I) (hnames : Name.ServeAsKeys c I names) {ks : List Name}
  (hks : ∀ k ∈ ks, k ∈ names) (id : Nat)
include hI hnames hks

/-- A tuple of names gives their texts. -/
theorem givesNames_tuple :
    (Value.tuple (.kind .tuple) id (ks.map Value.ofName)).GivesNames c I s names
      (ks.map Name.text).toFinset := by
  have hidentified : ∀ v ∈ ks.map Value.ofName, v.isIdentified = true :=
    List.forall_mem_map.mpr fun k hk => hnames.identified (hks k hk)
  have hcursor : Steadily c I (cursor (.tuple (.kind .tuple) id (ks.map Value.ofName)))
      (· = .rest (ks.map Value.ofName)) := fun ds s hs =>
    .of_exec_self hs (exec_cursor_tuple (hI.sound hs.1).intact id _) rfl
  refine givesNames_of_iterates hnames hks (fun ds s hs => ?_) (fun _ _ => rfl) hcursor
    fun ds => ⟨?_, ?_⟩
  · have hi := (hI.sound hs.1).intact
    refine .after (exec_isOfKind_tuple hi id _ .text) ?_
    exact .after (exec_isOfKind_tuple hi id _ .bytes) (.of_exec_self hs rfl rfl)
  · have hrest := iterates_rest (c := c) (I := Session.Keeping I ds) hidentified
    exact (iterates_map.mp hrest).mono fun _ _ _ h => h.symm
  · simpa using hasRoom_rest (ks.map Value.ofName)

omit hnames in
/-- A set of names gives their texts. -/
theorem givesNames_frozenSet (hnodup : (ks.map Name.text).Nodup) :
    (Value.frozenSet (.kind .frozenSet) id (ks.map Name.key)).GivesNames c I s names
      (ks.map Name.text).toFinset := by
  intro ds hs
  have hi := hI.regular hs.1
  have hkind (k : Kind) : exec c (isOfKind (.frozenSet (.kind .frozenSet) id (ks.map Name.key)) k) s =
      .ok (Heap.start.hasKind (.kind .frozenSet) k) s := by
    rw [exec_isOfKind c (hi.readsAttributes (k := .frozenSet) rfl rfl rfl),
      hi.isOfKind (k := .frozenSet) rfl rfl]
  refine .after (hkind .text) (.after (hkind .bytes) (.of_exec_self hs rfl ⟨rfl, ?_⟩))
  exact .of_exec_self hs rfl ⟨ks, hks, hnodup, rfl, rfl⟩

end Concrete

/-- Texts of the built-in class are written without quotes as they are. -/
theorem writtenPlainly_of_text (hI : ∀ s, I s → s.heap.Intact) (hcls : ∀ k ∈ names, k.cls = .kind .text) :
    Name.WrittenPlainly c I names := by
  intro k hk ds s hs
  obtain ⟨text, cls, id⟩ := k
  obtain rfl : cls = .kind .text := hcls _ hk
  exact .of_exec_self hs (exec_plainForm_text c (hI s hs.1) id text) ⟨id, rfl⟩

section Unknown

variable (hI : Session.Abiding I) (hnames : Name.ServeAsKeys c I names) {place : Nat}
  {fields : List (Name × Value)} (hholds : ∀ s, I s → s.heap.HoldsFields place fields)
  (hfields : ∀ field ∈ fields, field.1 ∈ names)
include hI hnames hholds hfields

/-- The names that do not occur in a descriptor. -/
theorem settles_unknownNames (hplain : Name.WrittenPlainly c I (unknownOf fields names)) {ks : List Name}
    (hks : ∀ k ∈ ks, k ∈ names) (hs : I s) (id : Nat) :
    Settles c I s (Build.unknownNames (.view id (.ref place)) (ks.map Value.ofName)) fun ws _ =>
      List.Forall₂ (fun k w => ∃ id, w = Value.ofName ⟨k.text, .kind .text, id⟩)
        (ks.filter fun k => decide (k.text ∉ fieldTexts fields)) ws := by
  induction ks generalizing s with
  | nil => exact .of_exec_self hs rfl .nil
  | cons k ks ih =>
    obtain ⟨hk, hks⟩ := List.forall_mem_cons.mp hks
    have hany : (fields.any fun field => field.1.text == k.text) =
        decide (k.text ∈ fieldTexts fields) := by
      rw [Bool.eq_iff_iff, List.any_eq_true, decide_eq_true_eq, fieldTexts, List.mem_map]
      simp only [beq_iff_eq]
    rw [List.map_cons, Build.unknownNames]
    refine .after (exec_contains_view hI hholds hnames hfields hs id hk) ?_
    rw [hany]
    by_cases hmem : k.text ∈ fieldTexts fields
    · rw [decide_eq_true hmem, if_pos rfl, List.filter_cons_of_neg (by simpa using hmem)]
      exact ih hks hs
    · rw [decide_eq_false hmem, if_neg Bool.false_ne_true, List.filter_cons_of_pos (by simpa using hmem)]
      have hplain := hplain k (List.mem_filter.mpr ⟨hk, by simpa using hmem⟩) []
      rw [Session.keeping_nil] at hplain
      refine (hplain s hs).bind fun w s₁ _ hs₁ hw => ?_
      exact (ih hks hs₁).bind fun ws s₂ _ hs₂ hws => .of_exec_self hs₂ rfl (.cons hw hws)

/-- Names that occur in a descriptor are returned, and others are refused. -/
theorem settles_requireKnown (hplain : Name.WrittenPlainly c I (unknownOf fields names))
    {keys : Value} {K : Finset String} (hkeys : keys.GivesNames c I s names K) (hs : I s) (factory : String)
    (id : Nat) :
    ((∀ t ∈ K, t ∈ fieldTexts fields) → Settles c I s
      (Build.requireKnown factory (.view id (.ref place)) keys) fun selected _ =>
        ∃ ks : List Name, (∀ k ∈ ks, k ∈ names) ∧ (ks.map Name.text).toFinset = K ∧
          selected = ks.map Name.key) ∧
    ((¬∀ t ∈ K, t ∈ fieldTexts fields) → ∃ s',
      exec c (Build.requireKnown factory (.view id (.ref place)) keys) s =
        .error (.refusal factory (unknownMessage (fieldTexts fields) K)) s') := by
  have hkeys := hkeys []
  rw [Session.keeping_nil] at hkeys
  obtain ⟨isText, s₁, htext, hle₁, hs₁, rfl, members, s₂, hmembers, hle₂, hs₂, ks, hks, hnodup, rfl,
    rfl⟩ := hkeys hs
  have hvalues : (ks.map Name.key).map (·.value) = ks.map Value.ofName := by
    rw [List.map_map]
    rfl
  obtain ⟨ws, s₃, hunknown, hle₃, hs₃, hws⟩ :=
    settles_unknownNames hI hnames hholds hfields hplain hks hs₂ id
  have hrun : exec c (Build.requireKnown factory (.view id (.ref place)) keys) s =
      exec c (do
        if ws.isEmpty then return ks.map Name.key
        let names := (← sorted ws).map fun name => name.text?.getD ""
        throw (.refusal factory ("unknown keys: " ++ ", ".intercalate names))) s₃ := by
    rw [Build.requireKnown, exec_bind, htext, Ending.andThen_ok, if_neg Bool.false_ne_true]
    dsimp only
    rw [exec_bind, hmembers, Ending.andThen_ok, hvalues, exec_bind, exec_yielded_of_ok hunknown,
      Ending.andThen_ok]
  have hempty : ws = [] ↔ ∀ t ∈ (ks.map Name.text).toFinset, t ∈ fieldTexts fields := by
    rw [← List.length_eq_zero_iff, ← hws.length_eq, List.length_eq_zero_iff, List.filter_eq_nil_iff]
    simp
  refine ⟨fun hall => ?_, fun hnot => ?_⟩
  · obtain rfl := hempty.mpr hall
    exact ⟨_, s₃, hrun, (hle₁.trans hle₂).trans hle₃, hs₃, ks, hks, rfl, rfl⟩
  · have hne : ws.isEmpty = false := by
      rw [Bool.eq_false_iff, ne_eq, List.isEmpty_iff]
      exact fun h => hnot (hempty.mp h)
    obtain ⟨vs, hsorted, hvs⟩ := exec_sorted_texts (c := c) s₃ hws
      (hnodup.sublist (List.filter_sublist.map Name.text))
    refine ⟨s₃, ?_⟩
    rw [hrun, hne, if_neg Bool.false_ne_true, exec_bind, hsorted, Ending.andThen_ok]
    dsimp only
    rw [hvs]
    have hunknown : ((ks.filter fun k => decide (k.text ∉ fieldTexts fields)).map Name.text).toFinset =
        unknownTexts (fieldTexts fields) (ks.map Name.text).toFinset := by
      ext t
      simp only [unknownTexts, List.mem_toFinset, Finset.mem_filter, List.mem_map, List.mem_filter,
        decide_eq_true_eq]
      constructor
      · rintro ⟨k, ⟨hk, hunknown⟩, rfl⟩
        exact ⟨⟨k, hk, rfl⟩, hunknown⟩
      · rintro ⟨⟨k, hk, rfl⟩, hunknown⟩
        exact ⟨k, ⟨hk, hunknown⟩, rfl⟩
    rw [hunknown]
    rfl

end Unknown

/-- Names that occur in a descriptor select the fields of these names. -/
theorem selects_of_givesNames (hI : Session.Abiding I) (hnames : Name.ServeAsKeys c I names)
    {fields : List (Name × Value)} (hfields : ∀ field ∈ fields, field.1 ∈ names)
    (hplain : Name.WrittenPlainly c I (unknownOf fields names)) {keys : Value} {K : Finset String}
    (hkeys : keys.GivesNames c I s names K) (hknown : ∀ t ∈ K, t ∈ fieldTexts fields) (hs : I s)
    (factory : String) :
    Selects c I s factory fields keys fun k => decide (k.text ∈ K) := by
  intro id place hd
  let ds := [(place, fields)]
  have hs : Session.Keeping I ds s := ⟨hs, by simpa [ds] using hd⟩
  have hselected := (settles_requireKnown (hI.keeping ds) (hnames.keeping ds)
    (fun s hs => hs.2 _ List.mem_cons_self) hfields (hplain.keeping ds) (hkeys.keeping ds) hs factory
    id).1 hknown
  refine (Settles.of_keeping ds hselected).mono fun selected s' _ _ ⟨⟨ks, hks, hK, hselected⟩, hd'⟩ =>
    ⟨hd' _ List.mem_cons_self, fun field hfield ds' s'' hs'' => ?_⟩
  subst hselected hK
  exact .of_exec_self hs'' (exec_containsMember_name (hnames.keeping ds') hs''
    (hfields field hfield) hks) (any_text_eq ks _)

section Selected

variable (host : Host) (n : Nat) {fields : List (Name × Value)} {texts : List (String × String)}
  {strict : Bool} {title : String} {p : Value} {old old' : Nat} (hI : Session.Abiding I)
  (hnames : Name.ServeAsKeys (Ask.conduct host (n + 1)) I names)
  (hplain : Name.WrittenPlainly (Ask.conduct host (n + 1)) I (unknownOf fields names))
  (hmem : ∀ field ∈ fields, field.1 ∈ names)
  (hfields : SteadyFields (Ask.conduct host (n + 1)) I fields texts)
  (hnodup : (fieldTexts fields).Nodup) (hs : I s)
  (hp : s.Makes old' (.object fields strict) title p) {keys : Value} {K : Finset String}
  (hkeys : keys.GivesNames (Ask.conduct host (n + 1)) I s names K)
include hI hnames hplain hmem hfields hnodup hs hp hkeys

/-- The product of the fields that keys name, or of the others. -/
theorem settles_selected (hold : ∀ s, I s → old ≤ s.heap.cells.size)
    (hknown : ∀ t ∈ K, t ∈ fieldTexts fields) (factory : String) (keep : Bool) :
    Settles (Ask.conduct host (n + 1)) I s (Build.selectedObject factory keep p keys) fun q s' =>
      ∃ texts', SteadyFields (Ask.conduct host (n + 1)) I (chosenFields K keep fields) texts' ∧
        s'.Makes old (.object (chosenFields K keep fields) strict) (objectTitle texts' strict) q := by
  have hselects := selects_of_givesNames hI hnames hmem hplain hkeys hknown hs factory
  rw [← distinctFields_of_nodup hnodup] at hselects
  refine (settles_selectedObject host n hI hold hs hfields hp hselects keep).mono
    fun q s' _ _ ⟨fields', texts', hchanged, hfields', hq⟩ => ?_
  rw [distinctFields_of_nodup hnodup] at hchanged
  obtain rfl := hchanged.eq_chosenFields
  exact ⟨texts', hfields', hq⟩

omit hfields in
/-- Keys that give other names are refused. -/
theorem exec_selected_unknown (hunknown : ¬∀ t ∈ K, t ∈ fieldTexts fields) (factory : String)
    (keep : Bool) :
    ∃ s', exec (Ask.conduct host (n + 1)) (Build.selectedObject factory keep p keys) s =
      .error (.refusal factory (unknownMessage (fieldTexts fields) K)) s' := by
  obtain ⟨id, place, hparts, hd⟩ := exec_objectParts host n hI hs hp factory
  rw [distinctFields_of_nodup hnodup] at hd
  let ds := [(place, fields)]
  have hs : Session.Keeping I ds s := ⟨hs, by simpa [ds] using hd⟩
  obtain ⟨s', hrefused⟩ := (settles_requireKnown (hI.keeping ds) (hnames.keeping ds)
    (fun s hs => hs.2 _ List.mem_cons_self) hmem (hplain.keeping ds) (hkeys.keeping ds) hs factory
    id).2 hunknown
  refine ⟨s', ?_⟩
  rw [Build.selectedObject, exec_bind, hparts, Ending.andThen_ok]
  dsimp only
  rw [exec_bind, hrefused, Ending.andThen_error]

end Selected

end Run

end ValueShape
