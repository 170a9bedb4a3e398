import ValueShape.Build.Mapping
import ValueShape.Proofs.Conduct.Record

/-!
# Names as keys

What the mappings and sets of the library make of names.

* `Name.ServeAsKeys c I names` says that the given names are texts that are found by their
  characters, wherever the invariant `I` holds.  Texts of the built-in class always are
  (`Name.serveAsKeys_of_text`).
* `distinctFields` is what a list of fields amounts to as a mapping: each name in its first place,
  with its last value.
* The lemmas `exec_…` say that the operations on entries and members come down to these.
-/

set_option autoImplicit false

namespace ValueShape

open Run

/-! ## Fields

What a mapping makes of entries that come one after the other is a function of lists, if all keys
are names. -/

/-- Fields with a value for a name: in the place of the name if it is there, at the end otherwise. -/
def insertField (k : Name) (v : Value) : List (Name × Value) → List (Name × Value)
  | [] => [(k, v)]
  | (k', v') :: fields =>
    if k'.text == k.text then (k', v) :: fields else (k', v') :: insertField k v fields

/-- The fields that a list of fields amounts to: each name in its first place, with its last
value. -/
def distinctFields (fields : List (Name × Value)) : List (Name × Value) :=
  fields.foldl (fun done field => insertField field.1 field.2 done) []

/-- The texts of the names of fields. -/
def fieldTexts (fields : List (Name × Value)) : List String := fields.map fun field => field.1.text

section Fields

variable {k : Name} {v : Value} {fields : List (Name × Value)}

theorem insertField_of_notMem (hk : k.text ∉ fieldTexts fields) :
    insertField k v fields = fields ++ [(k, v)] := by
  induction fields with
  | nil => rfl
  | cons field fields ih =>
    obtain ⟨k', v'⟩ := field
    obtain ⟨hne, hk⟩ := not_or.mp (mt List.mem_cons.mpr hk)
    rw [insertField, if_neg (by simpa using Ne.symm hne), ih hk, List.cons_append]

theorem fieldTexts_insertField :
    fieldTexts (insertField k v fields) =
      if k.text ∈ fieldTexts fields then fieldTexts fields else fieldTexts fields ++ [k.text] := by
  split
  · rename_i hk
    induction fields with
    | nil => exact absurd hk List.not_mem_nil
    | cons field fields ih =>
      obtain ⟨k', v'⟩ := field
      rw [insertField]
      split
      · rfl
      · rename_i hne
        rcases List.mem_cons.mp hk with heq | hk
        · exact absurd heq.symm (by simpa using hne)
        · exact congrArg (k'.text :: ·) (ih hk)
  · rename_i hk
    rw [insertField_of_notMem hk]
    simp [fieldTexts]

/-- The names of fields stay among given ones. -/
theorem forall_mem_insertField {P : Name → Prop} (hk : P k) (hfields : ∀ field ∈ fields, P field.1) :
    ∀ field ∈ insertField k v fields, P field.1 := by
  induction fields with
  | nil =>
    intro field hfield
    obtain rfl := List.mem_singleton.mp hfield
    exact hk
  | cons field fields ih =>
    obtain ⟨k', v'⟩ := field
    obtain ⟨hk', hfields⟩ := List.forall_mem_cons.mp hfields
    rw [insertField]
    split
    · exact List.forall_mem_cons.mpr ⟨hk', hfields⟩
    · exact List.forall_mem_cons.mpr ⟨hk', ih hfields⟩

/-- The values of fields stay among given ones. -/
theorem forall_mem_insertField_value {P : Value → Prop} (hv : P v)
    (hfields : ∀ field ∈ fields, P field.2) : ∀ field ∈ insertField k v fields, P field.2 := by
  induction fields with
  | nil =>
    intro field hfield
    obtain rfl := List.mem_singleton.mp hfield
    exact hv
  | cons field fields ih =>
    obtain ⟨k', v'⟩ := field
    obtain ⟨hv', hfields⟩ := List.forall_mem_cons.mp hfields
    rw [insertField]
    split
    · exact List.forall_mem_cons.mpr ⟨hv, hfields⟩
    · exact List.forall_mem_cons.mpr ⟨hv', ih hfields⟩

end Fields

/-- What holds of the fields in the beginning and after each of them holds of all distinct ones. -/
theorem distinctFields_induction {P : List (Name × Value) → Prop} {fields : List (Name × Value)}
    (hnil : P []) (hinsert : ∀ field ∈ fields, ∀ done, P done →
      P (insertField field.1 field.2 done)) : P (distinctFields fields) := by
  have hfold : ∀ done, P done →
      P (fields.foldl (fun done field => insertField field.1 field.2 done) done) := by
    induction fields with
    | nil => exact fun _ hdone => hdone
    | cons field fields ih =>
      obtain ⟨hfield, hinsert⟩ := List.forall_mem_cons.mp hinsert
      exact fun done hdone => ih hinsert _ (hfield done hdone)
  exact hfold [] hnil

/-- No name occurs twice among distinct fields. -/
theorem nodup_distinctFields (fields : List (Name × Value)) :
    (fieldTexts (distinctFields fields)).Nodup := by
  refine distinctFields_induction (P := fun done => (fieldTexts done).Nodup) List.nodup_nil
    fun field _ done hdone => ?_
  rw [fieldTexts_insertField]
  split
  · exact hdone
  · rename_i hnew
    exact List.nodup_append.mpr ⟨hdone, List.pairwise_singleton _ _, by
      rintro a ha b hb rfl
      exact hnew (List.mem_singleton.mp hb ▸ ha)⟩

theorem forall_mem_distinctFields {P : Name → Prop} {fields : List (Name × Value)}
    (hfields : ∀ field ∈ fields, P field.1) : ∀ field ∈ distinctFields fields, P field.1 :=
  distinctFields_induction (P := fun done => ∀ field ∈ done, P field.1)
    (fun _ h => absurd h List.not_mem_nil)
    fun field hfield _ hdone => forall_mem_insertField (hfields field hfield) hdone

theorem forall_mem_distinctFields_value {P : Value → Prop} {fields : List (Name × Value)}
    (hfields : ∀ field ∈ fields, P field.2) : ∀ field ∈ distinctFields fields, P field.2 :=
  distinctFields_induction (P := fun done => ∀ field ∈ done, P field.2)
    (fun _ h => absurd h List.not_mem_nil)
    fun field hfield _ hdone => forall_mem_insertField_value (hfields field hfield) hdone

/-- Fields that are distinct already stay as they are. -/
theorem distinctFields_of_nodup {fields : List (Name × Value)} (h : (fieldTexts fields).Nodup) :
    distinctFields fields = fields := by
  have hfold : ∀ done, (fieldTexts (done ++ fields)).Nodup →
      fields.foldl (fun done field => insertField field.1 field.2 done) done = done ++ fields := by
    clear h
    induction fields with
    | nil => exact fun done _ => (List.append_nil done).symm
    | cons field fields ih =>
      intro done hdone
      have hsplit : done ++ field :: fields = (done ++ [field]) ++ fields := by simp
      rw [hsplit] at hdone
      have hnew : field.1.text ∉ fieldTexts done := by
        have hleft : (fieldTexts (done ++ [field])).Nodup := by
          rw [fieldTexts, List.map_append] at hdone
          exact (List.nodup_append.mp hdone).1
        rw [fieldTexts, List.map_append] at hleft
        exact fun hmem => (List.nodup_append.mp hleft).2.2 _ hmem _ (by simp) rfl
      rw [List.foldl_cons, insertField_of_notMem hnew, ih _ hdone, hsplit]
  exact hfold [] h

/-! ## Keys -/

/-- A name as a key. -/
def Name.key (k : Name) : Key Value := ⟨.ofName k, hashText k.text⟩

/-- Fields as the entries of a mapping, with the hashes of their names. -/
def keyedFields (fields : List (Name × Value)) : List Entry :=
  fields.map fun field => (field.1.key, field.2)

/-- The names are texts that are found by their characters, wherever an invariant holds. -/
structure Name.ServeAsKeys (c : Conduct) (I : Session → Prop) (names : List Name) : Prop where
  /-- They are texts. -/
  isText {k : Name} (hk : k ∈ names) {s : Session} (hs : I s) :
    exec c (isOfKind (.ofName k) .text) s = .ok true s
  /-- They are taken for primitive values. -/
  appearance {k : Name} (hk : k ∈ names) {s : Session} (hs : I s) :
    exec c (appearance (.ofName k)) s = .ok .primitive s
  /-- They are hashed by their characters. -/
  hash {k : Name} (hk : k ∈ names) {s : Session} (hs : I s) :
    exec c (hash (.ofName k)) s = .ok (hashText k.text) s
  /-- They are equal if they have the same characters. -/
  equivalent {k k' : Name} (hk : k ∈ names) (hk' : k' ∈ names) {s : Session} (hs : I s) :
    exec c (equivalent (.ofName k) (.ofName k')) s = .ok (k.text == k'.text) s
  /-- They are values that a caller can hold. -/
  identified {k : Name} (hk : k ∈ names) : (Value.ofName k).isIdentified = true

namespace Name.ServeAsKeys

variable {c : Conduct} {I : Session → Prop} {names names' : List Name}

theorem mono (h : ServeAsKeys c I names) (hsub : ∀ k ∈ names', k ∈ names) :
    ServeAsKeys c I names' where
  isText hk := h.isText (hsub _ hk)
  appearance hk := h.appearance (hsub _ hk)
  hash hk := h.hash (hsub _ hk)
  equivalent hk hk' := h.equivalent (hsub _ hk) (hsub _ hk')
  identified hk := h.identified (hsub _ hk)

section

variable (h : ServeAsKeys c I names) {s : Session} (hs : I s) {k : Name} (hk : k ∈ names)
include h hs hk

theorem exec_keyed : exec c (keyed (.ofName k)) s = .ok k.key s := by
  rw [keyed, exec_bind, h.hash hk hs, Ending.andThen_ok, exec_pure, Name.key]

theorem exec_isKey {k' : Name} (hk' : k' ∈ names) :
    exec c (isKey k.key k'.key) s = .ok (k'.text == k.text) s := by
  rw [isKey]
  by_cases heq : k'.text = k.text
  · have hsame : k'.key.hash.same k.key.hash = true := by
      rw [Name.key, Name.key, heq]
      exact Hash.same_refl _
    rw [if_pos hsame]
    exact h.equivalent hk' hk hs
  · split
    · exact h.equivalent hk' hk hs
    · rw [exec_pure, beq_eq_false_iff_ne.mpr heq]

theorem exec_entryUnder {fields : List (Name × Value)} (hfields : ∀ field ∈ fields, field.1 ∈ names) :
    exec c (entryUnder? k.key (keyedFields fields)) s =
      .ok ((fields.find? fun field => field.1.text == k.text).map (·.2)) s := by
  induction fields with
  | nil => rfl
  | cons field fields ih =>
    obtain ⟨hfield, hfields⟩ := List.forall_mem_cons.mp hfields
    simp only [keyedFields, List.map_cons, entryUnder?, exec_bind, h.exec_isKey hs hk hfield,
      Ending.andThen_ok, List.find?_cons]
    cases field.1.text == k.text with
    | true => rfl
    | false => exact ih hfields

theorem exec_insertEntry (v : Value) {fields : List (Name × Value)}
    (hfields : ∀ field ∈ fields, field.1 ∈ names) :
    exec c (insertEntry k.key v (keyedFields fields)) s =
      .ok (keyedFields (insertField k v fields)) s := by
  induction fields with
  | nil => rfl
  | cons field fields ih =>
    obtain ⟨hfield, hfields⟩ := List.forall_mem_cons.mp hfields
    simp only [keyedFields, List.map_cons, insertEntry, insertField, exec_bind,
      h.exec_isKey hs hk hfield, Ending.andThen_ok]
    cases field.1.text == k.text with
    | true => rfl
    | false =>
      rw [if_neg Bool.false_ne_true, exec_bind]
      exact congrArg (Ending.andThen · _) (ih hfields)

theorem exec_hasMember {ks : List Name} (hks : ∀ k' ∈ ks, k' ∈ names) :
    exec c (hasMember k.key (ks.map Name.key)) s = .ok (ks.any fun k' => k'.text == k.text) s := by
  induction ks with
  | nil => rfl
  | cons k' ks ih =>
    obtain ⟨hk', hks⟩ := List.forall_mem_cons.mp hks
    simp only [List.map_cons, hasMember, exec_bind, h.exec_isKey hs hk hk', Ending.andThen_ok,
      List.any_cons]
    cases k'.text == k.text with
    | true => rfl
    | false => exact ih hks

/-- A name that is not among the members yet comes last. -/
theorem exec_insertMember {ks : List Name} (hks : ∀ k' ∈ ks, k' ∈ names)
    (hnew : k.text ∉ ks.map Name.text) :
    exec c (insertMember (ks.map Name.key) k.key) s = .ok ((ks ++ [k]).map Name.key) s := by
  have hany : (ks.any fun k' => k'.text == k.text) = false := by
    refine List.any_eq_false.mpr fun k' hk' heq => hnew ?_
    exact List.mem_map.mpr ⟨k', hk', by simpa using heq⟩
  rw [insertMember, exec_bind, h.exec_hasMember hs hk hks, hany, Ending.andThen_ok]
  simp

end

/-- Fields as the entries of a new mapping. -/
theorem exec_distinctEntries (h : ServeAsKeys c I names) {s : Session} (hs : I s)
    {fields : List (Name × Value)} (hfields : ∀ field ∈ fields, field.1 ∈ names) :
    exec c (distinctEntries (fieldEntries fields)) s =
      .ok (keyedFields (distinctFields fields)) s := by
  have hfold : ∀ done : List (Name × Value), (∀ field ∈ done, field.1 ∈ names) →
      exec c ((fieldEntries fields).foldlM
        (fun es p => do insertEntry (← keyed p.1) p.2 es) (keyedFields done)) s =
      .ok (keyedFields (fields.foldl (fun done field => insertField field.1 field.2 done) done))
        s := by
    induction fields with
    | nil => exact fun done _ => rfl
    | cons field fields ih =>
      intro done hdone
      obtain ⟨hfield, hfields⟩ := List.forall_mem_cons.mp hfields
      simp only [fieldEntries, List.map_cons, List.foldlM_cons, exec_bind,
        h.exec_keyed hs hfield, Ending.andThen_ok, h.exec_insertEntry hs hfield _ hdone]
      exact ih hfields _ (forall_mem_insertField hfield hdone)
  exact hfold [] fun _ h => absurd h List.not_mem_nil

end Name.ServeAsKeys

theorem Value.identical_text_eq {id id' : Nat} {text text' : String}
    (h : (Value.scalar (.kind .text) id (.text text)).identical
      (.scalar (.kind .text) id' (.text text')) = true) : text = text' := by
  simp only [identical, Bool.and_eq_true, beq_iff_eq, Scalar.text.injEq] at h
  exact h.1.2

/-- A text of the built-in class is taken for a primitive value. -/
theorem Run.exec_appearance_text (c : Conduct) {s : Session} (hs : s.heap.Intact) (id : Nat)
    (text : String) :
    exec c (appearance (.scalar (.kind .text) id (.text text))) s = .ok .primitive s := by
  rw [appearance, exec_bind, exec_heap, Ending.andThen_ok, exec_bind, exec_asksForClass,
    Ending.andThen_ok, hs.readsAttributes (k := .text) rfl]
  rfl

/-- A text of the built-in class is its own plain form. -/
theorem Run.exec_plainForm_text (c : Conduct) {s : Session} (hs : s.heap.Intact) (id : Nat)
    (text : String) :
    exec c (plainForm (.scalar (.kind .text) id (.text text))) s =
      .ok (.scalar (.kind .text) id (.text text)) s := by
  rw [plainForm, plainFormUpTo, exec_bind, exec_heap, Ending.andThen_ok]
  · rw [hs.slot? (v := .scalar (.kind .text) id (.text text)) rfl]
    rfl
  · intros
    contradiction

/-- Texts of the built-in class are found by their characters. -/
theorem Name.serveAsKeys_of_text (host : Host) (n : Nat) {I : Session → Prop}
    (hI : ∀ s, I s → s.heap.Intact) {names : List Name} (hcls : ∀ k ∈ names, k.cls = .kind .text)
    (hid : ∀ k ∈ names, (Value.ofName k).isIdentified = true) :
    Name.ServeAsKeys (Ask.conduct host (n + 1)) I names where
  isText {k} hk s hs := by
    obtain ⟨text, cls, id⟩ := k
    obtain rfl : cls = .kind .text := hcls _ hk
    exact exec_isText _ (hI s hs) id text
  appearance {k} hk s hs := by
    obtain ⟨text, cls, id⟩ := k
    obtain rfl : cls = .kind .text := hcls _ hk
    exact exec_appearance_text _ (hI s hs) id text
  hash {k} hk s hs := by
    obtain ⟨text, cls, id⟩ := k
    obtain rfl : cls = .kind .text := hcls _ hk
    change exec (Ask.conduct host n) (hashOnce (.scalar (.kind .text) id (.text text))) s = _
    rw [hashOnce, exec_bind, exec_heap, Ending.andThen_ok, (hI s hs).slot? rfl]
    rfl
  equivalent {k k'} hk hk' s hs := by
    obtain ⟨text, cls, id⟩ := k
    obtain ⟨text', cls', id'⟩ := k'
    obtain rfl : cls = .kind .text := hcls _ hk
    obtain rfl : cls' = .kind .text := hcls _ hk'
    rw [equivalent]
    split
    · rename_i hsame
      rw [Value.identical_text_eq hsame, exec_pure, beq_self_eq_true]
    · exact exec_equal_text host n (hI s hs) id id' text text'
  identified hk := hid _ hk

end ValueShape
