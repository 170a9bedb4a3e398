import ValueShape.Proofs.Store.Mapping

/-!
# Comparing records

When the library's own tuples, mappings and records count as equal.

Comparing two values asks the first one, one step deeper inside (`Run.exec_compare_of_answer`).  Here
this is taken apart for tuples, for mappings with the same fields, for the read-only mappings that
show these, and for records of metadata.
-/

set_option autoImplicit false

namespace ValueShape

namespace Run

variable (host : Host) (n : Nat) {s : Session}

/-- Values that are the same as themselves are equal to themselves, part by part. -/
theorem exec_equalParts_same (c : Conduct) (s : Session) {vs : List Value}
    (hvs : ∀ v ∈ vs, v.identical v = true) : exec c (equalParts vs vs) s = .ok true s := by
  induction vs with
  | nil => rfl
  | cons v vs ih =>
    obtain ⟨hv, hvs⟩ := List.forall_mem_cons.mp hvs
    rw [equalParts, equivalent, if_pos hv, exec_bind, exec_pure, Ending.andThen_ok, if_pos rfl]
    exact ih hvs

/-- Parts that count as the same are followed by the others. -/
theorem exec_equalParts_cons {c : Conduct} {v w : Value} {vs ws : List Value}
    (hv : exec c (equal v w) s = .ok true s) {b : Bool}
    (hvs : exec c (equalParts vs ws) s = .ok b s) :
    exec c (equalParts (v :: vs) (w :: ws)) s = .ok b s := by
  have hequivalent : exec c (equivalent v w) s = .ok true s := by
    rw [equivalent]
    split
    · rfl
    · exact hv
  rw [equalParts, exec_bind, hequivalent, Ending.andThen_ok, if_pos rfl, hvs]

theorem exec_equal_tuple (hs : s.heap.Intact) (id id' : Nat) {vs ws : List Value} {b : Bool}
    (hparts : exec (Ask.conduct host n) (equalParts vs ws) s = .ok b s) :
    exec (Ask.conduct host (n + 1))
      (equal (.tuple (.kind .tuple) id vs) (.tuple (.kind .tuple) id' ws)) s = .ok b s := by
  refine exec_equal_of_compare (exec_compare_of_answer host n (asksSecondFirst_of_classOf ?_) ?_)
  · rw [hs.classOf (k := .tuple) rfl, hs.classOf (k := .tuple) rfl]
  · rw [answer, exec_bind, exec_heap, Ending.andThen_ok, hs.slot? (k := .tuple) rfl]
    change exec (Ask.conduct host n) (do
      let b ← equalParts vs ws
      return some (Value.bool b)) s = _
    rw [exec_bind, hparts]
    rfl

/-! ## Mappings

A read-only mapping does not compare anything itself.  The mapping that it shows is compared with
the other value, and this may turn the question round once more. -/

section Mappings

variable (hs : s.heap.Regular) {place place' : Nat} {fields : List (Name × Value)}
  (hd : s.heap.HoldsFields place fields) (hd' : s.heap.HoldsFields place' fields)

/-- Every entry stands among entries with the same names and values. -/
theorem exec_equalEntries {c : Conduct} {I : Session → Prop} (hs : I s) {names : List Name}
    (hnames : Name.ServeAsKeys c I names) (hfields : ∀ field ∈ fields, field.1 ∈ names)
    (hnodup : (fieldTexts fields).Nodup) (hsame : ∀ field ∈ fields, field.2.identical field.2 = true) :
    exec c (equalEntries (keyedFields fields) (keyedFields fields)) s = .ok true s := by
  have hwithin : ∀ fields' : List (Name × Value), (∀ field ∈ fields', field ∈ fields) →
      exec c (entriesWithin (keyedFields fields) (keyedFields fields')) s = .ok true s := by
    intro fields' hsub
    induction fields' with
    | nil => rfl
    | cons field fields' ih =>
      obtain ⟨hfield, hsub⟩ := List.forall_mem_cons.mp hsub
      have hfind : (fields.find? fun field' => field'.1.text == field.1.text) = some field := by
        refine List.find?_eq_some_iff_append.mpr ⟨by simp, ?_⟩
        obtain ⟨done, rest, rfl⟩ := List.append_of_mem hfield
        refine ⟨done, rest, rfl, fun other hother => ?_⟩
        rw [fieldTexts, List.map_append, List.map_cons] at hnodup
        have hne := (List.nodup_append.mp hnodup).2.2 other.1.text (List.mem_map_of_mem hother)
          field.1.text List.mem_cons_self
        simpa using hne
      have hcons : keyedFields (field :: fields') = (field.1.key, field.2) :: keyedFields fields' := rfl
      rw [hcons, entriesWithin, exec_bind,
        hnames.exec_entryUnder hs (hfields field hfield) hfields, hfind, Ending.andThen_ok]
      simp only [Option.map_some, equivalent, hsame field hfield, if_true, exec_bind, exec_pure,
        Ending.andThen_ok]
      exact ih hsub
  rw [equalEntries, bne_self_eq_false, if_neg Bool.false_ne_true]
  exact hwithin fields fun _ h => h

include hs hd hd'

/-- Mappings with the same fields are equal. -/
theorem exec_compare_dict {I : Session → Prop} (hI : I s) {names : List Name}
    (hnames : Name.ServeAsKeys (Ask.conduct host n) I names)
    (hfields : ∀ field ∈ fields, field.1 ∈ names) (hnodup : (fieldTexts fields).Nodup)
    (hsame : ∀ field ∈ fields, field.2.identical field.2 = true) :
    exec (Ask.conduct host (n + 1)) (compare (.ref place) (.ref place')) s =
      .ok (.bool true) s := by
  refine exec_compare_of_answer host n (asksSecondFirst_of_classOf ?_) ?_
  · rw [hs.classOf hd.initialClass rfl, hs.classOf hd'.initialClass rfl]
  · rw [answer, exec_bind, exec_heap, Ending.andThen_ok,
      hs.slot? (k := .dict) rfl hd.initialClass]
    change exec (Ask.conduct host n) (nativeAnswer .dict (.ref place) (.ref place')) s = _
    simp only [nativeAnswer, exec_bind, exec_heap, Ending.andThen_ok, hd.entries?, hd'.entries?,
      bothKnow, exec_equalEntries hI hnames hfields hnodup hsame, exec_pure]

/-- Read-only mappings that show the same fields are equal.  The mapping that is shown by the first
one is asked about the other read-only mapping, which it does not know, so that this one is asked in
turn. -/
theorem exec_equal_view {I : Session → Prop} (hI : I s) {names : List Name}
    (hnames : Name.ServeAsKeys (Ask.conduct host n) I names)
    (hfields : ∀ field ∈ fields, field.1 ∈ names) (hnodup : (fieldTexts fields).Nodup)
    (hsame : ∀ field ∈ fields, field.2.identical field.2 = true) (id id' : Nat) :
    exec (Ask.conduct host (n + 3)) (equal (.view id (.ref place)) (.view id' (.ref place'))) s =
      .ok true s := by
  have hview (i : Nat) (p : Nat) : s.heap.slot? .equality (.view i (.ref p)) = some (.native .view) :=
    hs.slot? (k := .view) rfl rfl .equality
  have hdict : s.heap.slot? .equality (.ref place) = some (.native .dict) :=
    hs.slot? (k := .dict) rfl hd.initialClass .equality
  have hclass : s.heap.asksSecondFirst (.ref place) (.view id' (.ref place')) = false := by
    rw [Heap.asksSecondFirst, hs.classOf hd.initialClass rfl, hs.classOf (k := .view) rfl rfl]
    rfl
  have hinner := exec_compare_dict host n hs hd' hd hI hnames hfields hnodup hsame
  have hfirst : exec (Ask.conduct host (n + 1))
      (answer (.ref place) (.view id' (.ref place'))) s = .ok none s := by
    rw [answer, exec_bind, exec_heap, Ending.andThen_ok, hdict]
    change exec _ (nativeAnswer .dict (.ref place) (.view id' (.ref place'))) s = _
    simp only [nativeAnswer, exec_bind, exec_heap, Ending.andThen_ok, hd.entries?]
    rfl
  have hsecond : exec (Ask.conduct host (n + 1))
      (answer (.view id' (.ref place')) (.ref place)) s = .ok (some (.bool true)) s := by
    rw [answer, exec_bind, exec_heap, Ending.andThen_ok, hview]
    change exec _ (some <$> compare (.ref place') (.ref place)) s = _
    rw [exec_map, hinner]
    rfl
  have houter : exec (Ask.conduct host (n + 2))
      (compare (.ref place) (.view id' (.ref place'))) s = .ok (.bool true) s := by
    change exec (Ask.conduct host (n + 1)) (compareOnce _ _) s = _
    rw [compareOnce, exec_bind, exec_heap, Ending.andThen_ok, hclass]
    simp only [Bool.false_eq_true, if_false, exec_bind, hfirst, hsecond, Ending.andThen_ok, exec_pure]
  refine exec_equal_of_compare (exec_compare_of_answer host (n + 2) (asksSecondFirst_of_classOf ?_) ?_)
  · rw [hs.classOf (k := .view) rfl rfl, hs.classOf (k := .view) rfl rfl]
  · rw [answer, exec_bind, exec_heap, Ending.andThen_ok, hview]
    change exec _ (some <$> compare (.ref place) (.view id' (.ref place'))) s = _
    rw [exec_map, houter]
    rfl

end Mappings

/-! ## Metadata -/

/-- Records of metadata are equal if they name the same factory and have equal arguments. -/
theorem exec_equal_metadata (hs : s.heap.Intact) (id id' i i' : Nat) (factory : String)
    {args args' : List Value}
    (hargs : exec (Ask.conduct host n) (equalParts args args') s = .ok true s) :
    exec (Ask.conduct host (n + 2))
      (equal (.metadata (.kind .metadata) id (.kept factory) (.tuple (.kind .tuple) i args))
        (.metadata (.kind .metadata) id' (.kept factory) (.tuple (.kind .tuple) i' args'))) s =
      .ok true s := by
  have hread (id i : Nat) (args : List Value) : exec (Ask.conduct host (n + 1)) (readFields
      (.metadata (.kind .metadata) id (.kept factory) (.tuple (.kind .tuple) i args))) s =
        .ok [.keptText factory, .tuple (.kind .tuple) i args] s := by
    have hfactory := (exec_readFactory (Ask.conduct host (n + 1)) hs id (.kept factory)
      (.tuple (.kind .tuple) i args)).trans (exec_identified_of_isIdentified _ rfl)
    have harguments := (exec_readArguments (Ask.conduct host (n + 1)) hs id (.kept factory)
      (.tuple (.kind .tuple) i args)).trans (exec_identified_of_isIdentified _ rfl)
    rw [readFields, Heap.recordFields, List.mapM_cons, exec_bind]
    refine (congrArg (Ending.andThen · _) hfactory).trans ?_
    rw [Ending.andThen_ok, List.mapM_cons, exec_bind, exec_bind]
    refine (congrArg (fun r => Ending.andThen (Ending.andThen r _) _) harguments).trans ?_
    rfl
  have hparts : exec (Ask.conduct host (n + 1)) (equalParts
      [.keptText factory, .tuple (.kind .tuple) i args]
      [.keptText factory, .tuple (.kind .tuple) i' args']) s = .ok true s := by
    have htuple := exec_equal_tuple host n hs i i' hargs
    have hname : (Value.keptText factory).identical (.keptText factory) = true := by
      simp [Value.keptText, Value.identical, lasting, unidentified]
    rw [equalParts, equivalent, if_pos hname, exec_bind, exec_pure, Ending.andThen_ok, if_pos rfl]
    exact exec_equalParts_cons htuple rfl
  refine exec_equal_of_compare (exec_compare_of_answer host (n + 1) (asksSecondFirst_of_classOf ?_) ?_)
  · rw [hs.classOf (k := .metadata) rfl, hs.classOf (k := .metadata) rfl]
  · rw [answer, exec_bind, exec_heap, Ending.andThen_ok, hs.slot? (k := .metadata) rfl]
    change exec _ (equalRecords _ _) s = _
    rw [equalRecords, exec_bind, exec_heap, Ending.andThen_ok, hs.classOf (k := .metadata) rfl,
      hs.classOf (k := .metadata) rfl, bne_self_eq_false, if_neg Bool.false_ne_true, exec_bind,
      hread, Ending.andThen_ok, exec_bind, hread, Ending.andThen_ok, exec_bind, hparts]
    rfl

end Run

end ValueShape
