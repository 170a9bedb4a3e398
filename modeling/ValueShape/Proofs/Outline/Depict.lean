import ValueShape.Proofs.Outline.Container
import ValueShape.Proofs.Outline.Exhibit

/-!
# Values that are rendered without fail

Which values a rendering can meet without failing: null, the absent value, truth values, numbers,
texts and bytes, classes, callables, the containers of the built-in classes and of classes that derive
from them, the collections of the keys and of the entries of a mapping, foreign mappings, and objects of
other classes.

* `Value.Depicted c I S v` says that `v` is one of these, wherever the invariant `I` holds, and that
  what stands inside it belongs to the set `S`.  What a set is needed for is that values may be shared
  and may be inside themselves.
* Integers must have at most `maxIntDigits` digits, and callables must tell their names.  Foreign
  mappings may refuse to be read in any ordinary way.
* `Value.Depicted.exhibits` reduces this to `Value.Exhibits`, so that rendering such values comes to
  an end.
-/

set_option autoImplicit false

namespace ValueShape

open Run

/-! ## The kinds of values

There is one constructor for each kind of value that rendering treats in a way of its own.  What
stands inside belongs to a set of values, so that values may be inside themselves. -/

/-- The kinds of values without parts that are written by a method of their own. -/
def Kind.plainKinds : List Kind :=
  [null, bool, int, float, text, bytes, derivedInt, derivedFloat, derivedText, derivedBytes]

/-- A value that can be rendered, wherever an invariant holds.  What stands inside it belongs to a
given set. -/
inductive Value.Depicted (c : Conduct) (I : Session → Prop) (S : Value → Prop) : Value → Prop
  /-- Null, a truth value, a number, a text or bytes. -/
  | plain {v : Value} {k : Kind} (hk : k ∈ Kind.plainKinds)
      (hv : ∀ s, I s → s.heap.IsOrdinary k v) (hplain : v.isPlain = true)
      (hdigits : ∀ n, v.int? = some n → n.natAbs < Nat.pow 10 maxIntDigits) : Depicted c I S v
  /-- The absent value. -/
  | undefined (hv : ∀ s, I s → s.heap.IsOrdinary .undefined .undefined) : Depicted c I S .undefined
  /-- A class. -/
  | cls {cls : Class} (hkind : ∀ s, I s → s.heap.readsAttributes (.ofClass cls) = false ∧
      s.heap.appearance (.ofClass cls) = .cls)
      (hname : ∀ s, I s → (s.heap.classNameValue cls).IsText) : Depicted c I S (.ofClass cls)
  /-- A callable that tells its name. -/
  | callable {v : Value} (happearance : ∀ s, I s → exec c (appearance v) s = .ok .callable s)
      (hname : ∀ s, I s → Settles c I s (displayName v) fun w _ => w.IsText) : Depicted c I S v
  /-- An object of another class. -/
  | object {v : Value} (hkind : ∀ s, I s → s.heap.readsAttributes v = false ∧
      s.heap.appearance v = .other)
      (hname : ∀ s, I s → (s.heap.typeNameValue v).IsText) : Depicted c I S v
  /-- A tuple. -/
  | tuple {cls : Class} {id : Nat} {vs : List Value} {k : Kind} (hk : k ∈ [.tuple, .derivedTuple])
      (hv : ∀ s, I s → s.heap.IsOrdinary k (.tuple cls id vs)) (hvs : ∀ v ∈ vs, S v) :
      Depicted c I S (.tuple cls id vs)
  /-- A list. -/
  | list {place : Nat} {vs : List Value} {k : Kind} (hk : k ∈ [.list, .derivedList])
      (hv : ∀ s, I s → s.heap.IsOrdinary k (.ref place))
      (hcontents : ∀ s, I s → s.heap.contents? (.ref place) = some (.list vs))
      (hvs : ∀ v ∈ vs, S v) : Depicted c I S (.ref place)
  /-- A set. -/
  | set {place : Nat} {ms : List (Key Value)} (hv : ∀ s, I s → s.heap.IsOrdinary .set (.ref place))
      (hcontents : ∀ s, I s → s.heap.contents? (.ref place) = some (.set ms))
      (hms : ∀ m ∈ ms, S m.value) : Depicted c I S (.ref place)
  /-- An immutable set. -/
  | frozenSet {cls : Class} {id : Nat} {ms : List (Key Value)}
      (hv : ∀ s, I s → s.heap.IsOrdinary .frozenSet (.frozenSet cls id ms))
      (hms : ∀ m ∈ ms, S m.value) : Depicted c I S (.frozenSet cls id ms)
  /-- The collection of the keys or of the entries of a mapping.  The pairs that it makes of entries
  belong to the set, too. -/
  | listing {place source : Nat} {part : Part} {ordered : Bool} {es : List Entry}
      (hpart : part ≠ .values)
      (hholds : ∀ s, I s → s.heap.HoldsListing part ordered place source es)
      (hes : ∀ e ∈ es, ∀ w, YieldsEntry part e w → S w) : Depicted c I S (.ref place)
  /-- A mapping. -/
  | dict {place : Nat} {es : List Entry} {k : Kind} (hk : k ∈ [.dict, .derivedDict, .orderedDict])
      (hholds : ∀ s, I s → s.heap.HoldsEntries k place es) (hes : ∀ e ∈ es, S e.1.value ∧ S e.2) :
      Depicted c I S (.ref place)
  /-- A read-only mapping that shows a mapping. -/
  | view {id place : Nat} {es : List Entry} {k : Kind} (hk : k ∈ [.dict, .derivedDict, .orderedDict])
      (hv : ∀ s, I s → s.heap.IsOrdinary .view (.view id (.ref place)))
      (hholds : ∀ s, I s → s.heap.HoldsEntries k place es) (hes : ∀ e ∈ es, S e.1.value ∧ S e.2) :
      Depicted c I S (.view id (.ref place))
  /-- A mapping of the caller's own making, which may fail in an ordinary way when its entries are
  read. -/
  | foreign {place : Nat} {m : Foreign} (hholds : ∀ s, I s → s.heap.HoldsForeign place m)
      (hfailure : Access.items ∈ m.failing → m.failure.isOrdinary = true)
      (hentries : Access.items ∉ m.failing → ∀ e ∈ m.entries, S e.1 ∧ S e.2) :
      Depicted c I S (.ref place)

namespace Run

variable {c : Conduct} {I : Session → Prop} {s : Session} {S : Value → Prop} {v : Value} {k : Kind}

/-! ## Values without parts -/

theorem settles_identified_of_isText (hI : Session.Lasting I) (hs : I s) (hv : v.IsText) :
    Settles c I s (identified v) fun w _ => w.Legible c I := by
  obtain ⟨id, text, rfl⟩ := hv
  refine (settles_identified hI hs _).mono fun w _ _ _ hw => ?_
  obtain ⟨id', rfl⟩ := hw.text
  exact .of_text c I id' text

/-- A primitive value is written as a text of its own, unless its form is kept for good. -/
theorem exec_write_plain (host : Host) (n : Nat) (hslot : s.heap.slot? .writing v = some (.native k))
    (hk : k ≠ .undefined) (hplain : v.isPlain = true) {cs : List Char}
    (hform : v.writePlain = .ok cs) :
    ∃ id m, exec (Ask.conduct host (n + 1)) (write v) s =
      .ok (.scalar (.kind .text) id (.text (String.ofList cs))) (s.withNext m) ∧
      s.heap.next ≤ m := by
  have hnative : exec (Ask.conduct host n) (nativeForm v) s = .ok cs s := by
    have hplainForm : nativeForm v = (heap >>= fun _ => ofExcept v.writePlain) := by
      cases v <;> first | rfl | cases hplain
    rw [hplainForm, hform]
    rfl
  have hwrite : exec (Ask.conduct host (n + 1)) (write v) s =
      exec (Ask.conduct host n) (if s.heap.hasKeptForm v then return .keptText (String.ofList cs)
        else ownText (String.ofList cs)) s := by
    change exec (Ask.conduct host n) (writeOnce v) s = _
    rw [writeOnce, exec_bind, exec_heap, Ending.andThen_ok, hslot]
    split
    next heq => cases heq
    next heq => cases heq; exact absurd rfl hk
    · rw [exec_bind, hnative, Ending.andThen_ok]
  rw [hwrite]
  cases s.heap.hasKeptForm v with
  | true => exact ⟨lasting, s.heap.next, rfl, Nat.le_refl _⟩
  | false => exact ⟨s.heap.next, s.heap.next + 1, rfl, Nat.le_succ _⟩

theorem exec_appearance_plain (hk : k ∈ Kind.plainKinds) (hv : s.heap.IsOrdinary k v)
    (hplain : v.isPlain = true) : exec c (appearance v) s = .ok .primitive s := by
  have hreading : Heap.start.classSlot? .readAttribute (.kind k) = none := by
    simp only [Kind.plainKinds, List.mem_cons, List.not_mem_nil, or_false] at hk
    rcases hk with rfl | rfl | rfl | rfl | rfl | rfl | rfl | rfl | rfl | rfl <;> rfl
  rw [exec_appearance_eq (hv.readsAttributes hreading), Heap.appearance, Heap.isPrimitive, hplain]
  rfl

theorem settles_write_plain (host : Host) (n : Nat) (hI : Session.Steadfast I) (hs : I s)
    (hk : k ∈ Kind.plainKinds) (hv : s.heap.IsOrdinary k v) (hplain : v.isPlain = true)
    {cs : List Char} (hform : v.writePlain = .ok cs) :
    Settles (Ask.conduct host (n + 1)) I s (write v) fun w _ =>
      ∃ id, w = .scalar (.kind .text) id (.text (String.ofList cs)) := by
  obtain ⟨k', hwriting, hne⟩ : ∃ k', Heap.start.classSlot? .writing (.kind k) = some (.native k') ∧
      k' ≠ .undefined := by
    simp only [Kind.plainKinds, List.mem_cons, List.not_mem_nil, or_false] at hk
    rcases hk with rfl | rfl | rfl | rfl | rfl | rfl | rfl | rfl | rfl | rfl <;>
      exact ⟨_, rfl, by decide⟩
  obtain ⟨id, m, hwrite, hle⟩ :=
    exec_write_plain host n ((hv.slot? .writing).trans hwriting) hne hplain hform
  exact .of_exec hI hs hwrite (.withNext hle) ⟨id, rfl⟩

/-- Everything primitive of a built-in class has a written form, apart from integers with too many
digits. -/
theorem writePlain_isOk (hplain : v.isPlain = true)
    (hdigits : ∀ n, v.int? = some n → n.natAbs < Nat.pow 10 maxIntDigits) :
    ∃ cs, v.writePlain = .ok cs := by
  cases v with
  | null => exact ⟨_, rfl⟩
  | bool b => exact ⟨_, rfl⟩
  | scalar cls id scalar =>
    cases scalar with
    | int n =>
      have hlt : ¬Nat.pow 10 maxIntDigits ≤ n.natAbs := Nat.not_le.mpr (hdigits n rfl)
      have hwritten : ∃ cs, writeInt? n = some cs := by
        rw [writeInt?, if_neg hlt]
        exact ⟨_, rfl⟩
      obtain ⟨cs, hcs⟩ := hwritten
      refine ⟨cs, ?_⟩
      simp only [Value.writePlain, Scalar.write?, hcs]
    | float bits => exact ⟨_, rfl⟩
    | text text => exact ⟨_, rfl⟩
    | bytes bs => exact ⟨_, rfl⟩
  | _ => cases hplain

/-- A pair of two values of a set. -/
def IsPairIn (S : Value → Prop) (pair : Value) : Prop :=
  ∃ id key value, pair = .tuple (.kind .tuple) id [key, value] ∧ S key ∧ S value

theorem forall_isPairIn {β : Type} {key value : β → Value} {bs : List β} {pairs : List Value}
    (hpairs : List.Forall₂
      (fun b pair => ∃ id, pair = Value.tuple (.kind .tuple) id [key b, value b]) bs pairs)
    (hS : ∀ b ∈ bs, S (key b) ∧ S (value b)) : ∀ pair ∈ pairs, IsPairIn S pair := by
  induction hpairs with
  | nil => exact nofun
  | cons hpair _ ih =>
    obtain ⟨hb, hbs⟩ := List.forall_mem_cons.mp hS
    obtain ⟨id, rfl⟩ := hpair
    exact List.forall_mem_cons.mpr ⟨⟨id, _, _, rfl, hb⟩, ih hbs⟩

end Run

/-! ## Reduction to what is shown

Each kind comes down to one of three cases: a value shows itself by a text, by items, or by entries.
That rendering comes to an end is then shown for these cases only. -/

namespace Value.Depicted

variable {c : Conduct} {I : Session → Prop} {S : Value → Prop} {v : Value} {k : Kind}

section Plain

variable (host : Host) (n : Nat) (hI : Session.Lasting I)
include hI

theorem exhibits_plain (hk : k ∈ Kind.plainKinds) (hv : ∀ s, I s → s.heap.IsOrdinary k v)
    (hplain : v.isPlain = true)
    (hdigits : ∀ n, v.int? = some n → n.natAbs < Nat.pow 10 maxIntDigits) :
    v.Exhibits (Ask.conduct host (n + 1)) I S := by
  obtain ⟨cs, hcs⟩ := writePlain_isOk hplain hdigits
  refine .leaf (a := .primitive) (by decide) (fun s hs => exec_appearance_plain hk (hv s hs) hplain)
    fun s hs => ?_
  refine (settles_write_plain host n hI hs hk (hv s hs) hplain hcs).mono fun w _ _ _ hw => ?_
  obtain ⟨id, rfl⟩ := hw
  exact .of_text _ I id _

omit hI in
theorem exhibits_undefined (hv : ∀ s, I s → s.heap.IsOrdinary .undefined .undefined) :
    Value.undefined.Exhibits (Ask.conduct host (n + 1)) I S := by
  refine .leaf (a := .primitive) (by decide) (fun s hs => ?_) fun s hs => ?_
  · rw [exec_appearance_eq ((hv s hs).readsAttributes rfl), Heap.appearance, Heap.isPrimitive,
      (hv s hs).isOfKind]
    rfl
  · have hwrite : exec (Ask.conduct host (n + 1)) (write .undefined) s =
        .ok (.keptText undefinedText) s := by
      change exec (Ask.conduct host n) (writeOnce .undefined) s = _
      rw [writeOnce, exec_bind, exec_heap, Ending.andThen_ok, (hv s hs).slot?]
      rfl
    exact .of_exec_self hs hwrite (.of_text _ I _ _)

end Plain

/-! ### Names -/

section Names

variable (hI : Session.Lasting I)
include hI

theorem exhibits_cls {cls : Class} (hkind : ∀ s, I s →
      s.heap.readsAttributes (.ofClass cls) = false ∧ s.heap.appearance (.ofClass cls) = .cls)
    (hname : ∀ s, I s → (s.heap.classNameValue cls).IsText) : (Value.ofClass cls).Exhibits c I S := by
  refine .leaf (a := .cls) (by decide) (fun s hs => ?_) fun s hs => ?_
  · rw [exec_appearance_eq (hkind s hs).1, (hkind s hs).2]
  · exact .after (exec_heap c s) (settles_identified_of_isText hI hs (hname s hs))

omit hI in
theorem exhibits_callable (happearance : ∀ s, I s → exec c (appearance v) s = .ok .callable s)
    (hname : ∀ s, I s → Settles c I s (displayName v) fun w _ => w.IsText) : v.Exhibits c I S := by
  refine .leaf (a := .callable) (by decide) happearance fun s hs => ?_
  refine (hname s hs).mono fun w _ _ _ hw => ?_
  obtain ⟨id, text, rfl⟩ := hw
  exact .of_text c I id text

theorem exhibits_object (hkind : ∀ s, I s →
      s.heap.readsAttributes v = false ∧ s.heap.appearance v = .other)
    (hname : ∀ s, I s → (s.heap.typeNameValue v).IsText) : v.Exhibits c I S := by
  refine .leaf (a := .other) (by decide) (fun s hs => ?_) fun s hs => ?_
  · rw [exec_appearance_eq (hkind s hs).1, (hkind s hs).2]
  · exact .after (exec_heap c s) (settles_identified_of_isText hI hs (hname s hs))

end Names

/-! ### Containers -/

/-- A container of a built-in class shows what is yielded one after the other. -/
theorem exhibits_yielded {shape : Container} (hv : v.IsContainerOf I k shape)
    (hshape : shape ≠ .mapping) {vs : List Value} {cur : Cursor}
    (hcur : ∀ s, I s → exec c (cursor v) s = .ok cur s)
    (hiterates : Run.Iterates c I (fun _ w => S w) vs cur)
    (hroom : HasRoom I vs.length cur) : v.Exhibits c I S :=
  .items hshape (fun _ hs => (hv.exec_appearance hs).1) (fun _ hs => (hv.exec_appearance hs).2)
    (fun _ hs => ⟨_, exec_isOfKind c (hv.readsAttributes hs) .tuple⟩)
    (fun _ hs => (hv.settles_shownClass hs).mono fun _ _ _ _ _ => trivial)
    fun s hs => ⟨vs, cur, hcur s hs, hiterates, hroom⟩

/-- It shows its items, if it goes through them. -/
theorem exhibits_items {shape : Container} (hv : v.IsContainerOf I k shape)
    (hshape : shape ≠ .mapping) {vs : List Value} (hvs : v.GoesThrough c I vs) (hS : ∀ w ∈ vs, S w) :
    v.Exhibits c I S := by
  obtain ⟨cur, hcur, hiterates, hroom⟩ := hvs
  exact exhibits_yielded hv hshape hcur (hiterates.mono fun w hw w' heq => heq ▸ hS w hw) hroom

section Items

variable (hid : ∀ v, S v → v.isIdentified = true)
include hid

theorem exhibits_tuple {cls : Class} {id : Nat} {vs : List Value} (hk : k ∈ [.tuple, .derivedTuple])
    (hv : ∀ s, I s → s.heap.IsOrdinary k (.tuple cls id vs)) (hvs : ∀ v ∈ vs, S v) :
    (Value.tuple cls id vs).Exhibits c I S :=
  exhibits_items (.tuple hk hv) (show Container.tuple ≠ .mapping by decide)
    (goesThrough_tuple hk hv fun v h => hid v (hvs v h)) hvs

theorem exhibits_list {place : Nat} {vs : List Value} (hk : k ∈ [.list, .derivedList])
    (hv : ∀ s, I s → s.heap.IsOrdinary k (.ref place))
    (hcontents : ∀ s, I s → s.heap.contents? (.ref place) = some (.list vs)) (hvs : ∀ v ∈ vs, S v) :
    (Value.ref place).Exhibits c I S :=
  exhibits_items (.list hk hv hcontents) (show Container.list ≠ .mapping by decide)
    (goesThrough_list hk hv hcontents fun v h => hid v (hvs v h)) hvs

theorem exhibits_set {place : Nat} {ms : List (Key Value)}
    (hv : ∀ s, I s → s.heap.IsOrdinary .set (.ref place))
    (hcontents : ∀ s, I s → s.heap.contents? (.ref place) = some (.set ms))
    (hms : ∀ m ∈ ms, S m.value) : (Value.ref place).Exhibits c I S :=
  exhibits_items (.set (by decide) hv rfl rfl) (show Container.set ≠ .mapping by decide)
    (goesThrough_set hv hcontents fun m h => hid _ (hms m h)) (List.forall_mem_map.mpr hms)

theorem exhibits_frozenSet {cls : Class} {id : Nat} {ms : List (Key Value)}
    (hv : ∀ s, I s → s.heap.IsOrdinary .frozenSet (.frozenSet cls id ms))
    (hms : ∀ m ∈ ms, S m.value) : (Value.frozenSet cls id ms).Exhibits c I S :=
  exhibits_items (.set (by decide) hv rfl rfl) (show Container.set ≠ .mapping by decide)
    (goesThrough_frozenSet hv fun m h => hid _ (hms m h)) (List.forall_mem_map.mpr hms)

/-- The collection of the keys of a mapping shows them, and that of the entries shows new pairs. -/
theorem exhibits_listing (hI : Session.Lasting I) {place source : Nat} {part : Part} {ordered : Bool}
    {es : List Entry} (hpart : part ≠ .values)
    (hholds : ∀ s, I s → s.heap.HoldsListing part ordered place source es)
    (hes : ∀ e ∈ es, ∀ w, YieldsEntry part e w → S w) : (Value.ref place).Exhibits c I S := by
  have hentries : ∀ s, I s → s.heap.entries? (.ref source) = some es := fun s hs => by
    rw [Heap.entries?, (hholds s hs).entries]
  have hidentified : ∀ e ∈ es, IsYieldedAsIs part e := by
    intro e he
    cases part with
    | keys => exact hid _ (hes e he _ rfl)
    | values => exact absurd rfl hpart
    | items => trivial
  have hiterates : Run.Iterates c I (fun _ w => S w) (es.map (·.2)) _ :=
    iterates_map.mpr ((iterates_parts hI part ordered hentries hidentified).mono hes)
  refine exhibits_yielded (.listing hpart fun s hs => (hholds s hs).ordinary)
    (show Container.set ≠ .mapping by decide) (fun s hs => exec_cursor_listing (hholds s hs)) hiterates ?_
  rw [List.length_map]
  exact hasRoom_parts part ordered 0 fun s hs => (hholds s hs).entries

/-- A mapping shows its entries, or the name of its class. -/
theorem exhibits_mapping (hI : Session.Lasting I) (hv : v.IsContainerOf I k .mapping)
    (hread : ∀ s, I s → Settles c I s (guarded (readParts .items v)) fun pairs? _ =>
      ∀ pairs, pairs? = some pairs → ∀ pair ∈ pairs, IsPairIn S pair) : v.Exhibits c I S := by
  refine .entries (fun s hs => (hv.exec_appearance hs).1) (fun s hs => (hv.exec_appearance hs).2)
    (fun s hs => ?_) fun s hs => ?_
  · refine (hv.settles_typeNameValue hI hs).mono fun w _ _ _ hw => ?_
    obtain ⟨id, rfl⟩ := hw
    exact .of_text c I id _
  · refine (hread s hs).mono fun pairs? _ _ _ hpairs pairs hsome pair hpair s' hs' => ?_
    obtain ⟨id, key, value, rfl, hkey, hvalue⟩ := hpairs pairs hsome pair hpair
    exact .of_exec_self hs' (a := (key, value)) (exec_unpackTwo c (hI.sound hs').intact id
      (hid key hkey) (hid value hvalue)) ⟨hkey, hvalue⟩

/-- A mapping that can be read shows its entries. -/
theorem exhibits_readable (hI : Session.Lasting I) (hv : v.IsContainerOf I k .mapping) {β : Type}
    {key value : β → Value} {bs : List β}
    (hread : ∀ s, I s → Settles c I s (readParts .items v) fun pairs _ =>
      List.Forall₂ (fun b pair => ∃ id, pair = Value.tuple (.kind .tuple) id [key b, value b]) bs pairs)
    (hbs : ∀ b ∈ bs, S (key b) ∧ S (value b)) : v.Exhibits c I S := by
  refine exhibits_mapping hid hI hv fun s hs => ?_
  refine (settles_recovering (hread s hs) _).mono fun pairs? _ _ _ hpairs pairs hsome => ?_
  obtain ⟨pairs', rfl, hpairs⟩ := hpairs
  cases hsome
  exact forall_isPairIn hpairs hbs

theorem exhibits_dict (hI : Session.Lasting I) {place : Nat} {es : List Entry}
    (hk : k ∈ [.dict, .derivedDict, .orderedDict])
    (hholds : ∀ s, I s → s.heap.HoldsEntries k place es) (hes : ∀ e ∈ es, S e.1.value ∧ S e.2) :
    (Value.ref place).Exhibits c I S :=
  exhibits_readable hid hI (.dict hk hholds)
    (fun _ hs => settles_readParts_entries hI hk hholds (.inl rfl) hs) hes

theorem exhibits_view (hI : Session.Lasting I) {id place : Nat} {es : List Entry}
    (hk : k ∈ [.dict, .derivedDict, .orderedDict])
    (hv : ∀ s, I s → s.heap.IsOrdinary .view (.view id (.ref place)))
    (hholds : ∀ s, I s → s.heap.HoldsEntries k place es) (hes : ∀ e ∈ es, S e.1.value ∧ S e.2) :
    (Value.view id (.ref place)).Exhibits c I S :=
  exhibits_readable hid hI (.view hv)
    (fun _ hs => settles_readParts_entries hI hk hholds (.inr ⟨id, rfl⟩) hs) hes

/-- A foreign mapping that refuses to be read is shown by the name of its class. -/
theorem exhibits_foreign (hI : Session.Lasting I) {place : Nat} {m : Foreign}
    (hholds : ∀ s, I s → s.heap.HoldsForeign place m)
    (hfailure : Access.items ∈ m.failing → m.failure.isOrdinary = true)
    (hentries : Access.items ∉ m.failing → ∀ e ∈ m.entries, S e.1 ∧ S e.2) :
    (Value.ref place).Exhibits c I S := by
  by_cases hfails : Access.items ∈ m.failing
  · refine exhibits_mapping hid hI (.foreign hholds) fun s hs => ?_
    exact .of_exec_self hs (exec_guarded_refused (hholds s hs) hfails (hfailure hfails)) nofun
  · exact exhibits_readable hid hI (.foreign hholds)
      (fun s hs => settles_readParts_foreign hI (hholds s hs) hfails (fun _ _ => trivial) hs) (hentries hfails)

end Items

/-- **What is depicted can be rendered**: it shows itself by a text, by its items or by its
entries. -/
theorem exhibits (host : Host) (n : Nat) (hI : Session.Lasting I)
    (hid : ∀ v, S v → v.isIdentified = true) (hv : v.Depicted (Ask.conduct host (n + 1)) I S) :
    v.Exhibits (Ask.conduct host (n + 1)) I S := by
  cases hv with
  | plain hk hv hplain hdigits => exact exhibits_plain host n hI hk hv hplain hdigits
  | undefined hv => exact exhibits_undefined host n hv
  | cls hkind hname => exact exhibits_cls hI hkind hname
  | callable happearance hname => exact exhibits_callable happearance hname
  | object hkind hname => exact exhibits_object hI hkind hname
  | tuple hk hv hvs => exact exhibits_tuple hid hk hv hvs
  | list hk hv hcontents hvs => exact exhibits_list hid hk hv hcontents hvs
  | set hv hcontents hms => exact exhibits_set hid hv hcontents hms
  | frozenSet hv hms => exact exhibits_frozenSet hid hv hms
  | listing hpart hholds hes => exact exhibits_listing hid hI hpart hholds hes
  | dict hk hholds hes => exact exhibits_dict hid hI hk hholds hes
  | view hk hv hholds hes => exact exhibits_view hid hI hk hv hholds hes
  | foreign hholds hfailure hentries => exact exhibits_foreign hid hI hholds hfailure hentries

/-! ### What tells its name -/

/-- A predicate that is named by a text of the built-in class. -/
theorem predicate (hI : Session.Lasting I) (id : Nat) {name : Name} (hname : name.cls = .kind .text)
    (facets : Facets) (decider : Value) :
    (Value.predicate id name facets decider).Depicted c I S := by
  refine .callable (fun s hs => exec_appearance (hI.sound hs).intact (.inl rfl)) fun s hs => ?_
  rw [Settles, exec_displayName c (hI.sound hs).intact]
  refine (settles_identified hI hs (.ofName name)).mono fun w _ _ _ hw => ?_
  rw [Value.ofName, hname] at hw
  obtain ⟨id', rfl⟩ := hw.text
  exact ⟨id', _, rfl⟩

/-- A function that has its name. -/
theorem function (hI : Session.Lasting I) (hv : v.coreKind? = some .function) {text : String}
    (hlt : text.length < maxIndex) (hname : ∀ s, I s → ∃ id,
      s.heap.nameAttribute v = some (.scalar (.kind .text) id (.text text))) :
    v.Depicted c I S := by
  refine .callable (fun s hs => exec_appearance (hI.sound hs).intact (.inr hv)) fun s hs => ?_
  obtain ⟨id, hname⟩ := hname s hs
  refine (settles_displayName_function hI hs hv hname hlt).mono fun w _ _ _ hw => ?_
  obtain ⟨id', rfl⟩ := hw
  exact ⟨id', _, rfl⟩

end Value.Depicted

end ValueShape
