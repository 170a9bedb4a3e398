import ValueShape.Proofs.Ask.Inquiry
import ValueShape.Proofs.Ask.Padding
import ValueShape.Proofs.Ask.Verdict
import ValueShape.Proofs.Conduct.Container

/-!
# Verdicts on sequences

What checks about lists and tuples say, where each callable always gives the same verdict on an element,
whatever was asked before.

* `Check.headVerdict`, `Check.tupleVerdict` are these verdicts, as functions of the elements, and
  `Check.tupleVerdict_append` splits a head into two.
* `Value.TellsElement` says that a callable always gives the same verdict on an element and changes no
  cell, and `Value.TellsRest` that it does so on every sequence of certain elements, which is a tuple or
  not.
* `Value.IsReadAs` are the elements of a list or a tuple; everything else has none.
* `Value.IsReadAs.decides_array` and `Value.IsReadAs.decides_tuple` say that the checks of products give
  their verdicts, and `Value.TellsRest.decides_dropFirst` is about what remains of a sequence, which is
  a new list or a tuple.
-/

set_option autoImplicit false

namespace ValueShape

open Run

/-- Two verdicts that are always given, one after the other. -/
theorem Run.Decides.and {c : Conduct} {J : Session → Prop} {m k : Run Bool} {b d : Bool}
    (hm : Decides c J m (some b)) (hk : b = true → Decides c J k (some d)) :
    Decides c J (do if ← m then k else return false) (some (b && d)) := by
  have hsome : some b = some true → Decides c J k (some d) := fun hb => hk (Option.some.inj hb)
  have h := hm.andThen hsome
  cases b <;> exact h

/-! ## Verdicts as functions of the elements

There are no sessions here: the laws of the combinators are first shown of these functions on
lists. -/

namespace Check

variable (verdict : Value → Value → Bool) (restVerdict : Value → List Value → Bool)

/-- The verdict on elements position by position, as far as both go. -/
def headVerdict (head items : List Value) : Bool := (List.zipWith verdict head items).all id

/-- The verdict on a sequence with the given elements. -/
def tupleVerdict (head : List Value) (rest : Option Value) (items : List Value) : Bool :=
  if items.length < head.length || (rest.isNone && head.length < items.length) then false
  else headVerdict verdict head items && rest.all fun r => restVerdict r (items.drop head.length)

theorem headVerdict_cons (p v : Value) (ps vs : List Value) :
    headVerdict verdict (p :: ps) (v :: vs) = (verdict p v && headVerdict verdict ps vs) := by
  simp [headVerdict]

/-- A head goes on where its first part ends. -/
theorem headVerdict_append (ps qs items : List Value) :
    headVerdict verdict (ps ++ qs) items =
      (headVerdict verdict ps items && headVerdict verdict qs (items.drop ps.length)) := by
  induction ps generalizing items with
  | nil => rw [List.nil_append, List.length_nil, List.drop_zero]; rfl
  | cons p ps ih =>
    rcases items with _ | ⟨v, vs⟩
    · simp [headVerdict]
    · rw [List.cons_append, headVerdict_cons, headVerdict_cons, ih, List.length_cons, List.drop_succ_cons,
        Bool.and_assoc]

/-- One callable for all positions of a head. -/
theorem headVerdict_replicate (p : Value) (n : Nat) (items : List Value) :
    headVerdict verdict (List.replicate n p) items = (items.take n).all (verdict p) := by
  induction n generalizing items with
  | zero => rfl
  | succ n ih =>
    rcases items with _ | ⟨v, vs⟩
    · rfl
    · rw [List.replicate_succ, headVerdict_cons, ih, List.take_succ_cons, List.all_cons]

/-- **A tuple splits at any point**: the second part of the head may be left to a callable for what
remains. -/
theorem tupleVerdict_append (ps qs : List Value) (rest : Option Value) (t : Value) (items : List Value) :
    tupleVerdict verdict restVerdict (ps ++ qs) rest items =
      tupleVerdict verdict (fun _ => tupleVerdict verdict restVerdict qs rest) ps (some t) items := by
  rw [tupleVerdict, tupleVerdict, Option.all_some, tupleVerdict, headVerdict_append, List.length_append,
    List.length_drop]
  by_cases hlt : items.length < ps.length
  · have hlt' : items.length < ps.length + qs.length := by omega
    simp only [hlt, hlt', decide_true, Bool.true_or, if_true]
  · have hshort : decide (items.length < ps.length + qs.length) =
        decide (items.length - ps.length < qs.length) := decide_eq_decide.mpr (by omega)
    have hlong : decide (ps.length + qs.length < items.length) =
        decide (qs.length < items.length - ps.length) := decide_eq_decide.mpr (by omega)
    rw [hshort, hlong]
    simp only [hlt, decide_false, Option.isNone_some, Bool.false_and, Bool.or_self, Bool.false_eq_true,
      if_false, List.drop_drop]
    split
    · rw [Bool.and_false]
    · rw [Bool.and_assoc]

/-- A head of one callable, before a rest that asks the same callable about every element. -/
theorem tupleVerdict_replicate (p t : Value) {n : Nat} {items : List Value} (hn : n ≤ items.length) :
    tupleVerdict verdict (fun _ rest => rest.all (verdict p)) (List.replicate n p) (some t) items =
      items.all (verdict p) := by
  rw [tupleVerdict, headVerdict_replicate, List.length_replicate, Option.all_some, ← List.all_append,
    List.take_append_drop]
  simp [Nat.not_lt.mpr hn]

theorem tupleVerdict_replicate_none (p : Value) (n : Nat) (items : List Value) :
    tupleVerdict verdict restVerdict (List.replicate n p) none items =
      (decide (items.length = n) && items.all (verdict p)) := by
  rw [tupleVerdict, headVerdict_replicate, List.length_replicate]
  rcases Nat.lt_trichotomy items.length n with hlt | rfl | hlt
  · simp [hlt, Nat.ne_of_lt hlt]
  · simp
  · simp [hlt, Nat.ne_of_gt hlt]

end Check

/-! ## Callables that always say the same

A callable may be asked about one element more than once, or in another order.  So its answers must
not depend on what was asked before. -/

section Callables

variable (host : Host) (c : Conduct) (I : Session → Prop)

/-- A callable always gives the same verdict on an element, whatever identity that has, and changes no
cell. -/
def Value.TellsElement (f v : Value) (b : Bool) : Prop :=
  ∀ cells w, w.Shows v → Decides c (Session.Holding I cells) ((Ask.asked host f).accepts w) (some b)

/-- A callable always gives the same verdict on the sequences of certain elements, which are tuples or
lists, and changes no cell. -/
def Value.TellsRest (f : Value) (isTuple : Bool) (items : List Value) (b : Bool) : Prop :=
  ∀ cells w, w.isTuple = isTuple → w.IsArrayOf (Session.Holding I cells) items →
    Decides c (Session.Holding I cells) ((Ask.asked host f).accepts w) (some b)

/-- Callables always give the same verdicts on some elements. -/
def Ask.TellElements (items : List Value) (verdict : Value → Value → Bool) (fs : List Value) : Prop :=
  ∀ f ∈ fs, ∀ v ∈ items, f.TellsElement host c I v (verdict f v)

/-- A rest, if there is one, always gives the same verdicts on what remains of some elements. -/
def Ask.TellsTails (isTuple : Bool) (items : List Value) (restVerdict : Value → List Value → Bool)
    (rest : Option Value) : Prop :=
  ∀ r ∈ rest, ∀ n, r.TellsRest host c I isTuple (items.drop n) (restVerdict r (items.drop n))

end Callables

variable {host : Host} {c : Conduct} {I : Session → Prop} {f v x : Value} {items : List Value} {b : Bool}

theorem Value.TellsElement.decides (h : f.TellsElement host c I v b) {w : Value} (hw : w.Shows v) :
    Decides c I ((Ask.asked host f).accepts w) (some b) :=
  Session.holding_nil I ▸ h [] w hw

theorem Value.TellsElement.holding (h : f.TellsElement host c I v b) (cells : List (Nat × Cell)) :
    f.TellsElement host c (Session.Holding I cells) v b := fun more w hw =>
  Session.Holding.holding I cells more ▸ h (more ++ cells) w hw

theorem Value.TellsRest.holding {isTuple : Bool} (h : f.TellsRest host c I isTuple items b)
    (cells : List (Nat × Cell)) : f.TellsRest host c (Session.Holding I cells) isTuple items b := by
  intro more w htuple hw
  rw [Session.Holding.holding] at hw ⊢
  exact h (more ++ cells) w htuple hw

/-! ## Elements -/

namespace Value.IsPlainArray

variable (c) {s : Session}

theorem exec_isArray (h : x.IsPlainArray s.heap items) : exec c (Check.isArray x) s = .ok true s := by
  rw [Run.exec_isArray c h.attributes, Heap.isArray, h.length.sequence?]
  rfl

theorem exec_size (h : x.IsPlainArray s.heap items) : exec c (size x) s = .ok items.length s :=
  Run.exec_size c h.length h.lt_maxIndex

theorem exec_cursor (h : x.IsPlainArray s.heap items) :
    exec c (cursor x) s = .ok (arrayCursorFrom items 0 x) s := by
  have hcursor : arrayCursor items x = arrayCursorFrom items 0 x := by cases x <;> rfl
  rw [Run.exec_cursor c h.iteration, hcursor]

/-- There is room for more elements than there are. -/
theorem exec_limit (h : x.IsPlainArray s.heap items) :
    ∃ fuel, items.length < fuel ∧ exec c (limit (arrayCursorFrom items 0 x)) s = .ok fuel s := by
  have hremaining : (arrayCursorFrom items 0 x).remaining s.heap = items.length := by
    have hcount := h.iteration.count
    cases h.iteration with
    | tuple => rfl
    | list => exact hcount
  refine ⟨items.length + maxListLength, Nat.lt_add_of_pos_right (by decide), ?_⟩
  rw [Run.exec_limit, hremaining]

end Value.IsPlainArray

section Elements

variable (hI : Session.Lasting I) (hx : ∀ s, I s → x.IsPlainArray s.heap items)
include hI hx

/-- The next element, if there is one. -/
theorem exec_next_plain {s : Session} (hs : I s) {i : Nat} (hi : items[i]? = some v) :
    ∃ w s', exec c (next (arrayCursorFrom items i x)) s =
      .ok (some (w, arrayCursorFrom items (i + 1) x)) s' ∧ I s' ∧ w.Shows v := by
  obtain ⟨w, n, hn, hw, hshows⟩ := (hx s hs).exec_next c hi
  exact ⟨w, _, hw, hI.notes hs (.withNext hn), hshows⟩

theorem exec_next_plain_none {s : Session} (hs : I s) {i : Nat} (hi : items[i]? = none) :
    ∃ s', exec c (next (arrayCursorFrom items i x)) s = .ok none s' ∧ I s' := by
  have hdrop : items.drop i = [] := List.drop_eq_nil_of_le (List.getElem?_eq_none_iff.mp hi)
  cases (hx s hs).iteration with
  | tuple => exact ⟨s, by rw [arrayCursorFrom, hdrop]; rfl, hs⟩
  | list contents =>
    obtain ⟨r, n, hn, hr, hmatch⟩ := exec_next_elements c s _ i
    rw [(hx s hs).iteration.contained?, Option.getD_some, hi] at hmatch
    subst hmatch
    exact ⟨_, hr, hI.notes hs (.withNext hn)⟩

/-- The verdict on the elements of an iteration, position by position. -/
theorem Check.decides_runHead {verdict : Value → Value → Bool} {fs : List Value}
    (hfs : Ask.TellElements host c I items verdict fs) (i : Nat) :
    Decides c I (runHead (fs.map fun f => (Ask.asked host f).yielded) (arrayCursorFrom items i x))
      (some (headVerdict verdict fs (items.drop i))) := by
  induction fs generalizing i with
  | nil => exact .pure true
  | cons f fs ih =>
    obtain ⟨hf, hfs⟩ := List.forall_mem_cons.mp hfs
    refine .verdict fun s hs => ?_
    rw [List.map_cons, runHead]
    rcases hi : items[i]? with _ | v
    · obtain ⟨s₁, hnext, hs₁⟩ := exec_next_plain_none (c := c) hI hx hs hi
      have hdrop : items.drop i = [] := List.drop_eq_nil_of_le (List.getElem?_eq_none_iff.mp hi)
      exact ⟨s₁, by rw [exec_bind, hnext, hdrop]; rfl, hs₁⟩
    · obtain ⟨w, s₁, hnext, hs₁, hshows⟩ := exec_next_plain (c := c) hI hx hs hi
      have hdrop : items.drop i = v :: items.drop (i + 1) := by
        obtain ⟨hlt, rfl⟩ := List.getElem?_eq_some_iff.mp hi
        exact List.drop_eq_getElem_cons hlt
      have hask := ((hf v (List.mem_of_getElem? hi)).decides hshows).yielded.and fun _ => ih hfs (i + 1)
      obtain ⟨s₂, hask, hs₂⟩ := hask.exec_eq hs₁
      exact ⟨s₂, by rw [exec_bind, hnext, Ending.andThen_ok, hdrop, headVerdict_cons]; exact hask, hs₂⟩

/-- The verdict on all elements of an iteration. -/
theorem decides_allUpTo {verdict : Value → Bool}
    (hf : ∀ v ∈ items, f.TellsElement host c I v (verdict v)) {fuel i : Nat}
    (hfuel : items.length - i < fuel) :
    Decides c I (allUpTo (Ask.asked host f).yielded.accepts fuel (arrayCursorFrom items i x))
      (some ((items.drop i).all verdict)) := by
  induction fuel generalizing i with
  | zero => exact absurd hfuel (Nat.not_lt_zero _)
  | succ fuel ih =>
    refine .verdict fun s hs => ?_
    rw [allUpTo]
    rcases hi : items[i]? with _ | v
    · obtain ⟨s₁, hnext, hs₁⟩ := exec_next_plain_none (c := c) hI hx hs hi
      have hdrop : items.drop i = [] := List.drop_eq_nil_of_le (List.getElem?_eq_none_iff.mp hi)
      exact ⟨s₁, by rw [exec_bind, hnext, hdrop]; rfl, hs₁⟩
    · obtain ⟨w, s₁, hnext, hs₁, hshows⟩ := exec_next_plain (c := c) hI hx hs hi
      obtain ⟨hlt, hv⟩ := List.getElem?_eq_some_iff.mp hi
      have hdrop : items.drop i = v :: items.drop (i + 1) := hv ▸ List.drop_eq_getElem_cons hlt
      have hask := ((hf v (List.mem_of_getElem? hi)).decides hshows).yielded.and fun _ =>
        ih (i := i + 1) (by omega)
      obtain ⟨s₂, hask, hs₂⟩ := hask.exec_eq hs₁
      exact ⟨s₂, by rw [exec_bind, hnext, Ending.andThen_ok, hdrop, List.all_cons]; exact hask, hs₂⟩

/-- **The verdict on a sequence whose elements are all asked about.** -/
theorem Check.decides_array {verdict : Value → Bool}
    (hf : ∀ v ∈ items, f.TellsElement host c I v (verdict v)) :
    Decides c I (((Check.array f).map (Ask.asked host)).run x) (some (items.all verdict)) := by
  refine .verdict fun s hs => ?_
  obtain ⟨fuel, hfuel, hlimit⟩ := (hx s hs).exec_limit c
  have hall := decides_allUpTo hI hx hf (i := 0) (Nat.lt_of_le_of_lt (Nat.sub_le _ _) hfuel)
  obtain ⟨s', hall, hs'⟩ := hall.exec_eq hs
  rw [List.drop_zero] at hall
  refine ⟨s', ?_, hs'⟩
  have hfrom : exec c (do allFrom (Ask.asked host f).yielded.accepts (← cursor x)) s =
      .ok (items.all verdict) s' := by
    rw [exec_bind, (hx s hs).exec_cursor c, Ending.andThen_ok, allFrom, exec_bind, hlimit, Ending.andThen_ok,
      hall]
  rw [Check.map, run, yielding, consult.eq_def, exec_bind, (hx s hs).exec_isArray c, Ending.andThen_ok]
  exact hfrom

/-- **The verdict on a sequence that is asked about position by position.**  What remains is given to the
rest, if there is one. -/
theorem Check.decides_tuple {verdict : Value → Value → Bool} {restVerdict : Value → List Value → Bool}
    {head : List Value} {rest : Option Value} (hhead : Ask.TellElements host c I items verdict head)
    (hrest : ∀ r ∈ rest, Decides c I (do (Ask.asked host r).accepts (← dropFirst x head.length))
      (some (restVerdict r (items.drop head.length)))) :
    Decides c I (((Check.tuple head rest).map (Ask.asked host)).run x)
      (some (tupleVerdict verdict restVerdict head rest items)) := by
  have hparts : Decides c I (do
      if ← runHead (head.map fun f => (Ask.asked host f).yielded) (arrayCursorFrom items 0 x) then
        runRest (rest.map (Ask.asked host)) x head.length
      else return false)
      (some (headVerdict verdict head items && rest.all fun r => restVerdict r (items.drop head.length))) := by
    refine (Check.decides_runHead hI hx hhead 0).and fun _ => ?_
    rcases rest with _ | r
    · exact .pure true
    · exact hrest r rfl
  refine .verdict fun s hs => ?_
  obtain ⟨s', hparts, hs'⟩ := hparts.exec_eq hs
  rw [Check.map, run, yielding, List.map_map, consult.eq_def]
  simp only [exec_bind, (hx s hs).exec_isArray c, (hx s hs).exec_size c, Ending.andThen_ok, Bool.not_true,
    Bool.false_eq_true, if_false, List.length_map, Option.isNone_map, tupleVerdict]
  split
  · exact ⟨s, rfl, hs⟩
  · refine ⟨s', ?_, hs'⟩
    rw [exec_bind, (hx s hs).exec_cursor c, Ending.andThen_ok]
    exact hparts

end Elements

/-! ## What remains -/

/-- A list or a tuple of the built-in class is read in the built-in way. -/
theorem Value.IsArrayOf.isPlainArray (hI : Session.Spacious I) (h : x.IsArrayOf I items)
    (hlt : items.length < maxIndex) {s : Session} (hs : I s) : x.IsPlainArray s.heap items := by
  obtain ⟨k, hk, -, hordinary⟩ := h.isOrdinary hI
  exact ⟨((hordinary s hs).readsAttributes_of_mem (List.mem_append_right _ hk)).1,
    h.readsPlainly hI hs (by simp), h.readsPlainly hI hs (by simp), h.readsPlainly hI hs (by simp), hlt⟩

/-- The verdict on what remains of a sequence. -/
theorem Value.TellsRest.decides_dropFirst (hI : Session.Spacious I)
    (hx : ∀ s, I s → x.IsPlainArray s.heap items) {n : Nat}
    (hf : f.TellsRest host c I x.isTuple (items.drop n) b) :
    Decides c I (do (Ask.asked host f).accepts (← dropFirst x n)) (some b) := by
  refine .verdict fun s hs => ?_
  obtain ⟨w, s₁, cells, hdrop, hs₁, htuple, hw⟩ := (hx s hs).item.exec_dropFirst (c := c) hI hs n
  obtain ⟨s₂, hask, hs₂⟩ := (hf cells w htuple hw).exec_eq hs₁
  exact ⟨s₂, by rw [exec_bind, hdrop, Ending.andThen_ok, hask], hs₂.1⟩

/-! ## Products -/

/-- A predicate that is decided by a check gives the verdict of that. -/
theorem Ask.accepts_check (host : Host) (id id' : Nat) (title : Name) (facets : Facets)
    (check : Check Value Value) (x : Value) :
    (asked host (.predicate id title facets (.rule id' check))).accepts x =
      (check.map (asked host)).run x := by
  rw [accepts_predicate, accepts_rule]
  exact Check.dialogue_run (asked host) check x

/-- What products about sequences read: a list or a tuple with certain elements that is read in the
built-in way, or something that is neither of them and has no elements. -/
inductive Value.IsReadAs (c : Conduct) (I : Session → Prop) (x : Value) : Bool → List Value → Prop
  /-- A list or a tuple. -/
  | array {items : List Value} (h : ∀ s, I s → x.IsPlainArray s.heap items) : IsReadAs c I x true items
  /-- Something else. -/
  | other (h : Decides c I (Check.isArray x) (some false)) : IsReadAs c I x false []

theorem Value.IsReadAs.lt_maxIndex {isArray : Bool} (h : x.IsReadAs c I isArray items) {s : Session}
    (hs : I s) : items.length < maxIndex := by
  cases h with
  | array h => exact (h s hs).lt_maxIndex
  | other => decide

/-- Checks about sequences refuse everything else. -/
theorem Check.decides_other {check : Check Value Value}
    (hcheck : (∃ head rest, check = .tuple head rest) ∨ ∃ p, check = .array p)
    (hx : Decides c I (isArray x) (some false)) :
    Decides c I ((check.map (Ask.asked host)).run x) (some false) := by
  refine .verdict fun s hs => ?_
  obtain ⟨s', harray, hs'⟩ := hx.exec_eq hs
  refine ⟨s', ?_, hs'⟩
  rcases hcheck with ⟨head, rest, rfl⟩ | ⟨p, rfl⟩ <;>
  · rw [Check.map, run, yielding, consult.eq_def, exec_bind, harray]
    rfl

section Products

variable {isArray : Bool} {verdict : Value → Value → Bool} {restVerdict : Value → List Value → Bool}
  {head : List Value} {rest : Option Value} (hI : Session.Spacious I)
include hI

/-- **The verdict of a product on a sequence**, position by position and on what remains. -/
theorem Value.IsReadAs.decides_tuple (hx : x.IsReadAs c I isArray items)
    (hhead : Ask.TellElements host c I items verdict head)
    (hrest : Ask.TellsTails host c I x.isTuple items restVerdict rest) :
    Decides c I (((Check.tuple head rest).map (Ask.asked host)).run x)
      (some (isArray && Check.tupleVerdict verdict restVerdict head rest items)) := by
  cases hx with
  | array hx =>
    exact Check.decides_tuple hI.toLasting hx hhead fun r hr => (hrest r hr _).decides_dropFirst hI hx
  | other hx => exact Check.decides_other (.inl ⟨head, rest, rfl⟩) hx

/-- **The verdict of a product on all elements of a sequence.** -/
theorem Value.IsReadAs.decides_array (hx : x.IsReadAs c I isArray items) {verdict : Value → Bool}
    (hf : ∀ v ∈ items, f.TellsElement host c I v (verdict v)) :
    Decides c I (((Check.array f).map (Ask.asked host)).run x) (some (isArray && items.all verdict)) := by
  cases hx with
  | array hx => exact Check.decides_array hI.toLasting hx hf
  | other hx => exact Check.decides_other (.inr ⟨f, rfl⟩) hx

/-- What remains of a sequence is read as such. -/
theorem Value.IsArrayOf.isReadAs {w : Value} (hw : w.IsArrayOf I items) (hlt : items.length < maxIndex) :
    w.IsReadAs c I true items :=
  .array fun _ hs => hw.isPlainArray hI hlt hs

/-- A product about a tuple tells what remains of a sequence. -/
theorem Value.tellsRest_tuple {isTuple : Bool} (hlt : items.length < maxIndex)
    (hhead : Ask.TellElements host c I items verdict head)
    (hrest : Ask.TellsTails host c I isTuple items restVerdict rest)
    (id id' : Nat) (title : Name) (facets : Facets) :
    (Value.predicate id title facets (.rule id' (.tuple head rest))).TellsRest host c I isTuple items
      (Check.tupleVerdict verdict restVerdict head rest items) := by
  rintro cells w rfl hw
  have hcells := hI.holding cells
  rw [Ask.accepts_check]
  exact (hw.isReadAs hcells hlt).decides_tuple hcells (fun f hf v hv => (hhead f hf v hv).holding cells)
    fun r hr n => (hrest r hr n).holding cells

/-- A product about all elements tells what remains of a sequence. -/
theorem Value.tellsRest_array {isTuple : Bool} (hlt : items.length < maxIndex) {verdict : Value → Bool}
    (hf : ∀ v ∈ items, f.TellsElement host c I v (verdict v))
    (id id' : Nat) (title : Name) (facets : Facets) :
    (Value.predicate id title facets (.rule id' (.array f))).TellsRest host c I isTuple items
      (items.all verdict) := by
  rintro cells w - hw
  have hcells := hI.holding cells
  rw [Ask.accepts_check]
  exact (hw.isReadAs hcells hlt).decides_array hcells fun v hv => (hf v hv).holding cells

end Products

end ValueShape
