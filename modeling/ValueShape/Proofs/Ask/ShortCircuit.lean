import Mathlib.Data.List.Forall2
import ValueShape.Proofs.Ask.Obligation

/-!
# Short circuits in the order of declaration

A product asks its obligations one after the other and stops at the first one that is not answered
positively, as long as asking does not change the value.

* `P` stands for what asking leaves as it is.  `Reads c P m R` says that the reading `m` succeeds and
  leaves it as well, with a result for which `R` holds.
* `Check.Finds c P x o` says that the readings of a check about `x` give what the outlook `o` says.
* `Check.course_fulfils` is the main result about checks, and `Ask.callWith_fulfils` is that about
  predicates.
-/

set_option autoImplicit false

namespace ValueShape

open Run (exec)

/-! ## Readings that leave the value as it is

A reading may hand out identities, and make new containers.  It must leave alone what the outlook
speaks of, and `P` says what that is. -/

section Readings

variable (c : Conduct) (P : Session → Prop) {α β : Type}

/-- A reading succeeds and leaves the value as it is. -/
def Reads (m : Run α) (R : α → Prop) : Prop :=
  ∀ s, P s → ∃ a s', exec c m s = .ok a s' ∧ P s' ∧ R a

/-- A reading gives what is expected, or it fails in an ordinary way if nothing is. -/
def Comes (m : Run α) (expected : Option β) (R : β → α → Prop) : Prop :=
  match expected with
  | some b => Reads c P m (R b)
  | none => ∀ s, P s → ∃ e s', exec c m s = .error e s' ∧ P s' ∧ e.isOrdinary = true

/-- An iteration yields elements, and nothing more. -/
def Yields : List Value → Cursor → Prop
  | [], cur => Reads c P (Look.next cur).read fun r => r = none
  | v :: vs, cur => Reads c P (Look.next cur).read fun r =>
      ∃ w cur', r = some (w, cur') ∧ w.Shows v ∧ Yields vs cur'

/-- Iteration over a value yields elements, and there is room for them. -/
def Iterates (x : Value) (items : List Value) : Prop :=
  Reads c P (Look.cursor x).read fun cur =>
    Yields c P items cur ∧ Reads c P (Look.limit cur).read fun n => items.length < n

/-- The length of a value is that of its elements. -/
def Measures (x : Value) (items : List Value) : Prop :=
  Reads c P (Look.length x).read fun n => n = items.length

/-- A value has its elements under their indices. -/
def Indexes (x : Value) (items : List Value) : Prop :=
  ∀ i v, items[i]? = some v → Reads c P (Look.item x i).read fun w => w.Shows v

/-- What remains of a value is a sequence of the elements that remain. -/
def Remains (x : Value) (items : List Value) (n : Nat) : Prop :=
  ∀ s, P s → ∃ w s', exec c (Look.remainder x n).read s = .ok w s' ∧
    s'.heap.sequence? w = some (items.drop n)

/-- Looking up keys among the allowed ones gives a truth value, or fails where that is expected to
be negative. -/
def LooksUp (allowed : List (Key Value)) (keys : List Value) (within : Bool) : Prop :=
  ∀ s, P s → ∃ s', P s' ∧ (exec c (Glance.within allowed keys).read s = .ok within s' ∨
    within = false ∧ ∃ e, exec c (Glance.within allowed keys).read s = .error e s' ∧
      e.isOrdinary = true)

/-- The readings of a check about a value give what the outlook says. -/
def Check.Finds {κ : Type} (x : Value) (o : Outlook) : Check κ Value → Prop
  | array _ =>
    Reads c P (Look.array x).read (fun b => b = o.elements.isSome) ∧
      ∀ items ∈ o.elements, Iterates c P x items
  | tuple fs rest =>
    Reads c P (Look.array x).read (fun b => b = o.elements.isSome) ∧
      ∀ items ∈ o.elements, Measures c P x items ∧ Iterates c P x items ∧
        (rest.isSome → Remains c P x items fs.length)
  | parameters fs _ rest =>
    Reads c P (Look.array x).read (fun b => b = o.elements.isSome) ∧
      ∀ items ∈ o.elements, Measures c P x items ∧ Indexes c P x items ∧
        (rest.isSome → Remains c P x items fs.length)
  | record _ =>
    Reads c P (Look.mapping x).read (fun b => b = o.mapping.isSome) ∧
      ∀ m ∈ o.mapping, Comes c P (Glance.values x).read m.values fun vs ws =>
        List.Forall₂ Value.Shows ws vs
  | object fields allowed =>
    Reads c P (Look.mapping x).read (fun b => b = o.mapping.isSome) ∧
      ∀ m ∈ o.mapping,
        (∀ ks ∈ allowed, Comes c P (Glance.keys x).read m.keys fun keys ws =>
          ws.length = keys.length ∧ LooksUp c P ks ws (m.within ks)) ∧
        ∀ e ∈ fields, Comes c P (Glance.get x e.1).read (m.get e.1) fun v w => w.Shows v
  | _ => True

/-- It makes no difference in which manner the callables are asked. -/
theorem Check.finds_queries {κ : Type} {x : Value} {o : Outlook} (check : Check κ Value) :
    check.queries.Finds c P x o ↔ check.Finds c P x o := by
  cases check with
  | object fields allowed => simp only [queries, map, Finds, List.forall_mem_map]
  | _ => simp [queries, map, Finds]

end Readings

/-! ## Dialogues that fulfil obligations

There is one lemma for each kind of step, and the dialogues of products are put together from
these. -/

namespace Dialogue

variable {κ : Type} (answer : κ → Value → Run Bool) (c : Conduct) (P : Session → Prop)

/-- A dialogue fulfils obligations, or refuses without a question if there are none. -/
def Meets (ds? : Option (List (κ × Argument))) (d : Dialogue κ Bool) (s : Session) : Prop :=
  match ds? with
  | none => (d.course answer c s).questions = [] ∧ ∃ s', (d.course answer c s).ending = .ok false s'
  | some ds => Fulfils ds (d.course answer c s).questions (d.course answer c s).ending

/-- Asking a callable leaves the value as it is, if the answer is positive. -/
def Spares (f : κ) : Prop := ∀ v s s', P s → exec c (answer f v) s = .ok true s' → P s'

variable {answer c P} {ds? : Option (List (κ × Argument))} {ds : List (κ × Argument)} {s : Session}

theorem Meets.of_course {d d' : Dialogue κ Bool} {s' : Session} (h : d'.Meets answer c ds? s')
    (hquestions : (d.course answer c s).questions = (d'.course answer c s').questions)
    (hending : (d.course answer c s).ending = (d'.course answer c s').ending) :
    d.Meets answer c ds? s := by
  cases ds? <;> simpa only [Meets, hquestions, hending] using h

theorem meets_done_false : (done false : Dialogue κ Bool).Meets answer c none s :=
  ⟨rfl, s, rfl⟩

theorem meets_done_true : (done true : Dialogue κ Bool).Meets answer c (some []) s :=
  Fulfils.done s

theorem meets_look_of_ok {l : Look} {k : l.Answer → Dialogue κ Bool} {a : l.Answer}
    {s' : Session} (ha : exec c l.read s = .ok a s') (hk : (k a).Meets answer c ds? s') :
    (look l k).Meets answer c ds? s := by
  refine hk.of_course ?_ ?_
  · rw [course, ha]
    rfl
  · rw [course, ha]
    rfl

theorem meets_look {l : Look} {k : l.Answer → Dialogue κ Bool} {R : l.Answer → Prop} (hs : P s)
    (hl : Reads c P l.read R) (hk : ∀ a s', P s' → R a → (k a).Meets answer c ds? s') :
    (look l k).Meets answer c ds? s := by
  obtain ⟨a, s', ha, hs', hR⟩ := hl s hs
  exact meets_look_of_ok ha (hk a s' hs' hR)

/-- A reading finds out whether a value has parts of some sort.  If it has none, the dialogue refuses. -/
theorem meets_look_isSome {α : Type} {part? : Option α} {l : Look} {k : l.Answer → Dialogue κ Bool}
    (yes : Bool → l.Answer) (hs : P s) (hl : Reads c P l.read fun b => b = yes part?.isSome)
    (hnone : part? = none → k (yes false) = done false ∧ ds? = none)
    (hsome : ∀ a, part? = some a → ∀ s', P s' → (k (yes true)).Meets answer c ds? s') :
    (look l k).Meets answer c ds? s := by
  refine meets_look hs hl fun b s' hs' hb => ?_
  subst hb
  cases hpart : part? with
  | none =>
    obtain ⟨hk, rfl⟩ := hnone hpart
    exact hk ▸ meets_done_false
  | some a => exact hsome a hpart s' hs'

theorem meets_glance_of_ok {g : Glance} {k : Option g.Answer → Dialogue κ Bool} {a : g.Answer}
    {s' : Session} (ha : exec c g.read s = .ok a s') (hk : (k (some a)).Meets answer c ds? s') :
    (glance g k).Meets answer c ds? s := by
  refine hk.of_course ?_ ?_
  · rw [course, ha]
    rfl
  · rw [course, ha]
    rfl

theorem meets_glance_of_error {g : Glance} {k : Option g.Answer → Dialogue κ Bool} {e : Failure}
    {s' : Session} (he : exec c g.read s = .error e s') (hordinary : e.isOrdinary = true)
    (hk : (k none).Meets answer c ds? s') : (glance g k).Meets answer c ds? s := by
  refine hk.of_course ?_ ?_
  · simp only [course, he, hordinary, if_true]
    rfl
  · simp only [course, he, hordinary, if_true]
    rfl

theorem meets_glance {β : Type} {g : Glance} {k : Option g.Answer → Dialogue κ Bool}
    {expected : Option β} {R : β → g.Answer → Prop} (hs : P s)
    (hg : Comes c P g.read expected R)
    (hsome : ∀ b ∈ expected, ∀ a s', P s' → R b a → (k (some a)).Meets answer c ds? s')
    (hnone : expected = none → ∀ s', P s' → (k none).Meets answer c ds? s') :
    (glance g k).Meets answer c ds? s := by
  rcases expected with _ | b
  · obtain ⟨e, s', he, hs', hordinary⟩ := hg s hs
    exact meets_glance_of_error he hordinary (hnone rfl s' hs')
  · obtain ⟨a, s', ha, hs', hR⟩ := hg s hs
    exact meets_glance_of_ok ha (hsome b rfl a s' hs' hR)

theorem meets_ask {f : κ} {a : Argument} {v : Value} {d : Dialogue κ Bool} (hs : P s)
    (ha : a.Is s.heap v) (hf : Spares answer c P f)
    (hd : ∀ s', P s' → d.Meets answer c (some ds) s') :
    (ask f v fun b => if b then d else done false).Meets answer c (some ((f, a) :: ds)) s := by
  rw [Meets, course]
  rcases h : exec c (answer f v) s with ⟨b, s'⟩ | ⟨e, s'⟩
  · cases b
    · exact .refused f ds ha s'
    · exact .accepted f ha s' (hd s' (hf v s s' hs h))
  · exact .failed f ds ha e s'

/-- The last question need not leave the value as it is. -/
theorem meets_asking {f : κ} {a : Argument} {v : Value} (ha : a.Is s.heap v) :
    (asking f v).Meets answer c (some [(f, a)]) s := by
  rw [Meets, asking, course]
  rcases exec c (answer f v) s with ⟨b, s'⟩ | ⟨e, s'⟩
  · cases b
    · exact .refused f [] ha s'
    · exact .accepted f ha s' (.done s')
  · exact .failed f [] ha e s'

/-- A dialogue that goes on if another one is positive. -/
def andThen (d k : Dialogue κ Bool) : Dialogue κ Bool := do if ← d then k else done false

theorem andThen_ask (f : κ) (v : Value) (d k : Dialogue κ Bool) :
    (ask f v fun b => if b then d else done false).andThen k =
      ask f v fun b => if b then d.andThen k else done false := by
  change Dialogue.ask f v _ = Dialogue.ask f v _
  congr 1
  funext b
  cases b <;> rfl

end Dialogue

/-! ## The dialogues of products -/

namespace Check

open Dialogue

variable {κ : Type} {answer : κ → Value → Run Bool} {c : Conduct} {P : Session → Prop}
variable {s : Session} {x : Value} {items : List Value}

theorem elementsDialogue_meets {f : κ} (hf : Spares answer c P f) {fuel : Nat} {cur : Cursor}
    (hfuel : items.length < fuel) (hcur : Yields c P items cur) (hs : P s) :
    (elementsDialogue f fuel cur).Meets answer c (some (items.map fun v => (f, .value v))) s := by
  induction items generalizing fuel cur s with
  | nil =>
    obtain ⟨fuel, rfl⟩ := Nat.exists_eq_add_of_lt hfuel
    refine meets_look hs hcur fun r s' hs' hr => ?_
    subst hr
    exact meets_done_true
  | cons v vs ih =>
    rcases fuel with _ | fuel
    · exact absurd hfuel (Nat.not_lt_zero _)
    · refine meets_look hs hcur fun r s' hs' hr => ?_
      obtain ⟨w, cur', rfl, hw, hcur'⟩ := hr
      exact meets_ask hs' (show Argument.Is _ _ (.value v) from hw) hf fun s'' hs'' =>
        ih (Nat.lt_of_succ_lt_succ hfuel) hcur' hs''

theorem valuesDialogue_meets {f : κ} (hf : Spares answer c P f) {ws vs : List Value}
    (hvs : List.Forall₂ Value.Shows ws vs) (hs : P s) :
    (valuesDialogue f ws).Meets answer c (some (vs.map fun v => (f, .value v))) s := by
  induction hvs generalizing s with
  | nil => exact meets_done_true
  | cons hv _ ih => exact meets_ask hs hv hf fun s' hs' => ih hs'

theorem allDialogue_meets {fs : List κ} (hfs : ∀ f ∈ fs, Spares answer c P f) (hs : P s) :
    (allDialogue x fs).Meets answer c (some (fs.map fun f => (f, .value x))) s := by
  induction fs generalizing s with
  | nil => exact meets_done_true
  | cons f fs ih =>
    obtain ⟨hf, hfs⟩ := List.forall_mem_cons.mp hfs
    exact meets_ask hs (.inl rfl) hf fun s' hs' => ih hfs hs'

theorem fieldsDialogue_meets {fields : List (Name × κ)} {get : Name → Option Value}
    (hfs : ∀ f ∈ fields.map (·.2), Spares answer c P f)
    (hget : ∀ e ∈ fields, Comes c P (Glance.get x e.1).read (get e.1) fun v w => w.Shows v)
    (hs : P s) :
    (fieldsDialogue x fields).Meets answer c
      (some (fields.map fun e => (e.2, (get e.1).elim .unreadable .value))) s := by
  induction fields generalizing s with
  | nil => exact meets_done_true
  | cons e fields ih =>
    obtain ⟨name, f⟩ := e
    obtain ⟨hf, hfs⟩ := List.forall_mem_cons.mp hfs
    obtain ⟨hname, hget⟩ := List.forall_mem_cons.mp hget
    refine meets_glance hs hname (fun v hv w s' hs' hw => ?_) fun hnone s' hs' => ?_
    · have hv : get name = some v := hv
      rw [List.map_cons, hv]
      exact meets_ask hs' hw hf fun s'' hs'' => ih hfs hget hs''
    · have hnone : get name = none := hnone
      rw [List.map_cons, hnone]
      exact Fulfils.unreadable f _ s'

/-- What remains is asked about last. -/
theorem restDialogue_meets {rest : Option κ} {n : Nat}
    (hrest : rest.isSome → Remains c P x items n) (hs : P s) :
    (restDialogue rest x n).Meets answer c (some (restObligation rest items n)) s := by
  rcases rest with _ | f
  · exact meets_done_true
  · obtain ⟨w, s', hw, hitems⟩ := hrest rfl s hs
    have hf : Argument.Is s'.heap w (.remainder (items.drop n)) := hitems
    exact meets_look_of_ok hw (meets_asking hf)

/-- A head is asked about first, whatever comes after it. -/
theorem headDialogue_meets {fs : List κ} (hfs : ∀ f ∈ fs, Spares answer c P f)
    {cur : Cursor} (hlength : fs.length ≤ items.length) (hcur : Yields c P items cur) (hs : P s)
    {k : Dialogue κ Bool} {ds : List (κ × Argument)}
    (hk : ∀ s', P s' → k.Meets answer c (some ds) s') :
    ((headDialogue fs cur).andThen k).Meets answer c
      (some ((fs.zip items).map (fun e => (e.1, .value e.2)) ++ ds)) s := by
  induction fs generalizing items cur s with
  | nil => exact hk s hs
  | cons f fs ih =>
    obtain ⟨hf, hfs⟩ := List.forall_mem_cons.mp hfs
    rcases items with _ | ⟨v, vs⟩
    · exact absurd hlength (by simp)
    · refine meets_look hs hcur fun r s' hs' hr => ?_
      obtain ⟨w, cur', rfl, hw, hcur'⟩ := hr
      change ((ask f w _).andThen k).Meets answer c _ s'
      rw [andThen_ask]
      exact meets_ask hs' (show Argument.Is _ _ (.value v) from hw) hf fun s'' hs'' =>
        ih hfs (Nat.le_of_succ_le_succ hlength) hcur' hs''

/-- Arguments are asked about first, whatever comes after them. -/
theorem argumentsDialogue_meets {fs : List κ} (hfs : ∀ f ∈ fs, Spares answer c P f) {i : Nat}
    (hx : Indexes c P x items) (hs : P s) {k : Dialogue κ Bool} {ds : List (κ × Argument)}
    (hk : ∀ s', P s' → k.Meets answer c (some ds) s') :
    ((argumentsDialogue x items.length fs i).andThen k).Meets answer c
      (some (argumentObligations items fs i ++ ds)) s := by
  induction fs generalizing i s with
  | nil => exact hk s hs
  | cons f fs ih =>
    obtain ⟨hf, hfs⟩ := List.forall_mem_cons.mp hfs
    have goOn {v w : Value} {s : Session} (hs : P s) (hw : w.Shows v) :
        ((ask f w fun b =>
            if b then argumentsDialogue x items.length fs (i + 1) else done false).andThen k).Meets
          answer c (some ((f, .value v) :: (argumentObligations items fs (i + 1) ++ ds))) s := by
      rw [andThen_ask]
      exact meets_ask hs (show Argument.Is _ _ (.value v) from hw) hf fun s' hs' => ih hfs hs'
    rw [argumentsDialogue, argumentObligations]
    by_cases hi : i < items.length
    · simp only [hi, if_true]
      refine meets_look hs (hx i items[i] (List.getElem?_eq_getElem hi)) fun w s' hs' hw => ?_
      rw [List.getElem?_eq_getElem hi]
      exact goOn hs' hw
    · simp only [hi, if_false]
      rw [List.getElem?_eq_none (Nat.le_of_not_lt hi)]
      exact goOn hs (.inl rfl)

theorem positionsDialogue_meets {fs : List κ} {rest : Option κ} (hfs : ∀ f ∈ fs, Spares answer c P f)
    (hlength : Measures c P x items) (hindexes : Indexes c P x items)
    (hremains : rest.isSome → Remains c P x items fs.length) (hs : P s) :
    (positionsDialogue fs rest x).Meets answer c
      (some (argumentObligations items fs 0 ++ restObligation rest items fs.length)) s := by
  refine meets_look hs hlength fun n s' hs' hn => ?_
  subst hn
  exact argumentsDialogue_meets hfs hindexes hs' fun s' hs' => restDialogue_meets hremains hs'

/-- The keys of a mapping are looked up before anything is asked. -/
theorem keysDialogue_meets {m : MappingOutlook} {allowed : List (Key Value)}
    (hkeys : Comes c P (Glance.keys x).read m.keys fun keys ws =>
      ws.length = keys.length ∧ LooksUp c P allowed ws (m.within allowed)) (hs : P s)
    {k : Dialogue κ Bool} {ds : List (κ × Argument)}
    (hk : ∀ s', P s' → k.Meets answer c (some ds) s') :
    ((keysDialogue allowed x).andThen k).Meets answer c
      (if keysFit m allowed then some ds else none) s := by
  refine meets_glance hs hkeys (fun keys hkeys ws s' hs' hws => ?_) fun hnone s' hs' => ?_
  · obtain ⟨hlength, hwithin⟩ := hws
    have hfit : keysFit m allowed = (decide (keys.length ≤ allowed.length) && m.within allowed) := by
      rw [keysFit, show m.keys = some keys from hkeys]
      rfl
    by_cases hlt : allowed.length < ws.length
    · have hfalse : keysFit m allowed = false := by
        rw [hfit, ← hlength, decide_eq_false (Nat.not_le_of_lt hlt), Bool.false_and]
      simp only [hlt, if_true, hfalse, Bool.false_eq_true, if_false]
      exact meets_done_false
    · have hle : keys.length ≤ allowed.length := hlength ▸ Nat.le_of_not_lt hlt
      rw [hfit, decide_eq_true hle, Bool.true_and]
      simp only [hlt, if_false]
      obtain ⟨s'', hs'', hok | ⟨hfalse, e, he, hordinary⟩⟩ := hwithin s' hs'
      · refine meets_glance_of_ok hok ?_
        cases hw : m.within allowed
        · exact meets_done_false
        · exact hk s'' hs''
      · rw [hfalse]
        exact meets_glance_of_error he hordinary meets_done_false
  · have hfalse : keysFit m allowed = false := by rw [keysFit, hnone]; rfl
    simp only [hfalse, Bool.false_eq_true, if_false]
    exact meets_done_false

/-- A head misfits a sequence that is too short, or too long without a rest. -/
theorem misfit_eq (rest : Option κ) (m n : Nat) :
    (decide (n < m) || (rest.isNone && decide (m < n))) =
      !(decide (m ≤ n) && (rest.isSome || decide (n ≤ m))) := by
  cases rest <;> grind

/-- **Short circuits in the order of declaration.**  A product whose readings give what the outlook
says asks its obligations one after the other, up to the first one that is not answered positively;
if the outside of the value does not fit, it refuses without a question. -/
theorem course_fulfils {check : Check κ Value} (hp : check.isProduct = true) {o : Outlook}
    (hfinds : check.Finds c P x o) (hspares : ∀ f ∈ check.callables, Spares answer c P f)
    (hs : P s) : (check.dialogue x).Meets answer c (check.obligations x o) s := by
  cases check with
  | array f =>
    obtain ⟨harray, hitems⟩ := hfinds
    have hf : Spares answer c P f := hspares f (by simp [callables])
    refine meets_look_isSome id hs harray (fun hnone => ⟨rfl, by rw [obligations, hnone]; rfl⟩)
      fun items helements s' hs' => ?_
    rw [obligations, helements]
    refine meets_look hs' (hitems items helements) fun cur s' hs' hcur => ?_
    refine meets_look hs' hcur.2 fun n s' hs' hn => ?_
    exact elementsDialogue_meets hf hn hcur.1 hs'
  | record f =>
    obtain ⟨hmapping, hvalues⟩ := hfinds
    have hf : Spares answer c P f := hspares f (by simp [callables])
    refine meets_look_isSome id hs hmapping (fun hnone => ⟨rfl, by rw [obligations, hnone]; rfl⟩)
      fun m hm s' hs' => ?_
    rw [obligations, hm, Option.bind_some]
    refine meets_glance hs' (hvalues m hm) (fun vs hvs ws s' hs' hws => ?_) fun hnone s' hs' => ?_
    · rw [show m.values = some vs from hvs]
      exact valuesDialogue_meets hf hws hs'
    · rw [hnone]
      exact meets_done_false
  | tuple fs rest =>
    obtain ⟨harray, hitems⟩ := hfinds
    obtain ⟨hfs, -⟩ := List.forall_mem_append.mp hspares
    refine meets_look_isSome id hs harray (fun hnone => ⟨rfl, by rw [obligations, hnone]; rfl⟩)
      fun items helements s' hs' => ?_
    obtain ⟨hlength, hiterates, hremains⟩ := hitems items helements
    rw [obligations, helements]
    refine meets_look hs' hlength fun n s' hs' hn => ?_
    subst hn
    rw [misfit_eq, Option.filter_some]
    cases hfits : decide (fs.length ≤ items.length) &&
        (rest.isSome || decide (items.length ≤ fs.length))
    · exact meets_done_false
    · have hle : fs.length ≤ items.length := by simp at hfits; exact hfits.1
      refine meets_look hs' hiterates fun cur s' hs' hcur => ?_
      exact headDialogue_meets hfs hle hcur.1 hs' fun s' hs' => restDialogue_meets hremains hs'
  | parameters fs required rest =>
    obtain ⟨harray, hitems⟩ := hfinds
    obtain ⟨hfs, -⟩ := List.forall_mem_append.mp hspares
    refine meets_look_isSome id hs harray (fun hnone => ⟨rfl, by rw [obligations, hnone]; rfl⟩)
      fun items helements s' hs' => ?_
    obtain ⟨hlength, hindexes, hremains⟩ := hitems items helements
    rw [obligations, helements, Option.filter_some]
    refine meets_look hs' hlength fun n s' hs' hn => ?_
    subst hn
    by_cases hrequired : required ≤ items.length
    · simp only [Nat.not_lt_of_le hrequired, if_false, decide_eq_true hrequired, Bool.true_and]
      rcases rest with _ | rest
      · -- Without a rest, the length is read once more.
        refine meets_look hs' hlength fun n s' hs' hn => ?_
        subst hn
        by_cases hle : items.length ≤ fs.length
        · simp only [Nat.not_lt_of_le hle, if_false, decide_eq_true hle]
          exact positionsDialogue_meets hfs hlength hindexes hremains hs'
        · simp only [Nat.lt_of_not_le hle, if_true, decide_eq_false hle]
          exact meets_done_false
      · exact positionsDialogue_meets hfs hlength hindexes hremains hs'
    · simp only [Nat.lt_of_not_le hrequired, if_true, decide_eq_false hrequired, Bool.false_and]
      exact meets_done_false
  | object fields allowed =>
    obtain ⟨hmapping, hparts⟩ := hfinds
    refine meets_look_isSome id hs hmapping (fun hnone => ⟨rfl, by rw [obligations, hnone]; rfl⟩)
      fun m hm s' hs' => ?_
    obtain ⟨hkeys, hfields⟩ := hparts m hm
    rw [obligations, hm]
    rcases allowed with _ | allowed
    · exact fieldsDialogue_meets hspares hfields hs'
    · have hmeets := keysDialogue_meets (hkeys allowed rfl) hs' fun s'' hs'' =>
        fieldsDialogue_meets hspares hfields hs''
      rw [Option.filter_some, Option.all_some]
      cases hfit : keysFit m allowed <;> rw [hfit] at hmeets <;> exact hmeets
  | allOf fs => exact allDialogue_meets hspares hs
  | oneOf | literal | literals | instanceOf | optional => exact absurd hp Bool.false_ne_true

end Check

end ValueShape
