import ValueShape.Proofs.Ask.Lookup
import ValueShape.Proofs.Ask.ShortCircuit
import ValueShape.Proofs.Conduct.Foreign

/-!
# What products find in mappings

How mappings read for the checks that look into them: those of the built-in classes, the read-only ones
that show them, and those of a caller's own making, whose methods may refuse to be called.

* `Check.finds_outside` is about values that are of the wrong kind altogether.
* `MappingOutlook.ofEntries` and `Check.finds_of_isMappingOf` are about the mappings of the built-in
  classes.
* `MappingOutlook.ofForeign` and `Check.finds_of_holdsForeign` are about foreign mappings.  A part that
  such a mapping refuses to tell is missing from its outlook.
-/

set_option autoImplicit false

namespace ValueShape

open Run

/-! ## Checks that look into mappings

What a check finds is settled by the methods of the mapping one by one, so that nothing has to be
said about single checks in what follows. -/

namespace Check

variable {κ : Type}

/-- Whether a check is about the parts of a mapping. -/
def isOfMappings : Check κ Value → Bool
  | record _ | object .. => true
  | _ => false

/-- The names under which a check reads values. -/
def fieldNames : Check κ Value → List Name
  | object fields _ => fields.map (·.1)
  | _ => []

/-- The keys that a check allows, if it allows these only. -/
def allowed? : Check κ Value → Option (List (Key Value))
  | object _ allowed => allowed
  | _ => none

variable {c : Conduct} {P : Session → Prop} {x : Value} {check : Check κ Value}

/-- A value that is neither a list nor a tuple, or no mapping, is all that a check finds out. -/
theorem finds_outside {o : Outlook}
    (harray : check.isSequential = true → o.elements = none ∧
      Reads c P (Look.array x).read fun b => b = false)
    (hmapping : check.isOfMappings = true → o.mapping = none ∧
      Reads c P (Look.mapping x).read fun b => b = false) : check.Finds c P x o := by
  have hnone {β : Type} {o : Option β} {Q : β → Prop} (h : o = none) : ∀ b ∈ o, Q b := by
    subst h
    exact nofun
  cases check with
  | array | tuple | parameters =>
    obtain ⟨hnot, hread⟩ := harray rfl
    exact ⟨by rwa [hnot], hnone hnot⟩
  | record | object =>
    obtain ⟨hnot, hread⟩ := hmapping rfl
    exact ⟨by rwa [hnot], hnone hnot⟩
  | _ => trivial

/-- What is found in a mapping is what its methods give. -/
theorem finds_mapping (hcheck : check.isOfMappings = true) {m : MappingOutlook}
    (hmapping : Reads c P (Look.mapping x).read fun b => b = true)
    (hvalues : Comes c P (Glance.values x).read m.values fun vs ws => List.Forall₂ Value.Shows ws vs)
    (hkeys : ∀ ks ∈ check.allowed?, Comes c P (Glance.keys x).read m.keys fun keys ws =>
      ws.length = keys.length ∧ LooksUp c P ks ws (m.within ks))
    (hget : ∀ name ∈ check.fieldNames,
      Comes c P (Glance.get x name).read (m.get name) fun v w => w.Shows v) :
    check.Finds c P x ⟨none, some m⟩ := by
  cases check with
  | record f =>
    refine ⟨hmapping, fun m' hm => ?_⟩
    cases hm
    exact hvalues
  | object fields allowed =>
    refine ⟨hmapping, fun m' hm => ?_⟩
    cases hm
    exact ⟨hkeys, fun e he => hget e.1 (List.mem_map_of_mem he)⟩
  | _ => exact absurd hcheck Bool.false_ne_true

end Check

section Unnoticed

variable {α : Type} {c : Conduct} {P : Session → Prop} {m : Run α}

theorem Unnoticed.reads {a : α} (h : Unnoticed c (fun s _ => P s) m (some a)) :
    Reads c P m fun b => b = a := by
  intro s hs
  obtain ⟨s₁, hs₁, hm⟩ := h s s hs
  exact ⟨a, s₁, hm, hs₁, rfl⟩

theorem Unnoticed.comes {a? : Option α} (h : Unnoticed c (fun s _ => P s) m a?) :
    Comes c P m a? fun a b => b = a := by
  cases a? with
  | some a => exact h.reads
  | none =>
    intro s hs
    obtain ⟨s₁, hs₁, e, he, hordinary⟩ := h s s hs
    exact ⟨e, s₁, he, hs₁, hordinary⟩

/-- Keys that cannot be looked up are not among the allowed ones. -/
theorem Unnoticed.looksUp {allowed : List (Key Value)} {keys : List Value} {within? : Option Bool}
    (h : Unnoticed c (fun s _ => P s) (Glance.within allowed keys).read within?) :
    LooksUp c P allowed keys (within?.getD false) := by
  intro s hs
  obtain ⟨s₁, hs₁, hread⟩ := h s s hs
  cases within? with
  | some b => exact ⟨s₁, hs₁, .inl hread⟩
  | none =>
    obtain ⟨e, he, hordinary⟩ := hread
    exact ⟨s₁, hs₁, .inr ⟨rfl, e, he, hordinary⟩⟩

theorem Comes.mono {β : Type} {b? : Option β} {R R' : β → α → Prop} (h : Comes c P m b? R)
    (hR : ∀ b ∈ b?, ∀ a, R b a → R' b a) : Comes c P m b? R' := by
  cases b? with
  | some b =>
    intro s hs
    obtain ⟨a, s', ha, hs', hba⟩ := h s hs
    exact ⟨a, s', ha, hs', hR b rfl a hba⟩
  | none => exact h

/-- A result is made of what a computation gives, and a failure stays one. -/
theorem Comes.of_map {β : Type} {m' : Run β} {a? : Option α} {f : α → β}
    (h : Comes c P m a? fun a b => b = a)
    (hm : ∀ s, P s → exec c m' s = (exec c m s).map f) : Comes c P m' (a?.map f) fun a b => b = a := by
  cases a? with
  | some a =>
    intro s hs
    obtain ⟨b, s', hb, hs', rfl⟩ := h s hs
    exact ⟨f b, s', by rw [hm s hs, hb]; rfl, hs', rfl⟩
  | none =>
    intro s hs
    obtain ⟨e, s', he, hrest⟩ := h s hs
    exact ⟨e, s', by rw [hm s hs, he]; rfl, hrest⟩

theorem Run.Settles.reads {R : α → Prop} (h : ∀ s, P s → Settles c P s m fun a _ => R a) :
    Reads c P m R := by
  intro s hs
  obtain ⟨a, s', ha, -, hs', hR⟩ := h s hs
  exact ⟨a, s', ha, hs', hR⟩

end Unnoticed

theorem Value.forall₂_shows_self (vs : List Value) : List.Forall₂ Value.Shows vs vs :=
  List.forall₂_same.mpr fun _ _ => .inl rfl

/-! ## Mappings of the built-in classes

Such a mapping tells its keys and its values.  What is under a name depends on how the keys compare with
that name, which is up to their classes; likewise whether the keys are among the allowed ones. -/

/-- How a mapping reads that has certain entries, where a key stands for the name that it is found under
and `same` says which of the allowed keys is the same as a key. -/
def MappingOutlook.ofEntries (textOf : Key Value → Option String)
    (same : Key Value → Key Value → Option Bool) (es : List Entry) : MappingOutlook where
  values := some (es.map (·.2))
  keys := some (es.map (·.1.value))
  within allowed := ((es.map (·.1)).allM fun key => allowed.anyM (same · key)).getD false
  get name := some ((storedUnder textOf es name).getD .undefined)

/-- **What a product finds in a mapping of a built-in class**, also if that keeps an order or shows
another one. -/
theorem Check.finds_of_isMappingOf {κ : Type} {check : Check κ Value}
    (hcheck : check.isOfMappings = true) {c : Conduct} {I : Session → Prop}
    (hI : Session.Spacious I) {x : Value} {es : List Entry} (hx : x.IsMappingOf I es)
    (hkeys : ∀ key ∈ es.map (·.1), key.value.isIdentified = true)
    (hvalues : ∀ v ∈ es.map (·.2), v.isIdentified = true) {textOf : Key Value → Option String}
    (hstand : StandFor textOf c (fun s _ => I s) check.fieldNames (es.map (·.1)))
    {same : Key Value → Key Value → Option Bool}
    (hhashes : ∀ allowed ∈ check.allowed?, ∀ key ∈ es.map (·.1),
      Unnoticed c (fun s _ => I s) (hash key.value) (some key.hash))
    (hcompares : ∀ allowed ∈ check.allowed?, ∀ key ∈ es.map (·.1), ∀ stored ∈ allowed,
      Unnoticed c (fun s _ => I s) (isKey key stored) (same stored key)) :
    check.Finds c I x ⟨none, some (.ofEntries textOf same es)⟩ := by
  refine finds_mapping hcheck ?_ ?_ (fun allowed hallowed => ?_) fun name hname => ?_
  · exact fun s hs => ⟨true, s, hx.exec_isMapping hI c hs, hs, rfl⟩
  · refine Settles.reads fun s hs => (hx.settles_values hI hs hvalues).mono fun ws _ _ _ hws => ?_
    rw [hws]
    exact Value.forall₂_shows_self _
  · refine Settles.reads fun s hs => (hx.settles_keys hI hs hkeys).mono fun ws _ _ _ hws => ?_
    have hwithin := unnoticed_within (hhashes allowed hallowed) (hcompares allowed hallowed)
    rw [List.map_map] at hwithin
    subst hws
    exact ⟨rfl, hwithin.looksUp⟩
  · exact (hstand.unnoticed_get hname hI hx fun _ _ hs => hs).comes.mono fun _ _ _ hw => .inl hw

/-! ## Foreign mappings

Each method of a foreign mapping may refuse to answer.  An outlook has nothing in the place of a
method that does. -/

/-- The value of the first of some entries whose key is told to be the same. -/
def firstSame (same : Value → Option Bool) : List (Value × Value) → Option (Option Value)
  | [] => some none
  | (key, v) :: es => do if ← same key then some (some v) else firstSame same es

/-- Searching entries, where it is known how their keys compare with the one that is looked for. -/
theorem unnoticed_searchEntries {c : Conduct} {R : Session → Session → Prop} {key : Value}
    {same : Value → Option Bool} {es : List (Value × Value)}
    (h : ∀ e ∈ es, Unnoticed c R (equal e.1 key) (same e.1)) :
    Unnoticed c R (searchEntries key es) (firstSame same es) := by
  induction es with
  | nil => exact .pure none
  | cons e es ih =>
    obtain ⟨he, hes⟩ := List.forall_mem_cons.mp h
    rw [searchEntries, firstSame]
    refine he.bind fun b _ => ?_
    cases b with
    | true => exact .pure (some e.2)
    | false => exact ih hes

/-- How a foreign mapping reads, where it is known whether a stored key equals a name and whether all
keys are allowed.  What it refuses to tell is missing. -/
def MappingOutlook.ofForeign (m : Foreign) (same : Name → Value → Option Bool)
    (within : List (Key Value) → Bool) : MappingOutlook where
  values := if Access.values ∈ m.failing then none else some (m.entries.map (·.2))
  keys := if Access.keys ∈ m.failing then none else some (m.entries.map (·.1))
  within := within
  get name := if Access.get ∈ m.failing then none
    else (firstSame (same name) m.entries).map fun found => found.getD .undefined

section Foreign

variable {c : Conduct} {I : Session → Prop} {place : Nat} {m : Foreign}
  (hI : Session.Steadfast I) (hholds : ∀ s, I s → s.heap.HoldsForeign place m)
  (hfailure : m.failing ≠ [] → m.failure.isOrdinary = true)
include hI hholds hfailure

/-- Keys or values of a foreign mapping, unless it refuses to tell them. -/
theorem Heap.HoldsForeign.comes_readParts (part : Part) {f : Value × Value → Value}
    (hf : ∀ e w, YieldsPart part e.1 e.2 w → w = f e)
    (hid : ∀ e ∈ m.entries, IsPartAsIs part e.1 e.2) :
    Comes c I (readParts part (.ref place))
      (if part.access ∈ m.failing then none else some (m.entries.map f)) fun vs ws => ws = vs := by
  by_cases hfails : part.access ∈ m.failing
  · rw [if_pos hfails]
    exact fun s hs => ⟨_, s, exec_readParts_refused (hholds s hs) hfails, hs,
      hfailure (List.ne_nil_of_mem hfails)⟩
  · rw [if_neg hfails]
    refine Settles.reads fun s hs =>
      (settles_readParts_foreign hI (hholds s hs) hfails hid hs).mono fun ws _ _ _ hws => ?_
    have hws : List.Forall₂ Eq ws (m.entries.map f) :=
      List.forall₂_map_right_iff.mpr (hws.imp fun e w => hf e w).flip
    rwa [List.forall₂_eq_eq_eq] at hws

/-- **What a product finds in a foreign mapping**, which may refuse to tell its keys, its values, or what
is under a key. -/
theorem Check.finds_of_holdsForeign {κ : Type} {check : Check κ Value}
    (hcheck : check.isOfMappings = true)
    (hkeys : ∀ e ∈ m.entries, e.1.isIdentified = true)
    (hvalues : ∀ e ∈ m.entries, e.2.isIdentified = true) {same : Name → Value → Option Bool}
    (hsame : ∀ name ∈ check.fieldNames, ∀ e ∈ m.entries,
      Unnoticed c (fun s _ => I s) (equal e.1 (.ofName name)) (same name e.1))
    {within : List (Key Value) → Bool}
    (hwithin : ∀ allowed ∈ check.allowed?, LooksUp c I allowed (m.entries.map (·.1)) (within allowed)) :
    check.Finds c I (.ref place) ⟨none, some (.ofForeign m same within)⟩ := by
  have hmapping (s : Session) (hs : I s) :
      exec c (Look.mapping (.ref place)).read s = .ok true s := by
    rw [Look.read, Run.exec_isOfKind c ((hholds s hs).ordinary.readsAttributes rfl),
      (hholds s hs).ordinary.isOfKind]
    rfl
  refine finds_mapping hcheck ?_ ?_ (fun allowed hallowed => ?_) fun name hname => ?_
  · exact fun s hs => ⟨true, s, hmapping s hs, hs, rfl⟩
  · refine (Heap.HoldsForeign.comes_readParts hI hholds hfailure .values (f := (·.2))
      (fun _ _ h => h) hvalues).mono fun vs _ ws hws => ?_
    rw [hws]
    exact Value.forall₂_shows_self vs
  · refine (Heap.HoldsForeign.comes_readParts hI hholds hfailure .keys (f := (·.1))
      (fun _ _ h => h) hkeys).mono fun vs hvs ws hws => ?_
    have hvs : vs = m.entries.map (·.1) := by
      by_cases hfails : Part.access .keys ∈ m.failing
      · rw [if_pos hfails] at hvs
        cases hvs
      · rw [if_neg hfails] at hvs
        exact (Option.some.inj hvs).symm
    rw [hws, hvs]
    exact ⟨rfl, hwithin allowed hallowed⟩
  · by_cases hfails : Access.get ∈ m.failing
    · have hget : (MappingOutlook.ofForeign m same within).get name = none := if_pos hfails
      rw [hget]
      exact fun s hs => ⟨_, s, exec_getValue_refused (hholds s hs) hfails _ _, hs,
        hfailure (List.ne_nil_of_mem hfails)⟩
    · have hget : (MappingOutlook.ofForeign m same within).get name =
          (firstSame (same name) m.entries).map fun found => found.getD .undefined := if_neg hfails
      rw [hget]
      have hsearch := (unnoticed_searchEntries (hsame name hname)).comes
      exact (hsearch.of_map fun s hs => exec_getValue_foreign (hholds s hs) hfails _ _).mono
        fun _ _ _ hw => .inl hw

end Foreign

end ValueShape
