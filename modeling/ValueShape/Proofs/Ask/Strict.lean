import Mathlib.Data.List.Perm.Subperm
import ValueShape.Proofs.Ask.Alike
import ValueShape.Proofs.Facet.Settles
import ValueShape.Proofs.Store.Once

/-!
# Strict and loose products

A strict product about a mapping looks up its keys first, and then does what the loose one does.

* `Unnoticed c R m expected` says that a reading that is made in one session only gives what is
  expected, and that the other session is still related to the first one by `R` then.
* `ListsKeys c R x allowed keys same` says that a mapping lists distinct keys, and how they compare
  with the allowed ones.  `length_le_of_isAllowed` says that there are no more of them than there are
  allowed ones, if all of them are allowed.
* `Check.course_strict` is the main result: the courses of both products are alike if all keys are
  allowed, and otherwise the strict one refuses at once.
-/

set_option autoImplicit false

namespace ValueShape

open Run

/-! ## Readings that are not noticed

A strict product reads the keys, and the loose one does not.  After that the sessions differ at
least in the identities that were handed out, which `R` has to allow for. -/

section Unnoticed

variable {α β : Type} {c : Conduct} {R : Session → Session → Prop}

/-- A reading that is made in the first session only gives a result, or it fails in an ordinary way
if none is expected.  The second session does not notice. -/
def Unnoticed (c : Conduct) (R : Session → Session → Prop) (m : Run α) (expected : Option α) : Prop :=
  ∀ s s', R s s' → ∃ s₁, R s₁ s' ∧
    match expected with
    | some a => exec c m s = .ok a s₁
    | none => ∃ e, exec c m s = .error e s₁ ∧ e.isOrdinary = true

namespace Unnoticed

variable {m : Run α} {k : α → Run β}

theorem pure (a : α) : Unnoticed c R (pure a : Run α) (some a) := fun s _ hs => ⟨s, hs, rfl⟩

theorem bind {a? : Option α} {b? : α → Option β} (hm : Unnoticed c R m a?)
    (hk : ∀ a, a? = some a → Unnoticed c R (k a) (b? a)) : Unnoticed c R (m >>= k) (a?.bind b?) := by
  intro s s' hs
  obtain ⟨s₁, hs₁, hm⟩ := hm s s' hs
  rw [exec_bind]
  cases a? with
  | none =>
    obtain ⟨e, he, hordinary⟩ := hm
    exact ⟨s₁, hs₁, e, by rw [he, Ending.andThen_error], hordinary⟩
  | some a =>
    rw [show exec c m s = .ok a s₁ from hm, Ending.andThen_ok]
    exact hk a rfl s₁ s' hs₁

/-- A reading that settles on a result wherever an invariant holds is not noticed where both sessions
have it. -/
theorem of_settles {I : Session → Prop} {a : α} (h : ∀ s, I s → Settles c I s m fun b _ => b = a) :
    Unnoticed c (fun s s' => I s ∧ I s') m (some a) := by
  rintro s s' ⟨hs, hs'⟩
  obtain ⟨_, s₁, hm, -, hs₁, rfl⟩ := h s hs
  exact ⟨s₁, ⟨hs₁, hs'⟩, hm⟩

end Unnoticed

/-- What settles on one result ends alike. -/
theorem Run.Blind.of_settles {I : Session → Prop} {m : Run α} {a : α}
    (h : ∀ s, I s → Settles c I s m fun b _ => b = a) : Blind c (fun s s' => I s ∧ I s') m := by
  rintro s s' ⟨hs, hs'⟩
  obtain ⟨_, s₁, hm, -, hs₁, rfl⟩ := h s hs
  obtain ⟨_, s₁', hm', -, hs₁', rfl⟩ := h s' hs'
  rw [hm, hm']
  exact .ok ⟨hs₁, hs₁'⟩

/-- Looking up a key among members, where it is known how it compares with them. -/
theorem unnoticed_hasMember {key : Key Value} {same : Key Value → Option Bool}
    {members : List (Key Value)}
    (h : ∀ stored ∈ members, Unnoticed c R (isKey key stored) (same stored)) :
    Unnoticed c R (hasMember key members) (members.anyM same) := by
  induction members with
  | nil => exact .pure false
  | cons stored members ih =>
    obtain ⟨hstored, hmembers⟩ := List.forall_mem_cons.mp h
    rw [hasMember, List.anyM]
    refine hstored.bind fun b _ => ?_
    cases b
    · exact ih hmembers
    · exact .pure true

/-- A key that can be hashed is looked up by its hash, whatever it is. -/
theorem unnoticed_containsMember {key : Key Value} {same : Key Value → Option Bool}
    {members : List (Key Value)} (hhash : Unnoticed c R (hash key.value) (some key.hash))
    (h : ∀ stored ∈ members, Unnoticed c R (isKey key stored) (same stored)) :
    Unnoticed c R (containsMember members key.value) (members.anyM same) := by
  intro s s' hs
  obtain ⟨s₁, hs₁, hhash⟩ := hhash s s' hs
  obtain ⟨s₂, hs₂, hmember⟩ := unnoticed_hasMember h s₁ s' hs₁
  refine ⟨s₂, hs₂, ?_⟩
  have hcontains : exec c (containsMember members key.value) s = exec c (hasMember key members) s₁ := by
    rw [containsMember, exec_bind, exec_heap, Ending.andThen_ok]
    split
    · simp only [exec_bind, exec_recovering, show exec c (hash key.value) s = .ok key.hash s₁ from hhash,
        Ending.andThen_ok, Option.getD_some]
    · simp only [keyed, exec_bind, show exec c (hash key.value) s = .ok key.hash s₁ from hhash,
        Ending.andThen_ok, exec_pure]
  rw [hcontains]
  exact hmember

/-- Looking up keys among the allowed ones. -/
theorem unnoticed_within {allowed keys : List (Key Value)}
    {same : Key Value → Key Value → Option Bool}
    (hhash : ∀ key ∈ keys, Unnoticed c R (hash key.value) (some key.hash))
    (h : ∀ key ∈ keys, ∀ stored ∈ allowed, Unnoticed c R (isKey key stored) (same stored key)) :
    Unnoticed c R (Glance.within allowed (keys.map (·.value))).read
      (keys.allM fun key => allowed.anyM (same · key)) := by
  rw [Glance.read]
  induction keys with
  | nil => exact .pure true
  | cons key keys ih =>
    obtain ⟨hkeyHash, hhash⟩ := List.forall_mem_cons.mp hhash
    obtain ⟨hkey, h⟩ := List.forall_mem_cons.mp h
    rw [List.map_cons, List.allM, List.allM]
    refine (unnoticed_containsMember hkeyHash hkey).bind fun b _ => ?_
    cases b
    · exact .pure false
    · exact ih hhash h

end Unnoticed

/-! ## Keys -/

section Keys

variable {same : Key Value → Key Value → Option Bool} {allowed keys : List (Key Value)}

/-- Whether a key is found among the allowed ones: it is the same as one of them, and no comparison
fails before that is known. -/
def IsAllowed (same : Key Value → Key Value → Option Bool) (allowed : List (Key Value))
    (key : Key Value) : Prop :=
  allowed.anyM (same · key) = some true

theorem IsAllowed.exists_same {key : Key Value} (h : IsAllowed same allowed key) :
    ∃ stored ∈ allowed, same stored key = some true := by
  induction allowed with
  | nil => cases h
  | cons stored allowed ih =>
    rw [IsAllowed, List.anyM] at h
    rcases hstored : same stored key with _ | _ | _
    · rw [hstored] at h
      cases h
    · rw [hstored] at h
      obtain ⟨stored', hmem, hsame⟩ := ih h
      exact ⟨stored', List.mem_cons_of_mem _ hmem, hsame⟩
    · exact ⟨stored, List.mem_cons_self, hstored⟩

theorem allM_eq_some_true {α : Type} {p : α → Option Bool} {as : List α} :
    as.allM p = some true ↔ ∀ a ∈ as, p a = some true := by
  induction as with
  | nil => simp
  | cons a as ih =>
    rw [List.allM, List.forall_mem_cons, ← ih]
    rcases p a with _ | _ | _ <;> simp

/-- **Distinct keys that are all allowed are no more in number than the allowed ones.**  Two of them
cannot be the same as one allowed key. -/
theorem length_le_of_isAllowed
    (hequivalence : KeyEquivalence (· ∈ allowed ++ keys) fun key key' => same key key' == some true)
    (hdistinct : keys.Pairwise fun key key' => same key key' ≠ some true)
    (hallowed : ∀ key ∈ keys, IsAllowed same allowed key) : keys.length ≤ allowed.length := by
  let place (key : Key Value) : Nat := allowed.findIdx fun stored => same stored key == some true
  have hplace : ∀ key ∈ keys, ∃ h : place key < allowed.length,
      (same allowed[place key] key == some true) = true := by
    intro key hkey
    obtain ⟨stored, hstored, hsame⟩ := (hallowed key hkey).exists_same
    have hlt := List.findIdx_lt_length_of_exists (p := fun stored => same stored key == some true)
      ⟨stored, hstored, by rw [hsame]; rfl⟩
    exact ⟨hlt, List.findIdx_getElem (w := hlt)⟩
  have hnodup : (keys.map place).Nodup := by
    refine List.pairwise_map.mpr (hdistinct.imp_of_mem fun {key key'} hkey hkey' hne heq => hne ?_)
    obtain ⟨hlt, hsame⟩ := hplace key hkey
    obtain ⟨hlt', hsame'⟩ := hplace key' hkey'
    have hstored : allowed[place key] ∈ allowed ++ keys :=
      List.mem_append_left _ (List.getElem_mem hlt)
    have hkey : key ∈ allowed ++ keys := List.mem_append_right _ hkey
    have hkey' : key' ∈ allowed ++ keys := List.mem_append_right _ hkey'
    simp only [← heq] at hsame'
    exact beq_iff_eq.mp (hequivalence.trans hkey hstored hkey'
      (hequivalence.symm hstored hkey hsame) hsame')
  have hsub : keys.map place ⊆ List.range allowed.length := by
    intro i hi
    obtain ⟨key, hkey, rfl⟩ := List.mem_map.mp hi
    obtain ⟨hlt, -⟩ := hplace key hkey
    exact List.mem_range.mpr hlt
  have hle := (hnodup.subperm hsub).length_le
  rwa [List.length_map, List.length_range] at hle

end Keys

/-- A mapping lists distinct keys that can be hashed, and it is known how they compare with each other
and with the allowed ones.  Only a strict product reads them, and whoever does not read them does not
notice. -/
structure ListsKeys (c : Conduct) (R : Session → Session → Prop) (x : Value)
    (allowed keys : List (Key Value)) (same : Key Value → Key Value → Option Bool) : Prop where
  /-- It is a mapping. -/
  mapping (s s' : Session) (hs : R s s') : ∃ s₁ s₁', R s₁ s₁' ∧
    exec c (Look.mapping x).read s = .ok true s₁ ∧ exec c (Look.mapping x).read s' = .ok true s₁'
  /-- These are its keys. -/
  lists : Unnoticed c R (Glance.keys x).read (some (keys.map (·.value)))
  /-- They can be hashed. -/
  hashes (key : Key Value) (hkey : key ∈ keys) : Unnoticed c R (hash key.value) (some key.hash)
  /-- This is how they compare. -/
  compares (key : Key Value) (hkey : key ∈ keys) (stored : Key Value)
    (hstored : stored ∈ allowed ++ keys) : Unnoticed c R (isKey key stored) (same stored key)
  /-- To be the same key is an equivalence. -/
  equivalence : KeyEquivalence (· ∈ allowed ++ keys) fun key key' => same key key' == some true
  /-- No key is listed twice. -/
  distinct : keys.Pairwise fun key key' => same key key' ≠ some true

/-! ## Courses -/

/-- A glance that has given something has read it. -/
theorem Run.exec_of_guarded {α : Type} {c : Conduct} {m : Run α} {a : α} {s s' : Session}
    (h : exec c (guarded m) s = .ok (some a) s') : exec c m s = .ok a s' := by
  rw [guarded, exec_recovering] at h
  rcases hm : exec c m s with ⟨b, t⟩ | ⟨e, t⟩
  · rw [hm] at h
    cases h
    rfl
  · rw [hm] at h
    dsimp only at h
    split at h <;> cases h

namespace Check

open Dialogue

variable {κ : Type} {answer : κ → Value → Run Bool} {c : Conduct} {R : Session → Session → Prop}
  {x : Value} {fields : List (Name × κ)} {allowed keys : List (Key Value)}
  {same : Key Value → Key Value → Option Bool} {s s' : Session}

/-- What becomes of a field is the same in related sessions: reading it, and asking about what has been
read. -/
def FieldIsBlind (answer : κ → Value → Run Bool) (c : Conduct) (R : Session → Session → Prop)
    (x : Value) (field : Name × κ) : Prop :=
  Blind c R (Glance.get x field.1).read ∧
    ∀ v s s' t, R s s' → exec c (Glance.get x field.1).read s = .ok v t →
      Blind c R (answer field.2 v)

theorem fieldsDialogue_alike (hfields : ∀ field ∈ fields, FieldIsBlind answer c R x field)
    (hs : R s s') : ((fieldsDialogue x fields).course answer c s).Alike R (fun _ _ v w => v = w)
      ((fieldsDialogue x fields).course answer c s') := by
  induction fields generalizing s s' with
  | nil => exact alike_done true hs
  | cons field fields ih =>
    obtain ⟨⟨hget, hask⟩, hfields⟩ := List.forall_mem_cons.mp hfields
    refine alike_glance (hget s s' hs) fun v? s₁ s₁' hs₁ hv => ?_
    rcases v? with _ | v
    · exact alike_done false hs₁
    · exact alike_ask_goOn rfl rfl hs₁ (hask v s s' s₁ hs (exec_of_guarded hv) s₁ s₁' hs₁)
        fun s₂ s₂' hs₂ _ => ih hfields hs₂

/-- **Strict is loose and the containment of keys.**  If all keys of a mapping are allowed, then they
are no more in number than the allowed ones, and a strict check asks and ends as a loose one does.
Otherwise it refuses, and nothing is asked. -/
theorem course_strict (hkeys : ListsKeys c R x allowed keys same)
    (hfields : ∀ field ∈ fields, FieldIsBlind answer c R x field) (hs : R s s') :
    let strict := ((Check.object fields (some allowed)).dialogue x).course answer c s
    let loose := ((Check.object fields none).dialogue x).course answer c s'
    ((∀ key ∈ keys, IsAllowed same allowed key) → keys.length ≤ allowed.length ∧
      strict.Alike R (fun _ _ v w => v = w) loose) ∧
    ((∃ key ∈ keys, ¬IsAllowed same allowed key) → strict.RefusesAtOnce) := by
  intro strict loose
  obtain ⟨s₁, s₁', hs₁, hmapping, hmapping'⟩ := hkeys.mapping s s' hs
  obtain ⟨s₂, hs₂, hlists⟩ := hkeys.lists s₁ s₁' hs₁
  have hlists : exec c (Glance.keys x).read s₁ = .ok (keys.map (·.value)) s₂ := hlists
  have hwithin := unnoticed_within hkeys.hashes fun key hkey stored hstored =>
    hkeys.compares key hkey stored (List.mem_append_left _ hstored)
  obtain ⟨s₃, hs₃, hwithin⟩ := hwithin s₂ s₁' hs₂
  refine ⟨fun hall => ?_, fun hnot => ?_⟩
  · have hle := length_le_of_isAllowed hkeys.equivalence hkeys.distinct hall
    refine ⟨hle, ?_⟩
    rw [allM_eq_some_true.mpr hall] at hwithin
    have hwithin : exec c (Glance.within allowed (keys.map (·.value))).read s₂ = .ok true s₃ := hwithin
    refine alike_look_left hmapping (alike_look_right hmapping' ?_)
    refine alike_glance_left hlists ?_
    have hnlt : ¬allowed.length < (keys.map (·.value)).length := by
      rw [List.length_map]
      exact Nat.not_lt_of_le hle
    simp only [hnlt, if_false]
    exact alike_glance_left hwithin (fieldsDialogue_alike hfields hs₃)
  · refine refusesAtOnce_look hmapping (refusesAtOnce_glance hlists ?_)
    have hne : keys.allM (fun key => allowed.anyM (same · key)) ≠ some true := by
      obtain ⟨key, hkey, hnot⟩ := hnot
      exact fun hall => hnot (allM_eq_some_true.mp hall key hkey)
    dsimp only
    split
    · exact refusesAtOnce_done
    · rcases hall : keys.allM (fun key => allowed.anyM (same · key)) with _ | _ | _
      · rw [hall] at hwithin
        obtain ⟨e, he, hordinary⟩ := hwithin
        exact refusesAtOnce_glance_error he hordinary refusesAtOnce_done
      · rw [hall] at hwithin
        exact refusesAtOnce_glance (a := false) hwithin refusesAtOnce_done
      · exact absurd hall hne

end Check

/-! ## Inquiries -/

/-- The inquiry of a loose product is blind about a value, if reading each field is, and so is the
inquiry of the field about what has been read. -/
theorem Ask.isBlind_inquiry_loose {c : Conduct} {R : Session → Session → Prop}
    {answer : Query Value → Value → Run Bool} (id : Nat) (name : Name) (f : Facets) (id' : Nat)
    {fields : List (Name × Value)} {x : Value} (hmapping : Blind c R (Look.mapping x).read)
    (hfields : ∀ field ∈ fields, Blind c R (Glance.get x field.1).read ∧
      ∀ v s s' t, R s s' → exec c (Glance.get x field.1).read s = .ok v t →
        (inquiry field.2 v).IsBlind c R answer) :
    (inquiry (.predicate id name f (.rule id' (.object fields none))) x).IsBlind c R answer := by
  have hasked : ((Check.fieldsDialogue x (inquiryFields fields)).inline fun d => d).IsBlind c R
      answer := by
    induction fields with
    | nil => exact .done true
    | cons field fields ih =>
      obtain ⟨⟨hget, hask⟩, hfields⟩ := List.forall_mem_cons.mp hfields
      refine .glance hget fun v? s s' t hs hv => ?_
      rcases v? with _ | v
      · exact .done false
      · refine (hask v s s' t hs (exec_of_guarded hv)).bind fun b => ?_
        cases b with
        | false => exact .done false
        | true => exact ih hfields
  refine .look hmapping fun b _ _ _ _ _ => ?_
  cases b with
  | false => exact .done false
  | true => exact hasked

end ValueShape
