import Mathlib.Data.Finset.Defs
import ValueShape.Proofs.Ask.Lookup
import ValueShape.Proofs.Ask.Verdict

/-!
# Verdicts that imply each other

One product accepts whatever another one accepts, if this is so of everything that they look at.

* `Run.Implies c J m J' m'` says that two computations give the same verdict each time, and that the second
  one is positive if the first one is.  The first one is about the sessions of the invariant `J`, and the
  second one about those of `J'`.
* `Check.implies_object` goes from the fields to products.  The first product may be the stricter one.
* `Value.Stores` says what is known of a mapping whose keys stand for names, or for none.  Such a mapping
  gives the same verdict each time if its values do (`Value.Stores.decides_runField`).
* `withoutNames` are the entries that are left when some names are removed.
-/

set_option autoImplicit false

namespace ValueShape

open Run

/-! ## Implications

Both sides have to come to a verdict that is always the same, or to fail always.  An implication
between verdicts would say little if one side could fail where the other does not. -/

namespace Run

/-- Two computations always give the same verdict, or always fail.  If the first verdict is positive, so is
the second one. -/
def Implies (c : Conduct) (J : Session → Prop) (m : Run Bool) (J' : Session → Prop) (m' : Run Bool) :
    Prop :=
  ∃ b? b'?, Decides c J m b? ∧ Decides c J' m' b'? ∧ (b? = some true → b'? = some true)

namespace Implies

variable {c c' : Conduct} {J J' : Session → Prop} {m m' k k' : Run Bool} {b? : Option Bool}

theorem refl (hm : Decides c J m b?) : Implies c J m J m := ⟨b?, b?, hm, hm, id⟩

/-- What goes on with other computations. -/
theorem after (hk : Implies c' J k J' k') (hm : ∀ s, J s → exec c m s = exec c' k s)
    (hm' : ∀ s, J' s → exec c m' s = exec c' k' s) : Implies c J m J' m' := by
  obtain ⟨b?, b'?, hb, hb', himp⟩ := hk
  exact ⟨b?, b'?, hb.after fun s hs => ⟨s, hs, hm s hs⟩, hb'.after fun s hs => ⟨s, hs, hm' s hs⟩, himp⟩

/-- The second steps matter only if the first ones can be positive. -/
theorem andThen (hm : Implies c J m J' m')
    (hk : Decides c J' m' (some true) → Implies c J k J' k') :
    Implies c J (do if ← m then k else return false) J' (do if ← m' then k' else return false) := by
  obtain ⟨b?, b'?, hb, hb', himp⟩ := hm
  by_cases hpositive : b'? = some true
  · subst hpositive
    obtain ⟨d?, d'?, hd, hd', himp'⟩ := hk hb'
    refine ⟨_, _, hb.andThen fun _ => hd, hb'.andThen fun _ => hd', ?_⟩
    rcases b? with _ | _ | _
    · nofun
    · nofun
    · exact himp'
  · have hleft (h : b? = some true) : Decides c J k none := absurd (himp h) hpositive
    have hright (h : b'? = some true) : Decides c J' k' none := absurd h hpositive
    refine ⟨_, _, hb.andThen hleft, hb'.andThen hright, ?_⟩
    rcases b? with _ | _ | _ <;> nofun

/-- A condition more only makes the first verdict negative. -/
theorem of_andThen (hm : Decides c J m b?) (hk : Implies c J k J' k') :
    Implies c J (do if ← m then k else return false) J' k' := by
  obtain ⟨d?, d'?, hd, hd', himp⟩ := hk
  refine ⟨_, _, hm.andThen fun _ => hd, hd', ?_⟩
  rcases b? with _ | _ | _
  · nofun
  · nofun
  · exact himp

end Implies

end Run

/-! ## Products

The products are compared field by field.  The first refusal ends a check, so a field matters only
if those before it were accepted. -/

namespace Check

variable {c : Conduct} {J J' : Session → Prop} {x x' : Value} {ι : Type} {is : List ι}
  {name : ι → Name} {ask ask' : ι → Asked}

/-- One callable implies another one, if they are asked about what is read under the same name. -/
theorem implies_runField {name : Name} {ask ask' : Asked} {v? : Option Value}
    (hget : ∀ s, J s → ∃ s', exec c (guarded (getValue x (.ofName name) .undefined)) s = .ok v? s' ∧
      J s')
    (hask : ∀ v ∈ v?, Implies c J (ask.accepts v) J (ask'.accepts v)) :
    Implies c J (runField x name ask) J (runField x name ask') := by
  cases v? with
  | none =>
    have hrefused (ask : Asked) : Decides c J (runField x name ask) (some false) :=
      decides_runField (fun _ => none) hget fun v hv => nomatch hv
    exact ⟨_, _, hrefused ask, hrefused ask', id⟩
  | some v =>
    obtain ⟨b?, b'?, hb, hb', himp⟩ := hask v rfl
    have hasked {ask : Asked} {b? : Option Bool} (hb : Decides c J (ask.accepts v) b?) :
        Decides c J (runField x name ask) b? :=
      decides_runField (fun _ => b?) hget fun w hw => Option.some.inj hw ▸ hb
    exact ⟨_, _, hasked hb, hasked hb', himp⟩

theorem implies_runFields
    (h : ∀ i ∈ is, Implies c J (runField x (name i) (ask i)) J' (runField x' (name i) (ask' i))) :
    Implies c J (runFields x (is.map fun i => (name i, ask i))) J'
      (runFields x' (is.map fun i => (name i, ask' i))) := by
  induction is with
  | nil => exact ⟨_, _, .pure true, .pure true, id⟩
  | cons i is ih =>
    obtain ⟨hi, his⟩ := List.forall_mem_cons.mp h
    rw [List.map_cons, List.map_cons, runFields_cons, runFields_cons]
    exact hi.andThen fun _ => ih his

/-- **One product implies another one**, if both have the same names, its fields imply the other ones, and
it is strict if the other one is. -/
theorem implies_object {allowed : List (Key Value)} {strict strict' : Bool}
    (hstrict : strict' = true → strict = true)
    (hmapping : Implies c J (isOfKind x .mapping) J' (isOfKind x' .mapping))
    (hkeys : Decides c J' (isOfKind x' .mapping) (some true) → strict = true →
      Implies c J (runKeys allowed x) J' (runKeys allowed x'))
    (hfields : Decides c J' (isOfKind x' .mapping) (some true) → ∀ i ∈ is,
      Implies c J (runField x (name i) (ask i)) J' (runField x' (name i) (ask' i))) :
    Implies c J ((Check.object (is.map fun i => (name i, ask i))
        (if strict then some allowed else none)).run x) J'
      ((Check.object (is.map fun i => (name i, ask' i))
        (if strict' then some allowed else none)).run x') := by
  rw [run_object, run_object]
  refine hmapping.andThen fun hx => ?_
  have hrest := implies_runFields (hfields hx)
  cases strict with
  | false =>
    cases strict' with
    | false => exact hrest
    | true => cases hstrict rfl
  | true =>
    have hkeys := hkeys hx rfl
    cases strict' with
    | true => exact hkeys.andThen fun _ => hrest
    | false =>
      obtain ⟨_, -, hdecides, -⟩ := hkeys
      exact .of_andThen hdecides hrest

end Check

/-! ## Mappings -/

/-- A mapping has certain entries wherever an invariant holds, and each of its keys stands for a name, or
for none.  Only a strict product looks up the keys. -/
structure Value.Stores (textOf : Key Value → Option String) (c : Conduct) (J : Session → Prop)
    (names : List Name) (strict : Bool) (x : Value) (es : List Entry) : Prop where
  /-- The built-in classes are as they were in the beginning. -/
  spacious : Session.Spacious J
  /-- These are the entries. -/
  mapping : x.IsMappingOf J es
  /-- The keys stand for names. -/
  stand : StandFor textOf c (fun s _ => J s) names (es.map (·.1))
  /-- They can be looked up among the names. -/
  listed (hstrict : strict = true) : KeysListed textOf c (fun s _ => J s) names (es.map (·.1))

namespace Value.Stores

variable {textOf : Key Value → Option String} {c : Conduct} {J : Session → Prop} {names : List Name}
  {strict : Bool} {x : Value} {es : List Entry} (h : x.Stores textOf c J names strict es)
include h

theorem decides_mapping : Decides c J (isOfKind x .mapping) (some true) :=
  .verdict fun s hs => ⟨s, h.mapping.exec_isMapping h.spacious c hs, hs⟩

/-- What is read under a name is what is stored there, or the absent value. -/
theorem exec_get {name : Name} (hname : name ∈ names) (s : Session) (hs : J s) :
    ∃ s', exec c (guarded (getValue x (.ofName name) .undefined)) s =
      .ok (some ((storedUnder textOf es name).getD .undefined)) s' ∧ J s' := by
  obtain ⟨s', hs', hget⟩ := h.stand.unnoticed_get hname h.spacious h.mapping (fun _ _ hs => hs) s s hs
  have hget : exec c (getValue x (.ofName name) .undefined) s = .ok _ s' := hget
  exact ⟨s', by rw [guarded, exec_recovering, hget], hs'⟩

/-- The verdict on a field. -/
theorem decides_runField {name : Name} (hname : name ∈ names) {ask : Asked} {b? : Option Bool}
    (hask : Decides c J (ask.accepts ((storedUnder textOf es name).getD .undefined)) b?) :
    Decides c J (Check.runField x name ask) b? :=
  Check.decides_runField (fun _ => b?) (h.exec_get hname)
    fun _ hv => Option.some.inj hv ▸ hask

/-- The verdict on the keys. -/
theorem decides_runKeys (hstrict : strict = true) :
    Decides c J (Check.runKeys (names.map Name.key) x)
      (some (allNamed textOf names (es.map (·.1)))) := by
  have hlisted := h.listed hstrict
  refine .verdict fun s hs => ?_
  have hkeys := h.mapping.exec_keys h.spacious hlisted.identified (c := c) hs
  obtain ⟨s', hs', hwithin⟩ := hlisted.unnoticed_within s s hs
  have hkeys : exec c (readParts .keys x) s = .ok ((es.map (·.1)).map (·.value)) s := hkeys
  by_cases hlength : names.length < es.length
  · refine ⟨s, ?_, hs⟩
    have hnot : allNamed textOf names (es.map (·.1)) = false :=
      allNamed_eq_false_of_length_lt h.stand.distinct (by simpa using hlength)
    simp only [Check.runKeys, exec_bind, guarded, exec_recovering, hkeys, Ending.andThen_ok,
      List.length_map, hlength, if_true, exec_pure, hnot]
  · refine ⟨s', ?_, hs'⟩
    have hwithin : exec c (((es.map (·.1)).map (·.value)).allM (containsMember (names.map Name.key))) s =
        .ok (allNamed textOf names (es.map (·.1))) s' := hwithin
    simp only [Check.runKeys, exec_bind, guarded, exec_recovering, hkeys, Ending.andThen_ok,
      List.length_map, hlength, if_false, hwithin, exec_pure, Option.getD_some]

end Value.Stores

/-- A mapping of the built-in class with names for its keys. -/
theorem Name.ServeAsKeys.stores {c : Conduct} {J : Session → Prop} {names : List Name}
    (h : Name.ServeAsKeys c J names) (hJ : Session.Spacious J) {place : Nat} {own : List (Name × Value)}
    (hplace : ∀ s, J s → s.heap.HoldsFields place own) (hown : ∀ k ∈ own.map (·.1), k ∈ names)
    (hnodup : (fieldTexts own).Nodup) (strict : Bool) :
    (Value.ref place).Stores (·.value.text?) c J names strict (keyedFields own) := by
  have hkeys : (keyedFields own).map (·.1) = (own.map (·.1)).map Name.key := by
    rw [keyedFields, List.map_map, List.map_map]
    rfl
  have hnodup : ((own.map (·.1)).map Name.text).Nodup := by rwa [List.map_map]
  obtain ⟨hstand, hlisted⟩ :=
    h.standFor (R := fun s _ => J s) (fun _ _ hs => hs) (fun _ hk => hk) hown hnodup
  rw [← hkeys] at hstand hlisted
  exact ⟨hJ, .dict hplace, hstand, fun _ => hlisted⟩

/-! ### Entries that are removed -/

section Removed

variable (textOf : Key Value → Option String) (S : Finset String) (es : List Entry)

/-- The entries that are left when certain names are removed. -/
def withoutNames : List Entry := es.filter fun e => (textOf e.1).all (· ∉ S)

/-- Removed names are absent, and the others are stored as before. -/
theorem storedUnder_withoutNames (name : Name) : storedUnder textOf (withoutNames textOf S es) name =
    if name.text ∈ S then none else storedUnder textOf es name := by
  rw [storedUnder, withoutNames, List.find?_filter]
  by_cases hname : name.text ∈ S
  · rw [if_pos hname, Option.map_eq_none_iff, List.find?_eq_none]
    intro e _ hfound
    obtain ⟨hleft, hnamed⟩ := of_decide_eq_true hfound
    rw [beq_iff_eq.mp hnamed, Option.all_some, decide_eq_true_eq] at hleft
    exact hleft hname
  · have hsame (e : Entry) : decide ((textOf e.1).all (· ∉ S) = true ∧
        (textOf e.1 == some name.text) = true) = (textOf e.1 == some name.text) := by
      by_cases htext : textOf e.1 = some name.text
      · simp [htext, hname]
      · simp [htext]
    rw [if_neg hname, storedUnder]
    simp only [hsame]

theorem allNamed_withoutNames {names : List Name} (h : allNamed textOf names (es.map (·.1)) = true) :
    allNamed textOf names ((withoutNames textOf S es).map (·.1)) = true :=
  allNamed_of_sublist (List.filter_sublist.map _) h

end Removed

end ValueShape
