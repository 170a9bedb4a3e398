import ValueShape.Proofs.Build.Quiet
import ValueShape.Proofs.Build.Reach

/-!
# Taking the optional facet off in well-formed sessions

What `make_required` does with the predicates of a session that is well-formed, as far as the register
tells what they were built around.

* `Session.WellFormed.wraps_optional` and `Session.WellFormed.wraps_readonly` read a layer off the
  register: the predicate has the facet, and keeps the other one of what is inside.
* There is no readonly layer inside a readonly layer (`Session.WellFormed.not_readonly`), so what has
  the optional facet has an optional layer on top or under one readonly layer, or else no modifier has
  given it the facet.
* `Session.Strips s p q` says that `q` is left when the optional layer is taken out of `p`.  What is
  left is the result, or inside the result as a readonly layer (`Run.settles_required_strips`).
* `Run.refused_required_iff` says that the predicates with the facet from which nothing can be taken
  out in this way are refused, and no others.
-/

set_option autoImplicit false

namespace ValueShape

open Run

variable {kept : Nat → Prop} {s s' : Session}

/-! ## Layers in the register

`make_required` finds its way down by metadata.  In a well-formed session this is the way that was
taken up when the layers were built. -/

namespace Session

/-- What is registered under a name that the library relies on fits. -/
theorem WellFormed.fits (hs : s.WellFormed kept) {p : Value} {factory : String} {args : List Value}
    (hp : s.Ascribes p factory args) (hfactory : isReserved factory = true) :
    s.heap.Fits kept p factory args := by
  obtain ⟨id, id', hrecords⟩ := hp
  obtain ⟨place, hplace, -⟩ := hrecords.entry
  obtain ⟨_, _, name, args', heq, hfits⟩ :=
    (hs.sanctions place _ hplace ⟨factory, rfl, hfactory⟩).record
  cases heq
  exact hfits

theorem WellFormed.wraps_optional (hs : s.WellFormed kept) {p : Value} {args : List Value}
    (hp : s.Ascribes p Modifier.optional.name args) :
    ∃ q r, args = [q] ∧ s.Wraps .optional ⟨true, r⟩ p q ∧ ∀ f, q.Tells f → f = ⟨false, r⟩ := by
  have hfits := hs.fits hp (by decide)
  generalize hfactory : Modifier.optional.name = factory at hfits
  cases hfits with
  | @optional id id' name r q hid hcallable hfacets =>
    obtain ⟨_, _, hrecords⟩ := hp
    exact ⟨q, r, rfl, .mk hid (.optional id' q) hrecords, hfacets⟩
  | readonly | object => exact absurd hfactory (by decide)
  | other hname => exact absurd hname (by rw [← hfactory]; decide)

theorem WellFormed.wraps_readonly (hs : s.WellFormed kept) {p : Value} {args : List Value}
    (hp : s.Ascribes p Modifier.readonly.name args) :
    ∃ q o, args = [q] ∧ s.Wraps .readonly ⟨o, true⟩ p q ∧ ∀ f, q.Tells f → f = ⟨o, false⟩ := by
  have hfits := hs.fits hp (by decide)
  generalize hfactory : Modifier.readonly.name = factory at hfits
  cases hfits with
  | @readonly id name o q hid hcallable hfacets =>
    obtain ⟨_, _, hrecords⟩ := hp
    exact ⟨q, o, rfl, .mk hid (.readonly q) hrecords, hfacets⟩
  | optional | object => exact absurd hfactory (by decide)
  | other hname => exact absurd hname (by rw [← hfactory]; decide)

/-- **There is no readonly layer inside a readonly layer.** -/
theorem WellFormed.not_readonly (hs : s.WellFormed kept) {p q : Value}
    (hp : s.Ascribes p Modifier.readonly.name [q]) (args : List Value) :
    ¬ s.Ascribes q Modifier.readonly.name args := by
  intro hq
  obtain ⟨_, o, heq, -, hfacets⟩ := hs.wraps_readonly hp
  cases heq
  obtain ⟨q', o', -, hwraps, -⟩ := hs.wraps_readonly hq
  obtain ⟨-, -, -⟩ := hwraps
  cases hfacets _ (Value.tells_predicate _ _ _ _)

/-- What is inside a readonly layer with the optional facet has that facet, if it is a predicate. -/
theorem WellFormed.optional_of_readonly (hs : s.WellFormed kept) {p : Value} {id : Nat} {name : Name}
    {r : Bool} {decider : Value}
    (hp : s.Ascribes p Modifier.readonly.name [.predicate id name ⟨true, r⟩ decider]) :
    s.Wraps .readonly ⟨true, true⟩ p (.predicate id name ⟨true, r⟩ decider) := by
  obtain ⟨_, o, heq, hwraps, hfacets⟩ := hs.wraps_readonly hp
  cases heq
  cases hfacets _ (Value.tells_predicate _ _ _ _)
  exact hwraps

/-- When the optional layer is taken out of a predicate, this is left.  The layer may be under a
readonly one. -/
inductive Strips (s : Session) (p q : Value) : Prop
  | optional (hp : s.Ascribes p Modifier.optional.name [q])
  | readonly {inner : Value} (hp : s.Ascribes p Modifier.readonly.name [inner])
      (hinner : s.Ascribes inner Modifier.optional.name [q])

/-- No modifier has built a predicate, as far as the register tells: there is no entry with its
identity, or the library has registered it under another name. -/
def BuiltByHand (s : Session) (id : Nat) (p : Value) : Prop :=
  (∀ r ∈ s.register, r.key.hash.same (.token (.id id)) = false) ∨
    ∃ factory args, s.Ascribes p factory args ∧
      factory ≠ Modifier.optional.name ∧ factory ≠ Modifier.readonly.name

/-- A predicate is named by a text, and if anything is registered under its identity, then it is a
record of the library. -/
inductive Plain (s : Session) : Value → Prop
  | mk {id idName : Nat} {text : String} {f : Facets} {decider : Value} (hid : id ≠ 0)
      (hrecord : (∀ r ∈ s.register, r.key.hash.same (.token (.id id)) = false) ∨
        ∃ factory args, s.Ascribes (.predicate id ⟨text, .kind .text, idName⟩ f decider) factory args) :
      Plain s (.predicate id ⟨text, .kind .text, idName⟩ f decider)

end Session

namespace Run

variable (host : Host) (n : Nat)

/-! ## Taking layers off -/

/-- An optional layer inside a readonly layer is taken out, and the rest is made readonly again. -/
theorem exec_required_readonly (hs : s.WellFormed kept) {p q q' : Value}
    (hp : s.Ascribes p Modifier.readonly.name [q]) (hq : s.Ascribes q Modifier.optional.name [q'])
    (hq' : q'.isIdentified = true) :
    ∃ s', s.LeadsTo s' ∧ s'.Sound ∧ exec (Ask.conduct host (n + 1)) (Build.required p) s =
      exec (Ask.conduct host (n + 1)) (Build.readonly q') s' := by
  have hI : Session.Steadfast Session.Sound := Session.lasting_sound
  obtain ⟨_, r, heq, hinner, -⟩ := hs.wraps_optional hq
  cases heq
  have hlayer : s.Wraps .readonly ⟨true, true⟩ p q := by
    obtain ⟨-, -, -⟩ := hinner
    exact hs.optional_of_readonly hp
  obtain ⟨fuel, hfuel⟩ := Nat.exists_eq_succ_of_ne_zero hlayer.register_ne
  obtain ⟨s₁, hle₁, hs₁, -, hexec₁⟩ := exec_requiredUpTo_layer host n hI hs.sound (by decide) hlayer
    hinner.identified (fuel + 1)
  obtain ⟨s₂, hle₂, hs₂, -, hexec₂⟩ := exec_requiredUpTo_layer host n hI hs₁ (by decide)
    (hinner.leadsTo hle₁) hq' fuel
  have hrest : exec (Ask.conduct host (n + 1)) (Build.requiredUpTo (fuel + 1) q) s₁ = .ok q' s₂ :=
    hexec₂
  refine ⟨s₂, hle₁.trans hle₂, hs₂, ?_⟩
  rw [exec_required, hfuel]
  refine hexec₁.trans ?_
  change exec _ (do Build.readonly (← Build.requiredUpTo (fuel + 1) q)) s₁ = _
  rw [exec_bind, hrest, Ending.andThen_ok]

/-- What is readonly already is returned, and what is not is wrapped. -/
theorem settles_readonly_or_noop (hs : s.Sound) {q : Value} {f : Facets}
    (hq : q.Presents (Ask.conduct host (n + 1)) Session.Sound f) :
    Settles (Ask.conduct host (n + 1)) Session.Sound s (Build.readonly q) fun w s' =>
      w = q ∨ s'.Wraps .readonly ⟨f.optional, true⟩ w q := by
  have hI : Session.Steadfast Session.Sound := Session.lasting_sound
  obtain ⟨o, _ | _⟩ := f
  · exact (settles_readonly host n hI hq hs).mono fun _ _ _ _ => .inr
  · exact (settles_readonly_noop host n hI hq hs).mono fun _ _ _ _ => .inl

/-- **What is left of a predicate without its optional layer is returned**, inside a readonly layer if
it was in one. -/
theorem settles_required_strips (hs : s.WellFormed kept) {p q : Value} (h : s.Strips p q) {f : Facets}
    (hq : q.Presents (Ask.conduct host (n + 1)) Session.Sound f) :
    Settles (Ask.conduct host (n + 1)) Session.Sound s (Build.required p) fun w s' =>
      w = q ∨ s'.Wraps .readonly ⟨f.optional, true⟩ w q := by
  have hI : Session.Steadfast Session.Sound := Session.lasting_sound
  cases h with
  | optional hp =>
    obtain ⟨_, r, heq, hwraps, -⟩ := hs.wraps_optional hp
    cases heq
    rw [Settles, exec_required]
    exact (settles_required_optional host n hI hs.sound hwraps hq.identified _).mono
      fun _ _ _ _ => .inl
  | readonly hp hinner =>
    obtain ⟨s₁, hle, hs₁, hexec⟩ := exec_required_readonly host n hs hp hinner hq.identified
    obtain ⟨w, s₂, hw, hle', hrest⟩ := settles_readonly_or_noop host n hs₁ hq
    exact ⟨w, s₂, hexec.trans hw, hle.trans hle', hrest⟩

/-! ## Refusing -/

theorem exec_wrapper?_none (hs : s.heap.Intact) {factory : String}
    (hoptional : factory ≠ Modifier.optional.name) (hreadonly : factory ≠ Modifier.readonly.name)
    (id : Nat) (args : Value) :
    exec (Ask.conduct host (n + 1))
      (Build.wrapper? (.metadata (.kind .metadata) id (.kept factory) args)) s = .ok none s := by
  rw [Build.wrapper?, exec_bind, exec_isNamed host n hs, Ending.andThen_ok,
    beq_eq_false_iff_ne.mpr hoptional, if_neg Bool.false_ne_true, exec_bind, exec_isNamed host n hs,
    Ending.andThen_ok, beq_eq_false_iff_ne.mpr hreadonly, if_neg Bool.false_ne_true, exec_pure]

/-- What no modifier has built keeps the optional facet. -/
theorem refused_required_byHand (hs : s.Sound) {id : Nat} (hid : id ≠ 0) {text : String}
    {idName : Nat} {r : Bool} {decider : Value}
    (hp : s.BuiltByHand id (.predicate id ⟨text, .kind .text, idName⟩ ⟨true, r⟩ decider))
    (fuel : Nat) :
    Refused (Ask.conduct host (n + 1)) s Modifier.required.name
      (Build.requiredUpTo (fuel + 1) (.predicate id ⟨text, .kind .text, idName⟩ ⟨true, r⟩ decider)) := by
  have hI : Session.Steadfast Session.Sound := Session.lasting_sound
  have hi := hs.intact
  have hpresents := Value.Presents.predicate (c := Ask.conduct host (n + 1)) hI id
    ⟨text, .kind .text, idName⟩ ⟨true, r⟩ decider
  have hrefuse : Refused (Ask.conduct host (n + 1)) s Modifier.required.name (do
      throw (.refusal Modifier.required.name ("cannot unwrap optional predicate " ++
        (← shown (← displayName (.predicate id ⟨text, .kind .text, idName⟩ ⟨true, r⟩ decider))) ++
          ": it was not produced by make_optional")) : Run Value) := by
    rw [← bind_assoc]
    exact Settles.refused (quietly_shown_displayName hI hs host n id text idName ⟨true, r⟩ decider)
      fun text' s' _ _ _ => ⟨_, s', rfl⟩
  rw [Build.requiredUpTo]
  refine .after (exec_requireCallable hpresents hs _ _) (.after (exec_isOptional _ hi _ _ _ _) ?_)
  rw [truth_bool, pure_bind, Bool.not_true, if_neg Bool.false_ne_true]
  rcases hp with hnone | ⟨factory, args, ⟨idRecord, idArgs, hrecords⟩, hoptional, hreadonly⟩
  · exact .after (exec_metadata?_none host n _ _ _ _ hi hnone) hrefuse
  · refine .after (exec_metadata?_some host n _ _ _ _ hs hid hrecords) ?_
    exact .after (exec_wrapper?_none host n hi hoptional hreadonly _ _) hrefuse

/-- What no modifier has built keeps the optional facet inside a readonly layer, too. -/
theorem refused_required_inside (hs : s.WellFormed kept) {p : Value} {id : Nat} (hid : id ≠ 0)
    {text : String} {idName : Nat} {r : Bool} {decider : Value}
    (hp : s.Ascribes p Modifier.readonly.name
      [.predicate id ⟨text, .kind .text, idName⟩ ⟨true, r⟩ decider])
    (hq : s.BuiltByHand id (.predicate id ⟨text, .kind .text, idName⟩ ⟨true, r⟩ decider)) :
    Refused (Ask.conduct host (n + 1)) s Modifier.required.name (Build.required p) := by
  have hwraps := hs.optional_of_readonly hp
  obtain ⟨fuel, hfuel⟩ := Nat.exists_eq_succ_of_ne_zero hwraps.register_ne
  obtain ⟨s₁, hle, hs₁, hregister, hexec⟩ := exec_requiredUpTo_layer host n Session.lasting_sound
    hs.sound (by decide) hwraps rfl (fuel + 1)
  have hq₁ : s₁.BuiltByHand id (.predicate id ⟨text, .kind .text, idName⟩ ⟨true, r⟩ decider) := by
    rcases hq with hnone | ⟨factory, args, hascribes, hne⟩
    · exact .inl (by rwa [hregister])
    · exact .inr ⟨factory, args, hascribes.leadsTo hle, hne⟩
  obtain ⟨detail, s₂, hdetail⟩ :=
    (refused_required_byHand host n hs₁ hid hq₁ fuel).bind Build.readonly
  rw [Refused, exec_required, hfuel]
  exact ⟨detail, s₂, hexec.trans hdetail⟩

theorem Settles.not_refused {c : Conduct} {I : Session → Prop} {m : Run Value}
    {P : Value → Session → Prop} (hm : Settles c I s m P) (factory : String) :
    ¬ Refused c s factory m := by
  rintro ⟨detail, s₁, herror⟩
  obtain ⟨v, s₂, hok, -⟩ := hm
  cases hok.symm.trans herror

/-- **The optional facet is taken off exactly where there is a layer to take out.**  Among the
predicates that the register tells of plainly, those with the facet from which no layer can be taken out
are refused. -/
theorem refused_required_iff (hs : s.WellFormed kept) {id idName : Nat} {text : String} {f : Facets}
    {decider : Value} (hp : s.Plain (.predicate id ⟨text, .kind .text, idName⟩ f decider))
    (hlayer : f.optional = true → ∀ q, s.Ascribes (.predicate id ⟨text, .kind .text, idName⟩ f decider)
      Modifier.readonly.name [q] → s.Plain q)
    (hrest : ∀ q, s.Strips (.predicate id ⟨text, .kind .text, idName⟩ f decider) q →
      ∃ f', q.Presents (Ask.conduct host (n + 1)) Session.Sound f') :
    Refused (Ask.conduct host (n + 1)) s Modifier.required.name
        (Build.required (.predicate id ⟨text, .kind .text, idName⟩ f decider)) ↔
      f.optional = true ∧ ∀ q, ¬ s.Strips (.predicate id ⟨text, .kind .text, idName⟩ f decider) q := by
  have hI : Session.Steadfast Session.Sound := Session.lasting_sound
  obtain ⟨o, r⟩ := f
  constructor
  · intro hrefused
    cases o with
    | false =>
      have hnoop := settles_required_noop host n hI (Value.Presents.predicate hI id
        ⟨text, .kind .text, idName⟩ ⟨false, r⟩ decider) hs.sound s.register.length
      rw [Refused, exec_required] at hrefused
      exact absurd hrefused (hnoop.not_refused _)
    | true =>
      refine ⟨rfl, fun q hq => ?_⟩
      obtain ⟨f', hq'⟩ := hrest q hq
      exact (settles_required_strips host n hs hq hq').not_refused _ hrefused
  · rintro ⟨rfl, hnone⟩
    -- What is registered for a predicate by a modifier would be a layer.
    have hbyHand {q : Value} (hq : s.Plain q)
        (hoptional : ∀ q', ¬ s.Ascribes q Modifier.optional.name [q'])
        (hreadonly : ∀ args, ¬ s.Ascribes q Modifier.readonly.name args) :
        ∃ id text idName f decider, id ≠ 0 ∧ q = .predicate id ⟨text, .kind .text, idName⟩ f decider ∧
          s.BuiltByHand id q := by
      obtain ⟨hid, hrecord⟩ := hq
      refine ⟨_, _, _, _, _, hid, rfl, hrecord.imp_right ?_⟩
      rintro ⟨factory, args, hascribes⟩
      refine ⟨factory, args, hascribes, ?_, ?_⟩
      · rintro rfl
        obtain ⟨q', r', rfl, -⟩ := hs.wraps_optional hascribes
        exact hoptional q' hascribes
      · rintro rfl
        exact hreadonly args hascribes
    by_cases hreadonly : ∃ args, s.Ascribes
        (.predicate id ⟨text, .kind .text, idName⟩ ⟨true, r⟩ decider) Modifier.readonly.name args
    · obtain ⟨args, hascribes⟩ := hreadonly
      obtain ⟨q, o, rfl, hwraps, hfacets⟩ := hs.wraps_readonly hascribes
      obtain ⟨id', text', idName', f', decider', hid', rfl, hq⟩ :=
        hbyHand (hlayer rfl q hascribes) (fun q' hq' => hnone q' (.readonly hascribes hq'))
          (hs.not_readonly hascribes)
      cases hfacets _ (Value.tells_predicate _ _ _ _)
      obtain ⟨-, -, -⟩ := hwraps
      exact refused_required_inside host n hs hid' hascribes hq
    · obtain ⟨_, _, _, _, _, hid, heq, hq⟩ := hbyHand hp (fun q hq => hnone q (.optional hq))
        fun args hargs => hreadonly ⟨args, hargs⟩
      cases heq
      rw [Refused, exec_required]
      exact refused_required_byHand host n hs.sound hid hq _

end Run

end ValueShape
