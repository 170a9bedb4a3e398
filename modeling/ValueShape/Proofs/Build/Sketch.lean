import ValueShape.Proofs.Build.Selection
import ValueShape.Proofs.Facet.NormalForm

/-!
# Sketches of callables

What is known of a callable that modifiers have been applied to, one after the other.

* A `Sketch` is what is known of a callable: it is given, or a modifier has built a layer around what
  is known.  `Sketch.Describes c I s k v` says that the callable `v` is as sketched.  A sketch leaves
  open which identities the layers have, and settles all that can be asked of the callable
  (`Sketch.Describes.steady`, `Sketch.Describes.asked_eq`).
* `Sketch.makeOptional`, `Sketch.makeReadonly` and `Sketch.makeRequired?` are what the modifiers make of
  a sketch, and `Sketch.settlesFrom_optional`, `Sketch.settlesFrom_readonly` and
  `Sketch.settlesFrom_required` say that they make callables as sketched.
-/

set_option autoImplicit false

namespace ValueShape

open Run

/-! ## Callables -/

/-- What is known of a callable. -/
inductive Sketch
  /-- The callable itself, its facets and how it is shown. -/
  | given (v : Value) (f : Facets) (text : String)
  /-- An optional layer. -/
  | optional (inner : Sketch)
  /-- A readonly layer. -/
  | readonly (inner : Sketch)

namespace Sketch

/-- The facets of a callable. -/
def facets : Sketch → Facets
  | given _ f _ => f
  | optional k => { k.facets with optional := true }
  | readonly k => { k.facets with readonly := true }

/-- The text that a callable is shown by. -/
def text : Sketch → String
  | given _ _ text => text
  | optional k => callTitle Modifier.optional.name [k.text]
  | readonly k => callTitle Modifier.readonly.name [k.text]

/-- What it means to ask a callable. -/
def asked (host : Host) : Sketch → Asked
  | given v _ _ => Ask.asked host v
  | optional k => fun x => do return .bool (← (Check.optional (k.asked host) : Check _ Value).run x)
  | readonly k => fun x => do return .bool (← (k.asked host).accepts x)

/-- With the optional facet. -/
def makeOptional (k : Sketch) : Sketch := if k.facets.optional then k else .optional k

/-- With the readonly facet. -/
def makeReadonly (k : Sketch) : Sketch := if k.facets.readonly then k else .readonly k

/-- Without the optional facet, unless it is not known where that comes from. -/
def makeRequired? (k : Sketch) : Option Sketch :=
  if k.facets.optional then
    match k with
    | given .. => none
    | optional k => some k
    | readonly k => k.makeRequired?.map makeReadonly
  else some k

theorem makeRequired?_of_not {k : Sketch} (h : k.facets.optional = false) :
    k.makeRequired? = some k := by
  rw [makeRequired?.eq_def, h, if_neg Bool.false_ne_true]

theorem makeRequired?_given {v : Value} {f : Facets} {text : String}
    (h : (given v f text).facets.optional = true) : (given v f text).makeRequired? = none :=
  if_pos h

theorem makeRequired?_optional (k : Sketch) : k.optional.makeRequired? = some k := rfl

theorem makeRequired?_readonly {k : Sketch} (h : k.facets.optional = true) :
    k.readonly.makeRequired? = k.makeRequired?.map makeReadonly := by
  rw [makeRequired?.eq_def]
  exact if_pos h

/-- A callable is as sketched, and the register tells so. -/
inductive Describes (c : Conduct) (I : Session → Prop) (s : Session) : Sketch → Value → Prop
  | given {v : Value} {f : Facets} {text : String} (hv : v.Steady c I f text) :
      Describes c I s (given v f text) v
  | optional {k : Sketch} {v w : Value} (hv : Describes c I s k v)
      (hfacets : k.facets.optional = false)
      (hw : s.Makes 0 (.optional v k.facets.readonly) k.optional.text w) :
      Describes c I s k.optional w
  | readonly {k : Sketch} {v w : Value} (hv : Describes c I s k v)
      (hfacets : k.facets.readonly = false)
      (hw : s.Makes 0 (.readonly v k.facets.optional) k.readonly.text w) :
      Describes c I s k.readonly w

namespace Describes

variable {c : Conduct} {I : Session → Prop} {s s' : Session} {k : Sketch} {v : Value}

theorem leadsTo (h : k.Describes c I s v) (hle : s.LeadsTo s') : k.Describes c I s' v := by
  induction h with
  | given hv => exact .given hv
  | optional _ hfacets hw ih =>
    exact .optional ih hfacets (hw.leadsTo hle fun _ ht => by cases ht; constructor)
  | readonly _ hfacets hw ih =>
    exact .readonly ih hfacets (hw.leadsTo hle fun _ ht => by cases ht; constructor)

/-- A sketch settles the facets and the text. -/
theorem steady (hI : Session.Abiding I) (h : k.Describes c I s v) :
    v.Steady c I k.facets k.text := by
  cases h with
  | given hv => exact hv
  | optional _ _ hw | readonly _ _ hw => exact hw.product.steady hI

theorem identified (hI : Session.Abiding I) (h : k.Describes c I s v) : v.isIdentified = true :=
  (h.steady hI).presents_self.identified

/-- A sketch settles what asking does. -/
theorem asked_eq (host : Host) (h : k.Describes c I s v) : Ask.asked host v = k.asked host := by
  induction h with
  | given => rfl
  | @optional k v w _ _ hw ih =>
    obtain ⟨⟨-, -, hdecides⟩, -⟩ := hw
    cases hdecides
    funext x
    rw [Ask.asked, Ask.callWith_predicate_rule, asked, ← ih]
    rfl
  | @readonly k v w _ _ hw ih =>
    obtain ⟨⟨-, -, hdecides⟩, -⟩ := hw
    cases hdecides
    funext x
    rw [Ask.asked, Ask.callWith_predicate, asked, ← ih]

/-- A layer is one that a modifier has built. -/
theorem wraps_optional {old : Nat} {r : Bool} {title : String} {w : Value}
    (hw : s.Makes old (.optional v r) title w) : s.Wraps .optional ⟨true, r⟩ w v := by
  obtain ⟨⟨_, hid, hdecides⟩, _, _, args, htold, hrecords⟩ := hw
  cases hdecides
  cases htold
  exact .mk hid (.optional ..) hrecords

theorem wraps_readonly {old : Nat} {o : Bool} {title : String} {w : Value}
    (hw : s.Makes old (.readonly v o) title w) : s.Wraps .readonly ⟨o, true⟩ w v := by
  obtain ⟨⟨_, hid, hdecides⟩, _, _, args, htold, hrecords⟩ := hw
  cases hdecides
  cases htold
  exact .mk hid (.readonly _) hrecords

end Describes

/-! ### Modifiers

Each modifier is a function on sketches, and does the same to the callables that are sketched. -/

section Modifiers

variable (host : Host) (n : Nat) {I : Session → Prop} {s : Session} (hI : Session.Abiding I)
  {k : Sketch} {v : Value} (hv : k.Describes (Ask.conduct host (n + 1)) I s v)
include hI hv

theorem settlesFrom_optional :
    SettlesFrom (Ask.conduct host (n + 1)) I s (Build.optional v) fun w s' =>
      k.makeOptional.Describes (Ask.conduct host (n + 1)) I s' w where
  settles ds s' hle hs' := by
    have hJ := (hI.keeping ds).toSteadfast
    have hsteady := (hv.steady hI).keeping ds
    have hv' := hv.leadsTo hle
    rw [makeOptional]
    rcases hfacets : k.facets with ⟨o, r⟩
    rw [hfacets] at hsteady
    cases o with
    | true =>
      exact (settles_optional_noop host n hJ hsteady.presents_self hs').mono
        fun w s'' hle' _ hw => hw ▸ hv'.leadsTo hle'
    | false =>
      have hoptional : Settles _ _ s' (Build.optional v) fun w s'' =>
          s''.Makes 0 (.optional v r) (callTitle Modifier.optional.name [k.text]) w :=
        settles_optionalOf host n hJ hs' hsteady
      refine hoptional.mono fun w s'' hle' _ hw => .optional (hv'.leadsTo hle') ?_ ?_
      · rw [hfacets]
      · rw [hfacets]
        exact hw
  lasts ha hle := ha.leadsTo hle

theorem settlesFrom_readonly :
    SettlesFrom (Ask.conduct host (n + 1)) I s (Build.readonly v) fun w s' =>
      k.makeReadonly.Describes (Ask.conduct host (n + 1)) I s' w where
  settles ds s' hle hs' := by
    have hJ := (hI.keeping ds).toSteadfast
    have hsteady := (hv.steady hI).keeping ds
    have hv' := hv.leadsTo hle
    rw [makeReadonly]
    rcases hfacets : k.facets with ⟨o, r⟩
    rw [hfacets] at hsteady
    cases r with
    | true =>
      exact (settles_readonly_noop host n hJ hsteady.presents_self hs').mono
        fun w s'' hle' _ hw => hw ▸ hv'.leadsTo hle'
    | false =>
      have hreadonly : Settles _ _ s' (Build.readonly v) fun w s'' =>
          s''.Makes 0 (.readonly v o) (callTitle Modifier.readonly.name [k.text]) w :=
        settles_readonlyOf host n hJ hs' hsteady
      refine hreadonly.mono fun w s'' hle' _ hw => .readonly (hv'.leadsTo hle') ?_ ?_
      · rw [hfacets]
      · rw [hfacets]
        exact hw
  lasts ha hle := ha.leadsTo hle

/-- A callable with the optional facet is unwrapped as far as it is known how it was wrapped. -/
theorem settlesFrom_required {k' : Sketch} (hk' : k.makeRequired? = some k') :
    SettlesFrom (Ask.conduct host (n + 1)) I s (Build.required v) fun w s' =>
      k'.Describes (Ask.conduct host (n + 1)) I s' w where
  settles ds s' hle hs' := by
    have hJ := (hI.keeping ds).toSteadfast
    rw [Build.required]
    refine .after (exec_get _ s') ?_
    have hv' := hv.leadsTo hle
    clear hv
    by_cases hfacets : k.facets.optional = true
    · cases hv' with
      | given => rw [makeRequired?_given hfacets] at hk'; cases hk'
      | @optional k v w hv _ hw =>
        obtain rfl : k = k' := Option.some.inj hk'
        exact (settles_required_optional host n hJ hs' (Describes.wraps_optional hw)
          (hv.identified hI) _).mono fun u s'' hle' _ hu => hu ▸ hv.leadsTo hle'
      | @readonly k v w hv hnot hw =>
        have hfacets : k.facets.optional = true := hfacets
        rw [hfacets] at hw
        rw [makeRequired?_readonly hfacets] at hk'
        -- Under a readonly layer there is no other one, so there has to be an optional one.
        cases hv with
        | given => rw [makeRequired?_given hfacets] at hk'; cases hk'
        | readonly => cases hnot
        | @optional k u v hu _ hv =>
          obtain rfl : k.makeReadonly = k' := Option.some.inj hk'
          have hwraps := Describes.wraps_readonly hw
          have hinner := Describes.wraps_optional hv
          obtain ⟨fuel, hfuel⟩ := Nat.exists_eq_succ_of_ne_zero hwraps.register_ne
          rw [hfuel]
          refine settles_required_readonly host n hJ hs' hwraps
            hinner.identified (fuel + 1) fun s₁ hle₁ hs₁ => ?_
          refine (settles_required_optional host n hJ hs₁
            (hinner.leadsTo hle₁)
            (hu.identified hI) fuel).bind fun t s₂ hle₂ hs₂ ht => ?_
          subst ht
          exact (settlesFrom_readonly host n hI (hu.leadsTo (hle₁.trans hle₂))).settles ds
            (.refl s₂) hs₂
    · have hsteady := ((hv'.steady hI).keeping ds).presents_self
      have hfacets : k.facets.optional = false := by simpa using hfacets
      obtain rfl : k = k' := by
        rw [makeRequired?_of_not hfacets] at hk'
        exact Option.some.inj hk'
      rcases hk : k.facets with ⟨o, r⟩
      rw [hk] at hsteady hfacets
      obtain rfl : o = false := hfacets
      exact (settles_required_noop host n hJ hsteady hs' _).mono
        fun u s'' hle' _ hu => hu ▸ hv'.leadsTo hle'
  lasts ha hle := ha.leadsTo hle

end Modifiers

end Sketch

end ValueShape
