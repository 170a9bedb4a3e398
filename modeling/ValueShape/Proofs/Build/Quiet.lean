import ValueShape.Proofs.Build.Title
import ValueShape.Proofs.Facet.Wrapping

/-!
# Refusals that leave no trace

What can be asked without anything being registered or written to the log, and what is refused in this way.

* `Session.Quiet s s'` says that the register and the log of `s'` are those of `s`.
* `Run.Quietly` is `Run.Settles`, and `Run.RefusedQuietly` is `Run.Refused`, for computations that leave
  such a session.
* `Value.Discreet c I told v` says that the metadata of `v`, if there is any, is as told, and that both this
  and the name of `v` can be asked quietly.  Predicates that are not registered are discreet
  (`Value.Discreet.of_unregistered`).
* `Value.OptionalByHand` are the discreet callables that have the optional facet, and no modifier is told to
  have built them.  Their refusal by `make_required` is quiet (`Value.OptionalByHand.refused`).
-/

set_option autoImplicit false

namespace ValueShape

open Run

/-- Nothing was registered, and nothing was written to the log. -/
structure Session.Quiet (s s' : Session) : Prop where
  /-- The register is the same. -/
  register : s'.register = s.register
  /-- The log is the same. -/
  events : s'.events = s.events

namespace Session.Quiet

variable {s s' s'' : Session}

theorem refl (s : Session) : s.Quiet s := ⟨rfl, rfl⟩

theorem trans (h : s.Quiet s') (h' : s'.Quiet s'') : s.Quiet s'' :=
  ⟨h'.register.trans h.register, h'.events.trans h.events⟩

theorem withNext (s : Session) (i : Nat) : s.Quiet (s.withNext i) := ⟨rfl, rfl⟩

end Session.Quiet

namespace Run

variable {α β : Type} {c : Conduct} {I : Session → Prop} {s : Session} {m : Run α} {P : α → Prop}
  {factory : String}

/-- A computation gives a result with a property, and nothing is registered or written to the log. -/
def Quietly (c : Conduct) (I : Session → Prop) (s : Session) (m : Run α) (P : α → Prop) : Prop :=
  Settles c I s m fun a s' => s.Quiet s' ∧ P a

/-- A factory refuses an argument, and nothing is registered or written to the log. -/
def RefusedQuietly (c : Conduct) (s : Session) (factory : String) (m : Run α) : Prop :=
  ∃ detail s', exec c m s = .error (.refusal factory detail) s' ∧ s.Quiet s'

theorem Quietly.of_exec_self (hs : I s) {a : α} (hm : exec c m s = .ok a s) (hP : P a) :
    Quietly c I s m P :=
  Settles.of_exec_self hs hm ⟨.refl s, hP⟩

theorem Quietly.bind {k : α → Run β} {R : β → Prop} (hm : Quietly c I s m P)
    (hk : ∀ a s', I s' → P a → Quietly c I s' (k a) R) : Quietly c I s (m >>= k) R :=
  Settles.bind hm fun a s' _ hs' ⟨hquiet, ha⟩ =>
    (hk a s' hs' ha).mono fun _ _ _ _ ⟨hquiet', hR⟩ => ⟨hquiet.trans hquiet', hR⟩

theorem RefusedQuietly.refused (h : RefusedQuietly c s factory m) : Refused c s factory m := by
  obtain ⟨detail, s', hm, -⟩ := h
  exact ⟨detail, s', hm⟩

theorem RefusedQuietly.bind (hm : RefusedQuietly c s factory m) (k : α → Run β) :
    RefusedQuietly c s factory (m >>= k) := by
  obtain ⟨detail, s', hm, hquiet⟩ := hm
  exact ⟨detail, s', by rw [exec_bind, hm, Ending.andThen_error], hquiet⟩

/-- What is asked quietly before a refusal does not matter. -/
theorem Quietly.refused {k : α → Run β} (hm : Quietly c I s m P)
    (hk : ∀ a s', I s' → P a → RefusedQuietly c s' factory (k a)) :
    RefusedQuietly c s factory (m >>= k) := by
  obtain ⟨a, s', ha, -, hs', hquiet, hP⟩ := hm
  obtain ⟨detail, s'', hk, hquiet'⟩ := hk a s' hs' hP
  exact ⟨detail, s'', by rw [exec_bind, ha, Ending.andThen_ok, hk], hquiet.trans hquiet'⟩

/-- A refusal itself leaves nothing behind. -/
theorem refusedQuietly_throw (factory detail : String) :
    RefusedQuietly c s factory (throw (.refusal factory detail) : Run α) :=
  ⟨detail, s, rfl, .refl s⟩

/-- A value gets an identity quietly. -/
theorem quietly_identified (hI : Session.Steadfast I) (hs : I s) (v : Value) :
    Quietly c I s (identified v) fun w => w.Shows v := by
  obtain ⟨w, i, hi, hw, hshows⟩ := exec_identified (c := c) s v
  exact .of_exec hI hs hw (.withNext hi) ⟨.withNext s i, hshows⟩

/-- A predicate that is named by a text shows its name quietly. -/
theorem quietly_shown_displayName (hI : Session.Steadfast I) (hs : I s) (host : Host) (n : Nat)
    (id : Nat) (text : String) (idName : Nat) (f : Facets) (decider : Value) :
    Quietly (Ask.conduct host (n + 1)) I s
      (do shown (← displayName (.predicate id ⟨text, .kind .text, idName⟩ f decider))) fun _ => True := by
  have hname : Quietly (Ask.conduct host (n + 1)) I s
      (displayName (.predicate id ⟨text, .kind .text, idName⟩ f decider)) fun w =>
        w.Shows (.ofName ⟨text, .kind .text, idName⟩) := by
    rw [Quietly, Settles, exec_displayName _ (hI.sound hs).intact]
    exact quietly_identified hI hs _
  refine hname.bind fun w s₁ hs₁ hw => ?_
  obtain ⟨id', rfl⟩ := hw.text
  exact .of_exec hI hs₁ (by
    rw [shown, exec_bind, exec_write_text host n (hI.sound hs₁).intact id' text, Ending.andThen_ok]
    rfl) (.withNext (Nat.le_succ _)) ⟨.withNext s₁ _, trivial⟩

end Run

/-! ## Discreet values

A value of a class of the caller's own may call the library when it is asked for its name, or for
its facets.  Discreet values do no such thing. -/

/-- Wherever an invariant holds, the metadata of a value, if there is any, and its name can be asked
quietly, and the metadata is as told. -/
structure Value.Discreet (c : Conduct) (I : Session → Prop) (told : Value → Prop) (v : Value) : Prop where
  /-- It has no metadata, or such metadata. -/
  metadata {s : Session} (hs : I s) : Quietly c I s (metadata? v) fun m? => ∀ m ∈ m?, told m
  /-- Its name can be shown. -/
  named {s : Session} (hs : I s) : Quietly c I s (do shown (← displayName v)) fun _ => True

/-- A predicate that is not registered is discreet. -/
theorem Value.Discreet.of_unregistered (host : Host) (n : Nat) {I : Session → Prop}
    (hI : Session.Steadfast I) {id : Nat}
    (hid : ∀ s, I s → ∀ r ∈ s.register, r.key.hash.same (.token (.id id)) = false) (text : String)
    (idName : Nat) (f : Facets) (decider : Value) (told : Value → Prop) :
    (Value.predicate id ⟨text, .kind .text, idName⟩ f decider).Discreet (Ask.conduct host (n + 1)) I
      told where
  metadata {s} hs := .of_exec_self hs
    (exec_metadata?_none host n id _ f decider (hI.sound hs).intact (hid s hs)) nofun
  named hs := quietly_shown_displayName hI hs host n id text idName f decider

/-- Metadata names no modifier, and this can be asked quietly. -/
def Value.NamesNoModifier (c : Conduct) (I : Session → Prop) (m : Value) : Prop :=
  ∀ s, I s → Quietly c I s (Build.wrapper? m) (· = none)

/-- A discreet callable has the optional facet, but no modifier is told to have built it. -/
structure Value.OptionalByHand (c : Conduct) (I : Session → Prop) (v : Value) : Prop extends
    v.Discreet c I (Value.NamesNoModifier c I) where
  /-- It can be called. -/
  callable {s : Session} (hs : I s) : s.heap.isCallable v = true
  /-- It says quietly that it has the facet. -/
  optional {s : Session} (hs : I s) : Quietly c I s (Build.isOptional v) (· = .bool true)

namespace Value.OptionalByHand

variable {c : Conduct} {I : Session → Prop}

/-- The optional facet of such a callable cannot be taken off. -/
theorem refused {v : Value} (hv : v.OptionalByHand c I) {s : Session} (hs : I s) (fuel : Nat) :
    RefusedQuietly c s Modifier.required.name (Build.requiredUpTo (fuel + 1) v) := by
  have hrefuse {s : Session} (hs : I s) : RefusedQuietly c s Modifier.required.name
      (do throw (.refusal Modifier.required.name ("cannot unwrap optional predicate " ++
        (← shown (← displayName v)) ++ ": it was not produced by make_optional")) : Run Value) := by
    have h := (hv.named hs).refused (k := fun text => (throw (.refusal Modifier.required.name
      ("cannot unwrap optional predicate " ++ text ++ ": it was not produced by make_optional")) :
        Run Value)) fun text s' _ _ => refusedQuietly_throw _ _
    rwa [bind_assoc] at h
  rw [Build.requiredUpTo]
  refine (Quietly.of_exec_self (P := fun _ => True) hs
    (exec_requireCallable_of_isCallable c (hv.callable hs) _ _) trivial).refused fun _ s₁ hs₁ _ => ?_
  refine (hv.optional hs₁).refused fun a s₂ hs₂ ha => ?_
  subst ha
  rw [truth_bool, pure_bind, Bool.not_true, if_neg Bool.false_ne_true]
  refine (hv.metadata hs₂).refused fun m? s₃ hs₃ hm? => ?_
  cases m? with
  | none => exact hrefuse hs₃
  | some m =>
    refine (hm? m rfl s₃ hs₃).refused fun modifier? s₄ hs₄ hmodifier => ?_
    subst hmodifier
    exact hrefuse hs₄

/-- A predicate that is made optional without a modifier, and not registered. -/
theorem of_unregistered (host : Host) (n : Nat) (hI : Session.Steadfast I) {id : Nat}
    (hid : ∀ s, I s → ∀ r ∈ s.register, r.key.hash.same (.token (.id id)) = false) (text : String)
    (idName : Nat) (r : Bool) (decider : Value) :
    (Value.predicate id ⟨text, .kind .text, idName⟩ ⟨true, r⟩ decider).OptionalByHand
      (Ask.conduct host (n + 1)) I where
  toDiscreet := .of_unregistered host n hI hid text idName ⟨true, r⟩ decider _
  callable hs := (Value.Presents.predicate (c := Ask.conduct host (n + 1)) hI _ _ ⟨true, r⟩ _).callable hs
  optional hs := .of_exec_self hs (exec_isOptional _ (hI.sound hs).intact _ _ _ _) rfl

end Value.OptionalByHand

end ValueShape
