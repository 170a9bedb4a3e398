import ValueShape.Operation
import ValueShape.Proofs.Ask.Inquiry
import ValueShape.Proofs.Facet.Wrapping

/-!
# Chains of modifiers

What the modifiers make of a callable when they are applied one after the other, in any order and
any number.

* `Modifier.apply` calls a modifier, and `Modifier.applyAll` calls several of them in turn.
* `Facets.after` are the facets that come out: the last modifier that decides about the optional
  facet counts, and the readonly facet stays.
* `NormalForm s p r q f` says how a result `q` with the facets `f` is built around the callable `p`:
  there are five forms, and none has more than two layers.  Each modifier leads from one of them to
  another one (`NormalForm.step`).
* `Modifier.applyAll_normalForm` is the main result.
-/

set_option autoImplicit false

namespace ValueShape

open Run

/-! ## Modifiers as operations

The facets that come out of a chain are a function of the facets before and of the modifiers, and
nothing else. -/

namespace Modifier

/-- The operation that a modifier is called by. -/
def operation : Modifier → Operation
  | optional => .makeOptional
  | readonly => .makeReadonly
  | required => .makeRequired

/-- Calls a modifier. -/
def apply (m : Modifier) (v : Value) : Run Value := m.operation.apply ⟨[v], []⟩

/-- Calls modifiers one after the other, each with what the one before has returned. -/
def applyAll (ms : List Modifier) (v : Value) : Run Value := ms.foldlM (fun v m => m.apply v) v

theorem applyAll_cons (m : Modifier) (ms : List Modifier) (v : Value) :
    applyAll (m :: ms) v = (m.apply v >>= applyAll ms) := rfl

/-- The facets of what a modifier returns. -/
def change (m : Modifier) (f : Facets) : Facets :=
  match m with
  | optional => { f with optional := true }
  | readonly => { f with readonly := true }
  | required => { f with optional := false }

/-- Whether a modifier decides about the optional facet. -/
def isDeciding (m : Modifier) : Bool := m != readonly

end Modifier

/-- The facets that come out of a chain of modifiers, by the last one that decides about the
optional facet. -/
def Facets.after (f : Facets) (ms : List Modifier) : Facets where
  optional := ((ms.filter Modifier.isDeciding).getLast?.map (· == .optional)).getD f.optional
  readonly := f.readonly || ms.contains .readonly

theorem Facets.after_nil (f : Facets) : f.after [] = f := by
  cases f
  simp [after]

/-- The first modifier of a chain may be applied to the facets beforehand. -/
theorem Facets.after_cons (f : Facets) (m : Modifier) (ms : List Modifier) :
    f.after (m :: ms) = (m.change f).after ms := by
  have hlast (l : List Modifier) (d : Bool) :
      ((m :: l).getLast?.map (· == .optional)).getD d =
        (l.getLast?.map (· == .optional)).getD (m == .optional) := by
    rw [List.getLast?_cons]
    cases l.getLast? <;> rfl
  cases m with
  | optional | required => exact Eq.mpr (Facets.mk.injEq ..) ⟨hlast _ _, rfl⟩
  | readonly => exact Eq.mpr (Facets.mk.injEq ..) ⟨rfl, Bool.or_true _⟩

/-! ## Normal forms

However long a chain is, no more than two layers are left: an optional one and a readonly one, in
either order. -/

/-- How a result of modifiers is built around a callable without the optional facet.  What the
callable says of its readonly facet is `r`. -/
inductive NormalForm (s : Session) (p : Value) (r : Bool) : Value → Facets → Prop
  /-- The callable itself. -/
  | bare : NormalForm s p r p ⟨false, r⟩
  /-- An optional layer. -/
  | optional {q : Value} (h : s.Wraps .optional ⟨true, r⟩ q p) : NormalForm s p r q ⟨true, r⟩
  /-- A readonly layer. -/
  | readonly {q : Value} (hr : r = false) (h : s.Wraps .readonly ⟨false, true⟩ q p) :
      NormalForm s p r q ⟨false, true⟩
  /-- A readonly layer over an optional one. -/
  | readonlyOptional {q q' : Value} (hr : r = false) (h : s.Wraps .readonly ⟨true, true⟩ q q')
      (h' : s.Wraps .optional ⟨true, false⟩ q' p) : NormalForm s p r q ⟨true, true⟩
  /-- An optional layer over a readonly one. -/
  | optionalReadonly {q q' : Value} (hr : r = false) (h : s.Wraps .optional ⟨true, true⟩ q q')
      (h' : s.Wraps .readonly ⟨false, true⟩ q' p) : NormalForm s p r q ⟨true, true⟩

namespace NormalForm

variable {s s' : Session} {p q : Value} {r : Bool} {f : Facets}

theorem leadsTo (h : NormalForm s p r q f) (hs : s.LeadsTo s') : NormalForm s' p r q f := by
  cases h with
  | bare => exact .bare
  | optional h => exact .optional (h.leadsTo hs)
  | readonly hr h => exact .readonly hr (h.leadsTo hs)
  | readonlyOptional hr h h' => exact .readonlyOptional hr (h.leadsTo hs) (h'.leadsTo hs)
  | optionalReadonly hr h h' => exact .optionalReadonly hr (h.leadsTo hs) (h'.leadsTo hs)

theorem presents {c : Conduct} {I : Session → Prop} (hI : Session.Lasting I)
    (hp : p.Presents c I ⟨false, r⟩) (h : NormalForm s p r q f) : q.Presents c I f := by
  cases h with
  | bare => exact hp
  | optional h | readonly _ h | readonlyOptional _ h | optionalReadonly _ h => exact h.presents hI

/-- Without facets of its own, a result is the callable itself. -/
theorem eq_of_bare (h : NormalForm s p r q ⟨false, r⟩) : q = p := by
  cases h with
  | bare => rfl
  | readonly hr => cases hr

/-! ## One step -/

section Step

variable (host : Host) (n : Nat) {I : Session → Prop} (hI : Session.Lasting I)
  (hp : p.Presents (Ask.conduct host (n + 1)) I ⟨false, r⟩) (hs : I s) (h : NormalForm s p r q f)
include hI hp hs h

theorem step_optional :
    Settles (Ask.conduct host (n + 1)) I s (Build.optional q) fun w s' =>
      NormalForm s' p r w (Modifier.optional.change f) := by
  have hq := h.presents hI hp
  by_cases hf : f.optional = true
  · -- What has the facet is returned as it is.
    obtain ⟨o, r'⟩ := f
    obtain rfl : o = true := hf
    exact (settles_optional_noop host n hI hq hs).mono fun w s' hle _ hw => hw ▸ h.leadsTo hle
  · cases h with
    | bare => exact (settles_optional host n hI hq hs).mono fun w s' _ _ hw => .optional hw
    | readonly hr h =>
      exact (settles_optional host n hI hq hs).mono fun w s' hle _ hw =>
        .optionalReadonly hr hw (h.leadsTo hle)
    | optional | readonlyOptional | optionalReadonly => exact absurd rfl hf

theorem step_readonly :
    Settles (Ask.conduct host (n + 1)) I s (Build.readonly q) fun w s' =>
      NormalForm s' p r w (Modifier.readonly.change f) := by
  have hq := h.presents hI hp
  by_cases hf : f.readonly = true
  · -- What has the facet is returned as it is.
    obtain ⟨o, r'⟩ := f
    obtain rfl : r' = true := hf
    exact (settles_readonly_noop host n hI hq hs).mono fun w s' hle _ hw => hw ▸ h.leadsTo hle
  · cases h with
    | bare =>
      obtain rfl : r = false := by simpa using hf
      exact (settles_readonly host n hI hq hs).mono fun w s' _ _ hw => .readonly rfl hw
    | optional h =>
      obtain rfl : r = false := by simpa using hf
      exact (settles_readonly host n hI hq hs).mono fun w s' hle _ hw =>
        .readonlyOptional rfl hw (h.leadsTo hle)
    | readonly | readonlyOptional | optionalReadonly => exact absurd rfl hf

/-- A readonly layer over an optional one is built anew without the optional one. -/
theorem step_required :
    Settles (Ask.conduct host (n + 1)) I s (Build.required q) fun w s' =>
      NormalForm s' p r w (Modifier.required.change f) := by
  have hq := h.presents hI hp
  rw [Build.required]
  refine .after (exec_get _ s) ?_
  cases h with
  | bare =>
    exact (settles_required_noop host n hI hq hs _).mono fun w s' _ _ hw => hw ▸ .bare
  | readonly hr h =>
    exact (settles_required_noop host n hI hq hs _).mono fun w s' hle _ hw =>
      hw ▸ .readonly hr (h.leadsTo hle)
  | optional h =>
    exact (settles_required_optional host n hI hs h hp.identified _).mono fun w s' _ _ hw =>
      hw ▸ .bare
  | optionalReadonly hr h h' =>
    exact (settles_required_optional host n hI hs h h'.identified _).mono fun w s' hle _ hw =>
      hw ▸ .readonly hr (h'.leadsTo hle)
  | readonlyOptional hr h h' =>
    subst hr
    obtain ⟨fuel, hfuel⟩ := Nat.exists_eq_succ_of_ne_zero h.register_ne
    rw [hfuel]
    refine settles_required_readonly host n hI hs h h'.identified (fuel + 1) fun s₁ hle₁ hs₁ => ?_
    refine (settles_required_optional host n hI hs₁ (h'.leadsTo hle₁) hp.identified fuel).bind
      fun v s₂ _ hs₂ hv => ?_
    subst hv
    exact (settles_readonly host n hI hp hs₂).mono fun w s' _ _ hw => .readonly rfl hw

/-- **Each modifier leads from one normal form to another one.** -/
theorem step (m : Modifier) :
    Settles (Ask.conduct host (n + 1)) I s (m.apply q) fun w s' =>
      NormalForm s' p r w (m.change f) := by
  cases m with
  | optional => exact h.step_optional host n hI hp hs
  | readonly => exact h.step_readonly host n hI hp hs
  | required => exact h.step_required host n hI hp hs

/-- What comes out of a chain of modifiers has a normal form. -/
theorem run (ms : List Modifier) :
    Settles (Ask.conduct host (n + 1)) I s (Modifier.applyAll ms q) fun w s' =>
      NormalForm s' p r w (f.after ms) := by
  induction ms generalizing s q f with
  | nil => exact .of_exec_self hs rfl (by rwa [Facets.after_nil])
  | cons m ms ih =>
    rw [Modifier.applyAll_cons, Facets.after_cons]
    exact (h.step host n hI hp hs m).bind fun w s' _ hs' hw => ih hs' hw

end Step

end NormalForm

/-! ## Calls and layers -/

/-- A layer accepts what is inside accepts; an optional one accepts the absent value by itself. -/
theorem Session.Wraps.accepts (host : Host) {s : Session} {m : Modifier} {f : Facets}
    {w q : Value} (h : s.Wraps m f w q) (x : Value) :
    (Ask.asked host w).accepts x =
      if m == .optional && x.identical .undefined then return true
      else (Ask.asked host q).accepts x := by
  obtain ⟨-, hdecides, -⟩ := h
  rw [Ask.accepts_predicate]
  cases hdecides with
  | optional id q =>
    simp only [Asked.accepts, Ask.asked, Ask.callWith_rule, bind_assoc, pure_bind, truth_bool,
      bind_pure]
    rfl
  | readonly q => rfl

/-- Following the first arguments in the metadata leads from one value to another one in so many
steps. -/
inductive Session.Encloses (c : Conduct) (s : Session) : Nat → Value → Value → Prop
  | refl (q : Value) : Encloses c s 0 q q
  | layer {k : Nat} {w q p metadata : Value}
      (hmetadata : exec c (metadata? w) s = .ok (some metadata) s)
      (hwrapped : exec c (Build.wrappedBy metadata) s = .ok q s) (h : Encloses c s k q p) :
      Encloses c s (k + 1) w p

theorem Session.Wraps.encloses (host : Host) (n : Nat) {s : Session} (hs : s.Sound) {m : Modifier}
    {f : Facets} {w q p : Value} (hw : s.Wraps m f w q) (hq : q.isIdentified = true) {k : Nat}
    (h : s.Encloses (Ask.conduct host (n + 1)) k q p) :
    s.Encloses (Ask.conduct host (n + 1)) (k + 1) w p := by
  obtain ⟨hid, -, hrecords⟩ := hw
  exact .layer (exec_metadata?_some host n _ _ _ _ hs hid hrecords)
    (exec_wrappedBy _ hs.intact hq _ _ _) h

namespace NormalForm

variable {s : Session} {p q : Value} {r : Bool} {f : Facets}

theorem accepts (host : Host) (h : NormalForm s p r q f) (x : Value) :
    (Ask.asked host q).accepts x =
      if f.optional && x.identical .undefined then return true
      else (Ask.asked host p).accepts x := by
  cases h with
  | bare => rfl
  | optional h | readonly _ h => exact h.accepts host x
  | readonlyOptional _ h h' => exact (h.accepts host x).trans (h'.accepts host x)
  | optionalReadonly _ h h' =>
    rw [h.accepts host x, h'.accepts host x]
    rfl

theorem encloses (host : Host) (n : Nat) (hs : s.Sound) (hp : p.isIdentified = true)
    (h : NormalForm s p r q f) : ∃ k ≤ 2, s.Encloses (Ask.conduct host (n + 1)) k q p := by
  have hrefl : s.Encloses (Ask.conduct host (n + 1)) 0 p p := .refl p
  have hwrapped {m : Modifier} {f : Facets} {w q : Value} (hw : s.Wraps m f w q) :
      w.isIdentified = true := by
    obtain ⟨-, -, -⟩ := hw
    rfl
  cases h with
  | bare => exact ⟨0, by omega, hrefl⟩
  | optional h | readonly _ h => exact ⟨1, by omega, h.encloses host n hs hp hrefl⟩
  | readonlyOptional _ h h' | optionalReadonly _ h h' =>
    exact ⟨2, by omega, h.encloses host n hs (hwrapped h') (h'.encloses host n hs hp hrefl)⟩

end NormalForm

namespace Modifier

/-! ## Failures

A modifier asks whether its argument can be called, and for its facets and its name.  If one of
these questions fails, so does the modifier. -/

/-- What a modifier asks of a callable before it decides. -/
def asks (m : Modifier) (v : Value) : Run Unit :=
  match m with
  | optional => do
    if ← truth (← Build.isOptional v) then
      let _ ← displayName v
    else
      let _ ← Build.isReadonly v
      let _ ← Build.argumentTexts [v]
  | readonly => do
    if ← truth (← Build.isReadonly v) then
      let _ ← displayName v
    else
      let _ ← Build.isOptional v
      let _ ← Build.argumentTexts [v]
  | required => do
    if !(← truth (← Build.isOptional v)) then
      let _ ← displayName v

/-- A failure of what a modifier asks is a failure of the modifier. -/
theorem exec_apply_of_asks {c : Conduct} {s s' : Session} {e : Failure} (m : Modifier) {v : Value}
    (hv : s.heap.isCallable v = true) (he : exec c (m.asks v) s = .error e s') :
    exec c (m.apply v) s = .error e s' := by
  have hcallable (factory label : String) :
      exec c (Build.requireCallable factory label v) s = .ok () s :=
    exec_requireCallable_of_isCallable c hv factory label
  have hlog {s₁ : Session} (m : Modifier) (o : Outcome) (k : Unit → Run Value)
      (he : exec c (do let _ ← displayName v) s₁ = .error e s') :
      exec c (Build.logDecision m o v >>= k) s₁ = .error e s' := by
    rw [Build.logDecision, bind_assoc]
    exact exec_error_of_bind he fun _ _ he => by cases he
  have hname {s₁ : Session} (factory : String) (k : String → Run Value)
      (he : exec c (do let _ ← Build.argumentTexts [v]) s₁ = .error e s') :
      exec c (Build.callName factory [v] >>= k) s₁ = .error e s' := by
    rw [Build.callName, bind_assoc]
    exact exec_error_of_bind he fun _ _ he => by cases he
  cases m with
  | optional =>
    change exec c (Build.optional v) s = _
    rw [Build.optional, exec_bind, hcallable, Ending.andThen_ok]
    refine exec_error_of_bind he fun a s₁ he => exec_error_of_bind he fun b s₂ he => ?_
    cases b with
    | true => exact hlog _ _ _ he
    | false =>
      rw [if_neg Bool.false_ne_true] at he ⊢
      exact exec_error_of_bind he fun r s₃ he => hname _ _ he
  | readonly =>
    change exec c (Build.readonly v) s = _
    rw [Build.readonly, exec_bind, hcallable, Ending.andThen_ok]
    refine exec_error_of_bind he fun a s₁ he => exec_error_of_bind he fun b s₂ he => ?_
    cases b with
    | true => exact hlog _ _ _ he
    | false =>
      rw [if_neg Bool.false_ne_true] at he ⊢
      exact exec_error_of_bind he fun r s₃ he => hname _ _ he
  | required =>
    change exec c (Build.required v) s = _
    rw [Build.required, exec_bind, exec_get, Ending.andThen_ok, Build.requiredUpTo, exec_bind, hcallable,
      Ending.andThen_ok]
    refine exec_error_of_bind he fun a s₁ he => exec_error_of_bind he fun b s₂ he => ?_
    cases b with
    | true => cases he
    | false => exact hlog _ _ _ he

/-- **Chains of modifiers.**  Applied in any order and any number, the modifiers do not fail on a
callable without the optional facet that presents itself.  The result has the facets of the chain.
It is built around the callable with at most two layers.  It accepts what the callable accepts, and
the absent value without asking if it is optional.  It is the callable itself if no modifier has
added the readonly facet and it is not optional.  Where a callable fails to tell a facet or a name
that a modifier asks for, the modifier fails. -/
theorem applyAll_normalForm (host : Host) (n : Nat) :
    let c := Ask.conduct host (n + 1)
    (∀ I, Session.Lasting I → ∀ p r, p.Presents c I ⟨false, r⟩ → ∀ (ms : List Modifier) s, I s →
      let f := Facets.after ⟨false, r⟩ ms
      ∃ q s', exec c (applyAll ms p) s = .ok q s' ∧ s.LeadsTo s' ∧ I s' ∧
        (∀ s'', s'.LeadsTo s'' → I s'' →
          Settles c I s'' (Build.isOptional q) (fun a _ => a = .bool f.optional) ∧
          Settles c I s'' (Build.isReadonly q) (fun a _ => a = .bool f.readonly) ∧
          ∃ k ≤ 2, s''.Encloses c k q p) ∧
        (∀ x, (Ask.asked host q).accepts x =
          if f.optional && x.identical .undefined then return true
          else (Ask.asked host p).accepts x) ∧
        (∀ k x s'', I s'' → exec (Ask.conduct host (k + 1)) (call q [x]) s'' =
          exec (Ask.conduct host k) (Ask.asked host q x) s'') ∧
        (.readonly ∉ ms → f.optional = false → q = p)) ∧
    ∀ (m : Modifier) v s e s', s.heap.isCallable v = true → exec c (m.asks v) s = .error e s' →
      exec c (m.apply v) s = .error e s' := by
  intro c
  refine ⟨?_, fun m v s e s' => exec_apply_of_asks m⟩
  intro I hI p r hp ms s hs f
  obtain ⟨q, s', hq, hle, hs', hnormal⟩ := NormalForm.bare.run host n hI hp hs ms
  refine ⟨q, s', hq, hle, hs', fun s'' hle' hs'' => ?_, hnormal.accepts host, fun k x s'' hs'' => ?_,
    fun hms hf => ?_⟩
  · have hnormal' := hnormal.leadsTo hle'
    have hpresents := hnormal'.presents hI hp
    exact ⟨hpresents.optional hs'', hpresents.readonly hs'',
      hnormal'.encloses host n (hI.sound hs'') hp.identified⟩
  · exact Run.exec_call_of_sound host k (hI.sound hs'') q [x]
  · have hreadonly : f.readonly = r := by simp [f, Facets.after, hms]
    have hbare : NormalForm s' p r q ⟨f.optional, f.readonly⟩ := hnormal
    rw [hf, hreadonly] at hbare
    exact hbare.eq_of_bare

/-- A function of the caller presents itself, whatever it does when it is called. -/
theorem applyAll_normalForm_function :
    let c := Ask.conduct .none 1
    let p := Value.function 2 (.kept "f") false (.raises ⟨.runtime, "field failed"⟩)
    let ms := [optional, readonly, required, optional]
    let I := fun s : Session => s.Sound ∧ s.heap.nameAttribute p = some (.keptText "f")
    (Session.Lasting I ∧ p.Presents c I ⟨false, false⟩ ∧ I Session.start) ∧
      ∃ q s', exec c (applyAll ms p) Session.start = .ok q s' ∧ Session.start.LeadsTo s' ∧
        Settles c I s' (Build.isOptional q) fun a _ => a = .bool true := by
  intro c p ms I
  have hI : Session.Lasting I := by
    refine ⟨fun hs => hs.1, fun {s s'} hs hnotes => ⟨hnotes.sound hs.1, ?_⟩⟩
    rw [hnotes.heap]
    exact hs.2
  have hp : p.Presents c I ⟨false, false⟩ :=
    .function hI rfl fun s hs => ⟨lasting, "f", hs.2, by decide⟩
  have hstart : I Session.start := ⟨Session.start_sound, rfl⟩
  obtain ⟨q, s', hq, hle, hs', hfacets, -⟩ :=
    (applyAll_normalForm .none 0).1 I hI p false hp ms Session.start hstart
  exact ⟨⟨hI, hp, hstart⟩, q, s', hq, hle, (hfacets s' (.refl s') hs').1⟩

/-! ## A callable that refuses to tell its name -/

/-- What an object says that does not tell its name. -/
def refusal : Raised := ⟨.runtime, "field failed"⟩

/-- A session with an object that can be called and fails to tell attributes that are missing. -/
def namelessSession : Session :=
  let heap := Heap.start
  let c := Class.declared heap.declarations.size
  let yes := Value.function 2 (.kept "yes") false (.returns (.bool true))
  let refuse := Value.bound (.kind .bound) 4 (.function 3 (.kept "refuse") false (.raises refusal))
  { Session.start with heap := { heap with
      declarations := heap.declarations.push
        ⟨.kept "C", [.kind .object], .kind .object, [.kind .object]⟩
      attributes := heap.attributes ++
        [⟨.ofClass c, Method.call.name, yes⟩, ⟨.ofClass c, Method.missingAttribute.name, refuse⟩]
      next := 6 } }

/-- Such an object can be called and has neither facet, and still a modifier fails on it. -/
theorem optional_fails_nameless :
    let c := Ask.conduct .none 2
    let p := Value.object 5 (.declared 0)
    namelessSession.heap.isCallable p = true ∧
      exec c (Build.isOptional p) namelessSession = .ok (.bool false) namelessSession ∧
      exec c (Build.isReadonly p) namelessSession = .ok (.bool false) namelessSession ∧
      ∃ s', exec c (optional.apply p) namelessSession = .error (.raised refusal) s' := by
  intro c p
  have hname : ∃ s', exec c (displayName p) namelessSession = .error (.raised refusal) s' :=
    ⟨_, rfl⟩
  obtain ⟨s', he⟩ := hname
  have hoptional : exec c (Build.isOptional p) namelessSession =
      .ok (.bool false) namelessSession := rfl
  have hreadonly : exec c (Build.isReadonly p) namelessSession =
      .ok (.bool false) namelessSession := rfl
  refine ⟨rfl, hoptional, hreadonly, s', exec_apply_of_asks .optional rfl ?_⟩
  rw [asks, exec_bind, hoptional, Ending.andThen_ok, truth_bool, pure_bind,
    if_neg Bool.false_ne_true, exec_bind, hreadonly, Ending.andThen_ok, exec_bind,
    exec_argumentTexts_error rfl he, Ending.andThen_error]
  rfl

end Modifier

end ValueShape
