import ValueShape.Proofs.Outline.Depict

/-!
# Rendering and asserting without fail

What the rendering of values comes to for the callers: `Ask.inspect_total` says that every value that
can be depicted has a rendering, under any valid options, and that asserting something about such a
value fails in one way only if the value is rejected.

An integer with too many digits has no rendering: `Ask.inspect_fails_digits`.
-/

set_option autoImplicit false

namespace ValueShape

open Run

namespace Ask

variable {c : Conduct} {I : Session → Prop} {s : Session} {v pred message : Value}

/-- A callable rejects a value without failing, and tells its name. -/
structure Rejects (c : Conduct) (I : Session → Prop) (pred v : Value) : Prop where
  /-- It can be called. -/
  callable {s : Session} (hs : I s) : s.heap.isCallable pred = true
  /-- Its answer is no. -/
  answer {s : Session} (hs : I s) : Settles c I s (satisfies pred v) fun b _ => b = false
  /-- Its name is a text. -/
  name {s : Session} (hs : I s) : Settles c I s (displayName pred) fun w _ => w.IsText

/-- A text of the built-in class is its own plain form. -/
theorem exec_plainForm_of_isText (hs : s.heap.Intact) (hmessage : message.IsText) :
    exec c (plainForm message) s = .ok message s := by
  obtain ⟨id, text, rfl⟩ := hmessage
  exact exec_plainForm_text c hs id text

/-- The failure of an assertion tells the rendering of the value and the name of the callable. -/
theorem settles_assertionFailure (hI : Session.Lasting I)
    (hv : ∀ s, I s → Settles c I s (renderValue .default v) fun w _ => w.Legible c I)
    (hpred : Rejects c I pred v) (hmessage : message = .null ∨ message.IsText) (hs : I s) :
    Settles c I s (assertionFailure v pred message) fun e _ =>
      ∃ text rendered name, e = .assertion text rendered name ∧ rendered.text?.isSome = true ∧
        name.text?.isSome = true := by
  rw [assertionFailure]
  refine (hv s hs).bind fun rendered s₁ _ hs₁ hrendered => ?_
  refine (hpred.name hs₁).bind fun name s₂ _ hs₂ hname => ?_
  obtain ⟨id, text, rfl⟩ := hname
  rcases hmessage with rfl | hmessage
  · refine .after (rfl : exec c (formatted (.scalar (.kind .text) id (.text text))) s₂ = _) ?_
    refine (hrendered.formatted hs₂).bind fun shown s₃ _ hs₃ _ => ?_
    exact .of_exec_self hs₃ rfl ⟨_, _, _, rfl, hrendered.isText, rfl⟩
  · have hplain := exec_plainForm_of_isText (c := c) (hI.sound hs₂).intact hmessage
    obtain ⟨id', text', rfl⟩ := hmessage
    refine .after hplain ?_
    exact .of_exec_self hs₂ rfl ⟨_, _, _, rfl, hrendered.isText, rfl⟩

/-- An assertion about a value that is rejected fails as such. -/
theorem exec_demandFor_of_rejects (hI : Session.Lasting I)
    (hv : ∀ s, I s → Settles c I s (renderValue .default v) fun w _ => w.Legible c I)
    (hpred : Rejects c I pred v) (hmessage : message = .null ∨ message.IsText) (hs : I s)
    (operation : Operation) : ∃ text rendered name s',
      exec c (demandFor operation v pred message) s = .error (.assertion text rendered name) s' ∧
        rendered.text?.isSome = true ∧ name.text?.isSome = true ∧ I s' := by
  obtain ⟨b, s₁, hb, -, hs₁, rfl⟩ := hpred.answer hs
  obtain ⟨e, s₂, he, -, hs₂, text, rendered, name, rfl, hrendered, hname⟩ :=
    settles_assertionFailure hI hv hpred hmessage hs₁
  refine ⟨text, rendered, name, s₂, ?_, hrendered, hname, hs₂⟩
  rw [demandFor, exec_bind, exec_requireCallable_of_isCallable c (hpred.callable hs), Ending.andThen_ok, exec_bind, hb, Ending.andThen_ok,
    if_pos (by decide), exec_bind, he]
  rfl

/-- **Rendering is total.**  Every value that can be depicted has a rendering, under the default
options and under all valid ones, and every assertion that rejects it fails as an assertion. -/
theorem inspect_total (host : Host) (n : Nat) {S : Value → Prop} (hI : Session.Lasting I)
    (hid : ∀ v, S v → v.isIdentified = true)
    (hS : ∀ v, S v → v.Depicted (conduct host (n + 1)) I S) (hv : S v) :
    (∀ options s, (options = .null ∨ ∀ s, I s → (s.heap.renderOptions? options).isSome = true) →
      I s → Settles (conduct host (n + 1)) I s (inspect v options) fun w _ =>
        w.text?.isSome = true) ∧
    ∀ pred message s, Rejects (conduct host (n + 1)) I pred v →
      (message = .null ∨ message.IsText) → I s →
      ∀ assertion ∈ [demand v pred message, ensure v pred message],
        ∃ text rendered name s', exec (conduct host (n + 1)) assertion s =
          .error (.assertion text rendered name) s' ∧ I s' := by
  have hexhibits : ∀ v, S v → v.Exhibits (conduct host (n + 1)) I S := fun v hv =>
    (hS v hv).exhibits host n hI hid
  refine ⟨fun options s hoptions hs => ?_, fun pred message s hpred hmessage hs => ?_⟩
  · exact (settles_inspect hI hexhibits hv hoptions hs).mono fun w _ _ _ hw => hw.isText
  · have hfails (operation : Operation) := exec_demandFor_of_rejects hI
      (fun s hs => settles_renderValue hI hexhibits .default hv hs) hpred hmessage hs operation
    simp only [List.forall_mem_cons, List.not_mem_nil, false_imp_iff, implies_true, and_true]
    constructor
    · obtain ⟨text, rendered, name, s', he, -, -, hs'⟩ := hfails .demand
      refine ⟨text, rendered, name, s', ?_, hs'⟩
      rw [demand, exec_bind, he]
      rfl
    · obtain ⟨text, rendered, name, s', he, -, -, hs'⟩ := hfails .ensure
      refine ⟨text, rendered, name, s', ?_, hs'⟩
      rw [ensure, exec_bind, he]
      rfl

/-! ### A tangle of values -/

/-- A list that contains itself twice, once inside a mapping, next to a mapping that refuses to be
read. -/
def tangle : List (Nat × Cell) :=
  [(0, ⟨.kind .list, .list [.ref 0, .ref 1, .ref 2]⟩),
    (1, ⟨.kind .dict, .dict [(⟨.keptText "a", hashText "a"⟩, .ref 0)]⟩),
    (2, ⟨.kind .foreign, .foreign ⟨[], [.items], ⟨.runtime, failureText⟩⟩⟩)]

/-- The values of the tangle. -/
def isTangled (v : Value) : Prop := v ∈ [.ref 0, .ref 1, .ref 2, .keptText "a"]

/-- A session in which the tangle was made. -/
def tangledSession : Session :=
  { Session.start with
    heap := { Heap.start with cells := (tangle.map (·.2)).toArray, next := tangle.length } }

theorem holding_tangledSession : Session.Holding Session.Untouched tangle tangledSession := by
  refine ⟨⟨rfl, rfl, rfl, by decide, fun _ hr => absurd hr List.not_mem_nil⟩, ?_⟩
  simp only [tangle, List.forall_mem_cons, List.not_mem_nil, false_imp_iff, implies_true, and_true]
  exact ⟨rfl, rfl, rfl⟩

theorem list_mem_tangle : (0, ⟨.kind .list, .list [.ref 0, .ref 1, .ref 2]⟩) ∈ tangle :=
  List.mem_cons_self

theorem dict_mem_tangle :
    (1, ⟨.kind .dict, .dict [(⟨.keptText "a", hashText "a"⟩, .ref 0)]⟩) ∈ tangle :=
  List.mem_cons_of_mem _ List.mem_cons_self

theorem foreign_mem_tangle :
    (2, ⟨.kind .foreign, .foreign ⟨[], [.items], ⟨.runtime, failureText⟩⟩⟩) ∈ tangle :=
  List.mem_cons_of_mem _ (List.mem_cons_of_mem _ List.mem_cons_self)

theorem isIdentified_of_isTangled (v : Value) (hv : isTangled v) : v.isIdentified = true := by
  simp only [isTangled, List.mem_cons, List.not_mem_nil, or_false] at hv
  rcases hv with rfl | rfl | rfl | rfl <;> rfl

theorem depicted_of_isTangled (hv : isTangled v) :
    v.Depicted c (Session.Holding Session.Untouched tangle) isTangled := by
  simp only [isTangled, List.mem_cons, List.not_mem_nil, or_false] at hv
  rcases hv with rfl | rfl | rfl | rfl
  · exact .list (k := .list) (by decide) (fun s hs => hs.isOrdinary list_mem_tangle)
      (fun s hs => hs.contents? list_mem_tangle) (by simp [isTangled])
  · refine .dict (k := .dict) (by decide) (fun s hs => ⟨hs.contents? dict_mem_tangle,
      hs.isOrdinary dict_mem_tangle, hs.1.bare (fun _ => rfl) _⟩) (by simp [isTangled])
  · exact .foreign (fun s hs => ⟨hs.2 _ foreign_mem_tangle, hs.isOrdinary foreign_mem_tangle,
      hs.1.bare fun _ => rfl⟩) (fun _ => rfl) (fun h => absurd List.mem_cons_self h)
  · exact .plain (k := .text) (by decide) (fun s hs => hs.1.isOrdinary rfl) rfl nofun

/-- The tangle is no text. -/
theorem rejects_tangle : Rejects (conduct .none 1) (Session.Holding Session.Untouched tangle)
    (.leaf .string) (.ref 0) where
  callable {s} hs := by
    rw [Heap.isCallable, hs.1.intact.slot? (v := .leaf .string) rfl]
    rfl
  answer {s} hs := by
    have hread : s.heap.readsAttributes (.ref 0) = false :=
      (hs.isOrdinary list_mem_tangle).readsAttributes rfl
    have hask : exec (conduct .none 0) (Leaf.string.ask (.ref 0)) s = .ok false s := by
      rw [Leaf.ask, exec_bind, exec_heap, Ending.andThen_ok, exec_bind, exec_asksForClass, hread]
      rfl
    have hcall : exec (conduct .none 0) (callOnce .none (.leaf .string) [.ref 0]) s =
        .ok (.bool false) s := by
      change exec _ (Leaf.string.ask (.ref 0) >>= fun b => pure (Value.bool b)) s = _
      rw [exec_bind, hask]
      rfl
    refine .of_exec_self hs (a := false) ?_ rfl
    rw [satisfies, exec_bind, exec_call]
    change (exec (conduct .none 0) (callOnce .none (.leaf .string) [.ref 0]) s).andThen _ = _
    rw [hcall]
    rfl
  name {s} hs := by
    have hname : s.heap.nameAttribute (.leaf .string) = some (.keptText Leaf.string.name) := by
      rw [Heap.nameAttribute, hs.1.assigned?]
      · rfl
      all_goals
        intros
        contradiction
    refine (settles_displayName_function (Session.enduring_untouched.toLasting.holding tangle) hs
      rfl hname (by decide)).mono fun w _ _ _ hw => ?_
    obtain ⟨id, rfl⟩ := hw
    exact ⟨id, _, rfl⟩

theorem inspect_total_tangle :
    Settles (conduct .none 1) (Session.Holding Session.Untouched tangle) tangledSession
        (inspect (.ref 0) .null) (fun w _ => w.text?.isSome = true) ∧
      ∃ text rendered name s', exec (conduct .none 1) (ensure (.ref 0) (.leaf .string) .null)
        tangledSession = .error (.assertion text rendered name) s' ∧
          Session.Holding Session.Untouched tangle s' := by
  have hI := Session.enduring_untouched.toLasting.holding tangle
  obtain ⟨hinspect, hassert⟩ := inspect_total .none 0 hI (S := isTangled) (v := .ref 0)
    isIdentified_of_isTangled (fun v hv => depicted_of_isTangled hv) (by simp [isTangled])
  exact ⟨hinspect .null _ (.inl rfl) holding_tangledSession,
    hassert (.leaf .string) .null _ rejects_tangle (.inl rfl) holding_tangledSession _
      (List.mem_cons_of_mem _ List.mem_cons_self)⟩

/-! ### Integers with too many digits -/

/-- An integer with too many digits has no written form, so that it cannot be rendered, and asserting
something about it fails in another way than as an assertion. -/
theorem inspect_fails_digits :
    let huge := Value.int (.ofNat (Nat.pow 10 5000))
    let failsBy (m : Run Value) :=
      (exec (conduct .none 2) m Session.start).failure?.map (·.1.category)
    failsBy (inspect huge .null) = some .value ∧
      failsBy (demand huge (.leaf .string) .null) = some .value := by
  decide +kernel

end Ask

end ValueShape
