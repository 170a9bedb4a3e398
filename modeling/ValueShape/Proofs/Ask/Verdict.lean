import ValueShape.Proofs.Ask.Strict

/-!
# Verdicts that do not change

What an `object_of` product says about a value, where each reading of the value and each answer of a
predicate comes to the same, however often and in which order they are made.

* `Run.Decides c J m b?` says that a computation gives the verdict `b?` wherever the invariant `J` holds,
  and keeps the invariant.  It always fails if there is no verdict.
* `Value.Judges c J v x b?` says so of a callable that is asked about the value `x`.
* `Check.decides_runFields` is the verdict on the fields, in terms of the verdicts on each of them, and
  `Check.decides_object` is the verdict of the product.
-/

set_option autoImplicit false

namespace ValueShape

open Run

namespace Run

/-- Wherever an invariant holds, a computation gives the same verdict and keeps the invariant, or it
always fails. -/
inductive Decides (c : Conduct) (J : Session → Prop) (m : Run Bool) : Option Bool → Prop
  | verdict {b : Bool} (h : ∀ s, J s → ∃ s', exec c m s = .ok b s' ∧ J s') : Decides c J m (some b)
  | failure (h : ∀ s, J s → ∃ e s', exec c m s = .error e s') : Decides c J m none

namespace Decides

variable {c : Conduct} {J : Session → Prop} {m k : Run Bool} {b? d? : Option Bool} {s s' : Session}

theorem pure (b : Bool) : Decides c J (pure b) (some b) := .verdict fun s hs => ⟨s, rfl, hs⟩

/-- What goes on with another computation gives its verdict. -/
theorem after {c' : Conduct} (hk : Decides c' J k b?)
    (hm : ∀ s, J s → ∃ s₁, J s₁ ∧ exec c m s = exec c' k s₁) : Decides c J m b? := by
  cases hk with
  | verdict hk =>
    refine .verdict fun s hs => ?_
    obtain ⟨s₁, hs₁, heq⟩ := hm s hs
    rw [heq]
    exact hk s₁ hs₁
  | failure hk =>
    refine .failure fun s hs => ?_
    obtain ⟨s₁, hs₁, heq⟩ := hm s hs
    rw [heq]
    exact hk s₁ hs₁

/-- If the first verdict is positive, the second one is asked for, and counts. -/
theorem andThen (hm : Decides c J m b?) (hk : b? = some true → Decides c J k d?) :
    Decides c J (do if ← m then k else return false)
      (b?.bind fun b => if b then d? else some false) := by
  cases hm with
  | failure hm =>
    refine .failure fun s hs => ?_
    obtain ⟨e, s', he⟩ := hm s hs
    exact ⟨e, s', by rw [exec_bind, he, Ending.andThen_error]⟩
  | @verdict b hm =>
    cases b with
    | false =>
      refine .verdict fun s hs => ?_
      obtain ⟨s', hs', hJ⟩ := hm s hs
      exact ⟨s', by rw [exec_bind, hs', Ending.andThen_ok]; rfl, hJ⟩
    | true =>
      refine (hk rfl).after fun s hs => ?_
      obtain ⟨s', hs', hJ⟩ := hm s hs
      exact ⟨s', hJ, by rw [exec_bind, hs', Ending.andThen_ok]; rfl⟩

theorem exec_eq {b : Bool} (hm : Decides c J m (some b)) (hs : J s) :
    ∃ s', exec c m s = .ok b s' ∧ J s' := by
  cases hm with
  | verdict hm => exact hm s hs

/-- A verdict is the same if a generator asks for it. -/
theorem yielded {ask : Asked} {x : Value} {b : Bool} (h : Decides c J (ask.accepts x) (some b)) :
    Decides c J (ask.yielded.accepts x) (some b) := by
  refine .verdict fun s hs => ?_
  obtain ⟨s', hs', hJ⟩ := h.exec_eq hs
  exact ⟨s', Asked.exec_accepts_apply (m := .yielding) hs', hJ⟩

end Decides

end Run

/-- A callable always gives the same verdict on a value, wherever an invariant holds, or always fails. -/
def Value.Judges (c : Conduct) (J : Session → Prop) (v x : Value) : Option Bool → Prop :=
  Decides c J (do truth (← call v [x]))

/-- A callable whose call comes to a verdict gives that verdict. -/
theorem Run.exec_verdict (host : Host) (n : Nat) {v x : Value} {m : Run Bool}
    (hv : Ask.callWith host v [x] = do return .bool (← m)) {s : Session} (hs : s.Sound) :
    exec (Ask.conduct host (n + 1)) (do truth (← call v [x])) s = exec (Ask.conduct host n) m s := by
  rw [exec_bind, exec_call_of_sound host n hs, hv, exec_bind]
  generalize exec (Ask.conduct host n) m s = r
  cases r <;> rfl

theorem Option.isSome_allM {α : Type} {p : α → Option Bool} {as : List α}
    (h : ∀ a ∈ as, (p a).isSome = true) : (as.allM p).isSome = true := by
  induction as with
  | nil => rfl
  | cons a as ih =>
    obtain ⟨ha, has⟩ := List.forall_mem_cons.mp h
    rw [List.allM]
    rcases hp : p a with _ | _ | _
    · rw [hp] at ha
      cases ha
    · rfl
    · exact ih has

namespace Check

variable {c : Conduct} {J : Session → Prop} {x : Value} {ι : Type}

/-- Whether one field is accepted under its name. -/
def runField (x : Value) (name : Name) (ask : Asked) : Run Bool := do
  match ← guarded (getValue x (.ofName name) .undefined) with
  | none => return false
  | some v => ask.accepts v

theorem runFields_cons (name : Name) (ask : Asked) (fields : List (Name × Asked)) :
    runFields x ((name, ask) :: fields) = do
      if ← runField x name ask then runFields x fields else return false := by
  rw [runFields, runField, bind_assoc]
  refine bind_congr fun v? => ?_
  cases v? with
  | none => rfl
  | some v => rfl

/-- The verdict on a field, where it is always the same value that is read, or none at all. -/
theorem decides_runField {name : Name} {ask : Asked} {v? : Option Value}
    (answer : Value → Option Bool)
    (hget : ∀ s, J s → ∃ s', exec c (guarded (getValue x (.ofName name) .undefined)) s = .ok v? s' ∧
      J s')
    (hask : ∀ v, v? = some v → Decides c J (ask.accepts v) (answer v)) :
    Decides c J (runField x name ask) (v?.elim (some false) answer) := by
  have hrest : Decides c J (v?.elim (return false) ask.accepts) (v?.elim (some false) answer) := by
    cases v? with
    | none => exact .pure false
    | some v => exact hask v rfl
  refine hrest.after fun s hs => ?_
  obtain ⟨s₁, hs₁, hJ⟩ := hget s hs
  refine ⟨s₁, hJ, ?_⟩
  rw [runField, exec_bind, hs₁, Ending.andThen_ok]
  cases v? <;> rfl

/-- Fields are accepted if each of them is, and what comes after a refused one does not matter. -/
theorem decides_runFields {is : List ι} {name : ι → Name} {ask : ι → Asked}
    {verdict : ι → Option Bool}
    (h : ∀ i ∈ is, Decides c J (runField x (name i) (ask i)) (verdict i)) :
    Decides c J (runFields x (is.map fun i => (name i, ask i))) (is.allM verdict) := by
  induction is with
  | nil => exact .pure true
  | cons i is ih =>
    obtain ⟨hi, his⟩ := List.forall_mem_cons.mp h
    rw [List.map_cons, runFields_cons]
    have hbind : (i :: is).allM verdict =
        (verdict i).bind fun b => if b then is.allM verdict else some false := by
      rw [List.allM]
      rcases verdict i with _ | _ | _ <;> rfl
    rw [hbind]
    exact hi.andThen fun _ => ih his

/-- The verdict of a product, by those on the kind of a value, on its keys and on its fields.  A loose
product does not look at the keys. -/
def objectVerdict (mapping? : Option Bool) (strict : Bool) (keys? fields? : Option Bool) :
    Option Bool :=
  mapping?.bind fun mapping =>
    if mapping then
      if strict then keys?.bind fun keys => if keys then fields? else some false
      else fields?
    else some false

theorem objectVerdict_eq_some_true {mapping? keys? fields? : Option Bool} {strict : Bool} :
    objectVerdict mapping? strict keys? fields? = some true ↔ mapping? = some true ∧
      (strict = true → keys? = some true) ∧ fields? = some true := by
  rcases mapping? with _ | _ | _ <;> cases strict <;> rcases keys? with _ | _ | _ <;>
    simp [objectVerdict]

/-- There is a verdict if there is one on everything that is looked at. -/
theorem isSome_objectVerdict {mapping? keys? fields? : Option Bool} {strict : Bool}
    (hmapping : mapping?.isSome = true) (hkeys : strict = true → keys?.isSome = true)
    (hfields : fields?.isSome = true) :
    (objectVerdict mapping? strict keys? fields?).isSome = true := by
  obtain ⟨mapping, rfl⟩ := Option.isSome_iff_exists.mp hmapping
  obtain ⟨verdict, rfl⟩ := Option.isSome_iff_exists.mp hfields
  cases mapping <;> cases strict
  case true.true =>
    obtain ⟨keys, rfl⟩ := Option.isSome_iff_exists.mp (hkeys rfl)
    cases keys <;> rfl
  all_goals rfl

/-- A product looks at the keys only if it is strict. -/
theorem run_object (fields : List (Name × Asked)) (allowed : List (Key Value)) (strict : Bool)
    (x : Value) : (Check.object fields (if strict then some allowed else none)).run x = do
      if ← isOfKind x .mapping then
        if strict then
          if ← runKeys allowed x then runFields x fields else return false
        else runFields x fields
      else return false := by
  change Check.consult _ x = _
  rw [consult.eq_def]
  refine bind_congr fun b => ?_
  cases b <;> cases strict <;> rfl

theorem decides_object {fields : List (Name × Asked)} {allowed : List (Key Value)} {strict : Bool}
    {mapping? keys? fields? : Option Bool} (hmapping : Decides c J (isOfKind x .mapping) mapping?)
    (hkeys : strict = true → Decides c J (runKeys allowed x) keys?)
    (hfields : Decides c J (runFields x fields) fields?) :
    Decides c J ((Check.object fields (if strict then some allowed else none)).run x)
      (objectVerdict mapping? strict keys? fields?) := by
  rw [run_object, objectVerdict]
  refine hmapping.andThen fun _ => ?_
  cases strict with
  | false => exact hfields
  | true => exact (hkeys rfl).andThen fun _ => hfields

end Check

end ValueShape
