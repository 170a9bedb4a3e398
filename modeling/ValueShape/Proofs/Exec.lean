import ValueShape.Session

/-!
# What a computation does to a session

A computation under a conduct takes a session to its ending: to a result or a failure, and to the
session that it leaves.

* `Run.exec c m s` is the ending of the computation `m` that starts in the session `s` under the
  conduct `c`.
* One equation for every way of building computations says how its ending comes from those of its
  parts.
-/

set_option autoImplicit false

namespace ValueShape

/-- How a computation ends: with a result or a failure, in a session. -/
abbrev Ending := EStateM.Result Failure Session

namespace Ending

variable {α β γ : Type}

/-- The ending of what goes on with a result. -/
def andThen (r : Ending α) (k : α → Session → Ending β) : Ending β :=
  match r with
  | .ok a s => k a s
  | .error e s => .error e s

@[simp] theorem andThen_ok (a : α) (s : Session) (k : α → Session → Ending β) :
    andThen (.ok a s) k = k a s := rfl

@[simp] theorem andThen_error (e : Failure) (s : Session) (k : α → Session → Ending β) :
    andThen (.error e s) k = .error e s := rfl

theorem andThen_assoc (r : Ending α) (k : α → Session → Ending β) (k' : β → Session → Ending γ) :
    (r.andThen k).andThen k' = r.andThen fun a s => (k a s).andThen k' := by
  cases r <;> rfl

/-- The failure that a computation ends with, and the session then. -/
def failure? : Ending α → Option (Failure × Session)
  | .ok _ _ => none
  | .error e s => some (e, s)

/-- The session that a computation leaves. -/
def session : Ending α → Session
  | .ok _ s | .error _ s => s

/-- The result that a computation ends with. -/
def result? : Ending α → Option α
  | .ok a _ => some a
  | .error _ _ => none

/-- The ending of a computation whose result is turned into another one. -/
def map (f : α → β) (r : Ending α) : Ending β := r.andThen fun a s => .ok (f a) s

/-- The ending of a computation inside of a generator. -/
def yielded : Ending α → Ending α
  | .ok a s => .ok a s
  | .error e s => .error e.yielded s

@[simp] theorem yielded_ok (a : α) (s : Session) : yielded (.ok a s) = .ok a s := rfl

@[simp] theorem yielded_error (e : Failure) (s : Session) :
    yielded (.error e s : Ending α) = .error e.yielded s := rfl

@[simp] theorem result?_yielded (r : Ending α) : r.yielded.result? = r.result? := by
  cases r <;> rfl

theorem yielded_eq_ok {r : Ending α} {a : α} {s : Session} : r.yielded = .ok a s ↔ r = .ok a s := by
  cases r <;> simp [yielded]

theorem yielded_andThen (r : Ending α) (k : α → Session → Ending β) :
    (r.andThen k).yielded = r.yielded.andThen fun a s => (k a s).yielded := by
  cases r <;> rfl

@[simp] theorem yielded_yielded (r : Ending α) : r.yielded.yielded = r.yielded := by
  cases r <;> simp

end Ending

/-- A session that hands out other identities. -/
def Session.withNext (s : Session) (n : Nat) : Session :=
  { s with heap := { s.heap with next := n } }

namespace Run

variable {α β : Type}

/-- The ending of a computation under a conduct, from a session on. -/
def exec (c : Conduct) (m : Run α) (s : Session) : Ending α := EStateM.run (ReaderT.run m c) s

variable (c : Conduct) (s : Session)

/-! ## Composition

How endings are composed when computations are.  All proofs about single computations carry them out
by these equations. -/

@[simp] theorem exec_pure (a : α) : exec c (pure a) s = .ok a s := rfl

@[simp] theorem exec_throw (e : Failure) : exec c (throw e : Run α) s = .error e s := rfl

@[simp] theorem exec_bind (m : Run α) (k : α → Run β) :
    exec c (m >>= k) s = (exec c m s).andThen fun a s => exec c (k a) s := by
  change EStateM.bind (m c) (fun a => k a c) s = Ending.andThen (m c s) fun a s => k a c s
  simp only [EStateM.bind]
  cases m c s <;> rfl

@[simp] theorem exec_map (f : α → β) (m : Run α) :
    exec c (f <$> m) s = (exec c m s).map f := by
  rw [← bind_pure_comp, exec_bind]
  rfl

@[simp] theorem exec_tryCatch (m : Run α) (recover : Failure → Run α) :
    exec c (tryCatch m recover) s =
      match exec c m s with
      | .ok a s => .ok a s
      | .error e s => exec c (recover e) s := by
  change EStateM.tryCatch (m c) (fun e => recover e c) s = _
  delta EStateM.tryCatch
  cases h : m c s <;> simp only [exec, ReaderT.run, EStateM.run, h]
  rfl

theorem exec_ite (p : Prop) [Decidable p] (m n : Run α) :
    exec c (if p then m else n) s = if p then exec c m s else exec c n s := by
  split <;> rfl

theorem exec_recovering (fails : Failure → Bool) (m : Run α) :
    exec c (recovering fails m) s =
      match exec c m s with
      | .ok a s => .ok (some a) s
      | .error e s => if fails e then .ok none s else .error e s := by
  rw [recovering, exec_tryCatch, exec_map]
  rcases exec c m s with ⟨a, s'⟩ | ⟨e, s'⟩
  · rfl
  · simp only [Ending.map, Ending.andThen_error]
    exact exec_ite c s' (fails e = true) _ _

@[simp] theorem exec_yielded (m : Run α) : exec c (yielded m) s = (exec c m s).yielded := by
  rw [yielded, exec_tryCatch]
  cases exec c m s <;> rfl

/-- A generator lets results out as they are. -/
theorem exec_yielded_of_ok {c : Conduct} {s s' : Session} {m : Run α} {a : α}
    (h : exec c m s = .ok a s') : exec c (yielded m) s = .ok a s' := by
  rw [exec_yielded, h, Ending.yielded_ok]

/-- Computations are the same if they end in the same way. -/
theorem ext_exec {m n : Run α} (h : ∀ c s, exec c m s = exec c n s) : m = n :=
  funext fun c => funext (h c)

@[simp] theorem yielded_pure (a : α) : yielded (pure a : Run α) = pure a := rfl

theorem yielded_bind (m : Run α) (k : α → Run β) :
    yielded (m >>= k) = yielded m >>= fun a => yielded (k a) :=
  ext_exec fun c s => by simp only [exec_yielded, exec_bind, Ending.yielded_andThen]

@[simp] theorem yielded_map (f : α → β) (m : Run α) : yielded (f <$> m) = f <$> yielded m := by
  simp only [map_eq_pure_bind, yielded_bind, yielded_pure]

@[simp] theorem yielded_yielded (m : Run α) : yielded (yielded m) = yielded m :=
  ext_exec fun c s => by simp only [exec_yielded, Ending.yielded_yielded]

/-- What is guarded does not fail with the end of an iteration. -/
@[simp] theorem yielded_guarded (m : Run α) : yielded (guarded m) = guarded m :=
  ext_exec fun c s => by
    rw [exec_yielded, guarded, exec_recovering]
    rcases exec c m s with ⟨a, s'⟩ | ⟨e, s'⟩
    · rfl
    · cases he : e.isOrdinary with
      | true => simp only [he, if_true, Ending.yielded_ok]
      | false =>
        have hend : e.isOfEnd = false := by
          cases h : e.isOfEnd with
          | false => rfl
          | true =>
            rw [Failure.isOfEnd, beq_iff_eq] at h
            rw [Failure.isOrdinary_eq_category, h] at he
            exact absurd he (by decide)
        simp only [he, Bool.false_eq_true, if_false, Ending.yielded_error,
          Failure.yielded_of_not hend]

/-- Two computations that begin in the same way fail in the same way, if they do so afterwards. -/
theorem exec_error_of_bind {γ : Type} {c : Conduct} {s s' : Session} {e : Failure}
    {m : Run α} {k : α → Run β} {k' : α → Run γ}
    (he : exec c (m >>= k) s = .error e s')
    (hk : ∀ a s₁, exec c (k a) s₁ = .error e s' → exec c (k' a) s₁ = .error e s') :
    exec c (m >>= k') s = .error e s' := by
  rw [exec_bind] at he ⊢
  rcases hm : exec c m s with ⟨a, s₁⟩ | ⟨e₁, s₁⟩
  · rw [hm] at he
    exact hk a s₁ he
  · rw [hm] at he
    cases he
    rfl

/-- A computation that gives a result has had a result of its first part. -/
theorem exists_of_exec_bind {c : Conduct} {s s' : Session} {m : Run α} {k : α → Run β} {b : β}
    (h : exec c (m >>= k) s = .ok b s') :
    ∃ a s₁, exec c m s = .ok a s₁ ∧ exec c (k a) s₁ = .ok b s' := by
  rw [exec_bind] at h
  rcases hm : exec c m s with ⟨a, s₁⟩ | ⟨e, s₁⟩
  · rw [hm] at h
    exact ⟨a, s₁, rfl, h⟩
  · rw [hm] at h
    cases h

/-! ## The state -/

@[simp] theorem exec_get : exec c get s = .ok s s := rfl

@[simp] theorem exec_heap : exec c heap s = .ok s.heap s := rfl

@[simp] theorem exec_modifyHeap (f : Heap → Heap) :
    exec c (modifyHeap f) s = .ok () { s with heap := f s.heap } := rfl

@[simp] theorem exec_fresh :
    exec c fresh s = .ok s.heap.next (s.withNext (s.heap.next + 1)) := rfl

@[simp] theorem exec_log (e : Event) :
    exec c (log e) s = .ok () { s with events := s.events ++ [e] } := rfl

/-! ## Conduct -/

@[simp] theorem exec_call (f : Value) (args : List Value) :
    exec c (call f args) s = c.call f args s := rfl

@[simp] theorem exec_compare (v w : Value) : exec c (compare v w) s = c.compare v w s := rfl

@[simp] theorem exec_hash (v : Value) : exec c (hash v) s = c.hash v s := rfl

end Run

end ValueShape
