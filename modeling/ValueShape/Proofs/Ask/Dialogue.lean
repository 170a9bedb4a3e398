import ValueShape.Ask.Call
import ValueShape.Proofs.Exec

/-!
# Checks as dialogues

A check that runs is a dialogue: it looks at the value, and it asks its callables.  Here the steps
of that dialogue become data, so that it can be said which of them are taken, and in which order.

* A `Look` is a reading of a value whose failure is a failure of the check.  A `Glance` is one whose
  ordinary failure is only noticed.
* A `Dialogue κ α` looks, glances and asks callables of the type `κ`, and ends with an `α`.
* `Check.dialogue c x` is the dialogue that the check `c` holds about the value `x`, whatever its
  callables are.
* A `Query` is a callable and the manner in which it is asked: a generator changes the failures that
  leave it.  `Check.queries c` is the check `c` with its queries for callables, and
  `Check.dialogue_run` says that to run a check is to hold the dialogue of its queries.
-/

set_option autoImplicit false

namespace ValueShape

/-! ## Readings -/

/-- A reading of a value whose failure is a failure of the check. -/
inductive Look
  /-- Whether the value is a list or a tuple. -/
  | array (x : Value)
  /-- Whether the value is a mapping. -/
  | mapping (x : Value)
  /-- The number of elements. -/
  | length (x : Value)
  /-- The start of an iteration. -/
  | cursor (x : Value)
  /-- How many elements an iteration may have. -/
  | limit (c : Cursor)
  /-- The next element of an iteration. -/
  | next (c : Cursor)
  /-- An element of an iteration that has had more of them than there is room for. -/
  | overrun
  /-- The element at an index. -/
  | item (x : Value) (i : Nat)
  /-- What remains after the first `n` elements. -/
  | remainder (x : Value) (n : Nat)
  /-- Whether the value matches a literal. -/
  | literal (x l : Value)
  /-- Whether the value matches one of several literals. -/
  | among (x l : Value)
  /-- Whether the value is an object of a class. -/
  | belongs (x : Value) (cls : Class)
  /-- A reading by a predicate that a generator asks. -/
  | yielded (l : Look)

/-- A reading of a mapping whose ordinary failure makes the check negative. -/
inductive Glance
  /-- The values. -/
  | values (x : Value)
  /-- The keys. -/
  | keys (x : Value)
  /-- Whether keys are among the allowed ones. -/
  | within (allowed : List (Key Value)) (keys : List Value)
  /-- The value under a name, or the absent value. -/
  | get (x : Value) (name : Name)

namespace Look

/-- What a reading gives. -/
abbrev Answer : Look → Type
  | array _ | mapping _ | literal .. | among .. | belongs .. => Bool
  | length _ | limit _ => Nat
  | cursor _ => Cursor
  | next _ => Option (Value × Cursor)
  | overrun => Empty
  | item .. | remainder .. => Value
  | yielded l => l.Answer

/-- How a value is read. -/
def read : (l : Look) → Run l.Answer
  | array x => Check.isArray x
  | mapping x => Run.isOfKind x .mapping
  | length x => Run.size x
  | cursor x => Run.cursor x
  | limit c => Run.limit c
  | next c => Run.next c
  | overrun => throw .noMemory
  | item x i => do Run.item x (← Run.identified (.int i))
  | remainder x n => Run.dropFirst x n
  | literal x l => Run.matchesLiteral x l
  | among x l => do Run.truth (← Run.yielded (Run.matchLiteral x l))
  | belongs x cls => Run.isInstance x cls
  | yielded l => Run.yielded l.read

end Look

namespace Glance

/-- What a reading gives. -/
abbrev Answer : Glance → Type
  | values _ | keys _ => List Value
  | within .. => Bool
  | get .. => Value

/-- How a mapping is read. -/
def read : (g : Glance) → Run g.Answer
  | values x => Run.readParts .values x
  | keys x => Run.readParts .keys x
  | within allowed ks => ks.allM (Run.containsMember allowed)
  | get x name => Run.getValue x (.ofName name) .undefined

end Glance

/-! ## Dialogues -/

/-- A course of readings and questions, which ends with a result. -/
inductive Dialogue (κ α : Type)
  /-- The end. -/
  | done (a : α)
  /-- A reading. -/
  | look (l : Look) (k : l.Answer → Dialogue κ α)
  /-- A reading that may come to nothing. -/
  | glance (g : Glance) (k : Option g.Answer → Dialogue κ α)
  /-- A question to a callable, whose answer counts by its truth value. -/
  | ask (f : κ) (x : Value) (k : Bool → Dialogue κ α)

namespace Dialogue

variable {κ ι α β : Type}

/-- A dialogue that goes on with the result of another one. -/
def bind (k : α → Dialogue κ β) : Dialogue κ α → Dialogue κ β
  | done a => k a
  | look l k' => look l fun a => (k' a).bind k
  | glance g k' => glance g fun a => (k' a).bind k
  | ask f x k' => ask f x fun b => (k' b).bind k

instance : Monad (Dialogue κ) where
  pure := done
  bind d k := d.bind k

/-- A dialogue in which every question is a dialogue of its own. -/
def inline (g : κ → Value → Dialogue ι Bool) : Dialogue κ α → Dialogue ι α
  | done a => done a
  | look l k => look l fun a => (k a).inline g
  | glance l k => glance l fun a => (k a).inline g
  | ask f x k => (g f x).bind fun b => (k b).inline g

/-- Holds a dialogue, where `answer` tells the answers to the questions. -/
def run (answer : κ → Value → Run Bool) : Dialogue κ α → Run α
  | done a => return a
  | look l k => do (k (← l.read)).run answer
  | glance g k => do (k (← Run.guarded g.read)).run answer
  | ask f x k => do (k (← answer f x)).run answer

variable (answer : κ → Value → Run Bool)

@[simp] theorem run_done (a : α) : (done a : Dialogue κ α).run answer = pure a := rfl

theorem run_look (l : Look) (k : l.Answer → Dialogue κ α) :
    (look l k).run answer = l.read >>= fun a => (k a).run answer := rfl

theorem run_glance (g : Glance) (k : Option g.Answer → Dialogue κ α) :
    (glance g k).run answer = Run.guarded g.read >>= fun a => (k a).run answer := rfl

theorem run_ask (f : κ) (x : Value) (k : Bool → Dialogue κ α) :
    (ask f x k).run answer = answer f x >>= fun b => (k b).run answer := rfl

theorem run_bind (d : Dialogue κ α) (k : α → Dialogue κ β) :
    (d >>= k).run answer = d.run answer >>= fun a => (k a).run answer := by
  change (d.bind k).run answer = _
  induction d with
  | done a => simp only [Dialogue.bind, run, pure_bind]
  | look l k' ih | glance l k' ih | ask f x k' ih => simp only [Dialogue.bind, run, ih, bind_assoc]

theorem run_inline (g : ι → Value → Dialogue κ Bool) (d : Dialogue ι α) :
    (d.inline g).run answer = d.run fun f x => (g f x).run answer := by
  induction d with
  | done a => rfl
  | look l k ih | glance l k ih => simp only [inline, run, ih]
  | ask f x k ih =>
    have h := run_bind answer (g f x) fun b => (k b).inline g
    simp only [ih] at h
    exact h

/-! ## Single steps -/

/-- A reading. -/
def looking (l : Look) : Dialogue κ l.Answer := look l done

/-- A question. -/
def asking (f : κ) (x : Value) : Dialogue κ Bool := ask f x done

@[simp] theorem run_looking (l : Look) : (looking l : Dialogue κ _).run answer = l.read := by
  simp only [looking, run, bind_pure]

@[simp] theorem run_asking (f : κ) (x : Value) : (asking f x).run answer = answer f x := by
  simp only [asking, run, bind_pure]

theorem run_ite (p : Bool) (d e : Dialogue κ α) :
    (if p then d else e).run answer = if p then d.run answer else e.run answer := by
  cases p <;> rfl

end Dialogue

/-! ## Checks

Each loop of a check has a dialogue of its own, with the same recursion.  Where the loop asks or
reads, the dialogue has a step. -/

namespace Check

open Dialogue

variable {κ : Type}

/-- About the elements of an iteration, at most `fuel` of them, up to the first one that is
refused. -/
def elementsDialogue (f : κ) : Nat → Cursor → Dialogue κ Bool
  | 0, _ => look .overrun nofun
  | fuel + 1, c =>
    look (.next c) fun
      | none => done true
      | some (v, c) => ask f v fun b => if b then elementsDialogue f fuel c else done false

/-- About values, each for the same callable. -/
def valuesDialogue (f : κ) : List Value → Dialogue κ Bool
  | [] => done true
  | v :: vs => ask f v fun b => if b then valuesDialogue f vs else done false

/-- About the elements of an iteration, position by position. -/
def headDialogue : List κ → Cursor → Dialogue κ Bool
  | [], _ => done true
  | f :: fs, c =>
    look (.next c) fun
      | none => done true
      | some (v, c) => ask f v fun b => if b then headDialogue fs c else done false

/-- About arguments, from position `i` on. -/
def argumentsDialogue (x : Value) (length : Nat) : List κ → Nat → Dialogue κ Bool
  | [], _ => done true
  | f :: fs, i =>
    let goOn (v : Value) :=
      ask f v fun b => if b then argumentsDialogue x length fs (i + 1) else done false
    if i < length then look (.item x i) goOn else goOn .undefined

/-- About what remains after the first `n` elements, if there is a callable for that. -/
def restDialogue (rest : Option κ) (x : Value) (n : Nat) : Dialogue κ Bool :=
  match rest with
  | none => done true
  | some f => look (.remainder x n) fun v => asking f v

/-- About the arguments of a list of them, and then about what remains. -/
def positionsDialogue (fs : List κ) (rest : Option κ) (x : Value) : Dialogue κ Bool :=
  look (.length x) fun n => do
    if ← argumentsDialogue x n fs 0 then restDialogue rest x fs.length else done false

/-- About fields, one after the other. -/
def fieldsDialogue (x : Value) : List (Name × κ) → Dialogue κ Bool
  | [] => done true
  | (name, f) :: fields =>
    glance (.get x name) fun
      | none => done false
      | some v => ask f v fun b => if b then fieldsDialogue x fields else done false

/-- About the keys of a mapping. -/
def keysDialogue (allowed : List (Key Value)) (x : Value) : Dialogue κ Bool :=
  glance (.keys x) fun
    | none => done false
    | some keys =>
      if allowed.length < keys.length then done false
      else glance (.within allowed keys) fun b => done (b.getD false)

/-- About a value, for one callable after the other, up to the first one that accepts it. -/
def anyDialogue (x : Value) : List κ → Dialogue κ Bool
  | [] => done false
  | f :: fs => ask f x fun b => if b then done true else anyDialogue x fs

/-- About a value, for one callable after the other, up to the first one that refuses it. -/
def allDialogue (x : Value) : List κ → Dialogue κ Bool
  | [] => done true
  | f :: fs => ask f x fun b => if b then allDialogue x fs else done false

/-- About literals, up to the first one that the value matches. -/
def literalsDialogue (x : Value) : List Value → Dialogue κ Bool
  | [] => done false
  | l :: ls => look (.among x l) fun (b : Bool) => if b then done true else literalsDialogue x ls

/-- **The dialogue of a check** about a value. -/
def dialogue (c : Check κ Value) (x : Value) : Dialogue κ Bool :=
  match c with
  | array f =>
    look (.array x) fun (b : Bool) =>
      if b then look (.cursor x) fun c => look (.limit c) fun n => elementsDialogue f n c
      else done false
  | record f =>
    look (.mapping x) fun (b : Bool) =>
      if b then glance (.values x) fun vs => vs.elim (done false) (valuesDialogue f)
      else done false
  | tuple fs rest =>
    look (.array x) fun (b : Bool) =>
      if b then look (.length x) fun n =>
        if n < fs.length || (rest.isNone && fs.length < n) then done false
        else look (.cursor x) fun c => do
          if ← headDialogue fs c then restDialogue rest x fs.length else done false
      else done false
  | parameters fs required rest =>
    look (.array x) fun (b : Bool) =>
      if b then look (.length x) fun n =>
        if n < required then done false
        else if rest.isNone then look (.length x) fun n =>
          if fs.length < n then done false else positionsDialogue fs rest x
        else positionsDialogue fs rest x
      else done false
  | object fields allowed =>
    look (.mapping x) fun (b : Bool) =>
      if b then match allowed with
        | none => fieldsDialogue x fields
        | some allowed => do
          if ← keysDialogue allowed x then fieldsDialogue x fields else done false
      else done false
  | oneOf fs => anyDialogue x fs
  | allOf fs => allDialogue x fs
  | literal l => looking (.literal x l)
  | literals ls => literalsDialogue x ls
  | instanceOf cls => looking (.belongs x cls)
  | optional f => if x.identical .undefined then done true else asking f x

/-! ### Holding the dialogue

Each dialogue is held as its loop runs, by induction on what the loop goes through. -/

variable (answer : κ → Value → Run Bool)

theorem elementsDialogue_run (f : κ) (fuel : Nat) (c : Cursor) :
    (elementsDialogue f fuel c).run answer = Run.allUpTo (answer f) fuel c := by
  induction fuel generalizing c with
  | zero => rfl
  | succ fuel ih =>
    rw [elementsDialogue, run_look, Run.allUpTo]
    refine bind_congr fun next => ?_
    rcases next with _ | ⟨v, c⟩
    · rfl
    · rw [run_ask]
      refine bind_congr fun b => ?_
      rw [run_ite, ih, run_done]

theorem valuesDialogue_run (f : κ) (vs : List Value) :
    (valuesDialogue f vs).run answer = vs.allM (answer f) := by
  induction vs with
  | nil => rfl
  | cons v vs ih =>
    rw [valuesDialogue, run_ask, List.allM]
    refine bind_congr fun b => ?_
    cases b
    · rfl
    · exact ih

theorem literalsDialogue_run (x : Value) (ls : List Value) :
    (literalsDialogue x ls).run answer = ls.anyM fun l => (Look.among x l).read := by
  induction ls with
  | nil => rfl
  | cons l ls ih =>
    rw [literalsDialogue, run_look, List.anyM]
    refine bind_congr fun b => ?_
    cases b
    · exact ih
    · rfl

variable (asked : κ → Asked)

theorem anyDialogue_run (x : Value) (fs : List κ) :
    (anyDialogue x fs).run (fun f => (asked f).accepts) =
      (fs.map asked).anyM fun ask => ask.accepts x := by
  induction fs with
  | nil => rfl
  | cons f fs ih =>
    rw [anyDialogue, run_ask, List.map_cons, List.anyM]
    refine bind_congr fun b => ?_
    cases b
    · exact ih
    · rfl

theorem allDialogue_run (x : Value) (fs : List κ) :
    (allDialogue x fs).run (fun f => (asked f).accepts) =
      (fs.map asked).allM fun ask => ask.accepts x := by
  induction fs with
  | nil => rfl
  | cons f fs ih =>
    rw [allDialogue, run_ask, List.map_cons, List.allM]
    refine bind_congr fun b => ?_
    cases b
    · rfl
    · exact ih

theorem headDialogue_run (fs : List κ) (c : Cursor) :
    (headDialogue fs c).run (fun f => (asked f).accepts) = runHead (fs.map asked) c := by
  induction fs generalizing c with
  | nil => rfl
  | cons f fs ih =>
    rw [headDialogue, run_look, List.map_cons, runHead]
    refine bind_congr fun next => ?_
    rcases next with _ | ⟨v, c⟩
    · rfl
    · rw [run_ask]
      refine bind_congr fun b => ?_
      rw [run_ite, ih, run_done]

theorem argumentsDialogue_run (x : Value) (length : Nat) (fs : List κ) (i : Nat) :
    (argumentsDialogue x length fs i).run (fun f => (asked f).accepts) =
      runArguments x length (fs.map asked) i := by
  induction fs generalizing i with
  | nil => rfl
  | cons f fs ih =>
    rw [argumentsDialogue, List.map_cons, runArguments]
    have goOn (v : Value) : (ask f v fun b =>
          if b then argumentsDialogue x length fs (i + 1) else done false).run
            (fun f => (asked f).accepts) =
        do if ← (asked f).accepts v then runArguments x length (fs.map asked) (i + 1)
           else return false := by
      rw [run_ask]
      refine bind_congr fun b => ?_
      rw [run_ite, ih, run_done]
    by_cases hi : i < length
    · simp only [hi, if_true, run_look, goOn, Look.read, bind_assoc]
    · simp only [hi, if_false, goOn, pure_bind]

theorem restDialogue_run (rest : Option κ) (x : Value) (n : Nat) :
    (restDialogue rest x n).run (fun f => (asked f).accepts) =
      runRest (rest.map asked) x n := by
  rcases rest with _ | f
  · rfl
  · rw [restDialogue, run_look]
    refine bind_congr fun v => ?_
    exact run_asking _ f v

theorem positionsDialogue_run (fs : List κ) (rest : Option κ) (x : Value) :
    (positionsDialogue fs rest x).run (fun f => (asked f).accepts) =
      do if ← runArguments x (← Run.size x) (fs.map asked) 0
         then runRest (rest.map asked) x fs.length else return false := by
  rw [positionsDialogue, run_look]
  refine bind_congr fun n => ?_
  rw [run_bind, argumentsDialogue_run]
  refine bind_congr fun b => ?_
  rw [run_ite, restDialogue_run]
  rfl

theorem fieldsDialogue_run (x : Value) (fields : List (Name × κ)) :
    (fieldsDialogue x fields).run (fun f => (asked f).accepts) =
      runFields x (fields.map fun e => (e.1, asked e.2)) := by
  induction fields with
  | nil => rfl
  | cons e fields ih =>
    obtain ⟨name, f⟩ := e
    rw [fieldsDialogue, run_glance, List.map_cons, runFields]
    refine bind_congr fun v => ?_
    rcases v with _ | v
    · rfl
    · rw [run_ask]
      refine bind_congr fun b => ?_
      rw [run_ite, ih, run_done]

theorem keysDialogue_run (allowed : List (Key Value)) (x : Value) :
    (keysDialogue allowed x : Dialogue κ Bool).run answer = runKeys allowed x := by
  rw [keysDialogue, run_glance, runKeys]
  refine bind_congr fun keys => ?_
  rcases keys with _ | keys
  · rfl
  · by_cases h : allowed.length < keys.length
    · simp [h]
    · simp only [h, if_false]
      rfl

/-- To consult a check is to hold its dialogue. -/
theorem dialogue_consult (c : Check κ Value) (x : Value) :
    (c.dialogue x).run (fun f => (asked f).accepts) = (c.map asked).consult x := by
  cases c with
  | array f =>
    rw [dialogue, run_look, Check.map, consult]
    refine bind_congr fun b => ?_
    cases b
    · rfl
    · refine bind_congr fun c => ?_
      refine bind_congr fun n => ?_
      exact elementsDialogue_run _ f n c
  | record f =>
    rw [dialogue, run_look, Check.map, consult]
    refine bind_congr fun b => ?_
    cases b
    · rfl
    · refine bind_congr fun vs => ?_
      rcases vs with _ | vs
      · rfl
      · exact valuesDialogue_run _ f vs
  | tuple fs rest =>
    rw [dialogue, run_look, Check.map, consult]
    refine bind_congr fun b => ?_
    cases b
    · rfl
    · refine bind_congr fun n => ?_
      simp only [List.length_map, Option.isNone_map]
      by_cases h : (decide (n < fs.length) || rest.isNone && decide (fs.length < n)) = true
      · simp only [h, if_true]
        rfl
      · simp only [h]
        refine bind_congr fun c => ?_
        rw [run_bind, headDialogue_run]
        refine bind_congr fun b => ?_
        rw [run_ite, restDialogue_run]
        rfl
  | parameters fs required rest =>
    rw [dialogue, run_look, Check.map, consult]
    refine bind_congr fun b => ?_
    cases b
    · rfl
    · refine bind_congr fun n => ?_
      by_cases h : n < required
      · simp only [h, if_true]
        rfl
      · simp only [h, if_false, Option.isNone_map, List.length_map]
        cases rest.isNone
        · exact positionsDialogue_run asked fs rest x
        · refine bind_congr fun n => ?_
          by_cases hn : fs.length < n
          · simp only [hn, if_true]
            rfl
          · simp only [hn, if_false]
            exact positionsDialogue_run asked fs rest x
  | object fields allowed =>
    rw [dialogue.eq_def, run_look, Check.map, consult.eq_def]
    refine bind_congr fun b => ?_
    cases b
    · rfl
    · rcases allowed with _ | allowed
      · exact fieldsDialogue_run asked x fields
      · refine (run_bind _ _ _).trans ?_
        rw [keysDialogue_run]
        refine bind_congr fun b => ?_
        rw [run_ite, fieldsDialogue_run]
        rfl
  | oneOf fs => exact anyDialogue_run asked x fs
  | allOf fs => exact allDialogue_run asked x fs
  | literal l => exact run_looking _ _
  | literals ls => exact literalsDialogue_run _ x ls
  | instanceOf cls => exact run_looking _ _
  | optional f =>
    rw [dialogue, run_ite, run_asking, run_done]
    rfl

end Check

/-! ## Queries

A callable is asked directly, or by a generator.  The generator ends where an iteration inside of it
does, so it lets the failure out as another one; the truth value of what it yields is taken outside of
it.  If the callable is asked by a predicate that a generator asks, then everything is inside. -/

/-- How a callable is asked. -/
inductive Manner
  /-- Directly. -/
  | plain
  /-- By a generator. -/
  | yielding
  /-- By a predicate that a generator asks. -/
  | inside
deriving DecidableEq

/-- A callable of a check, and the manner in which it is asked. -/
structure Query (κ : Type) where
  /-- The manner. -/
  manner : Manner
  /-- The callable. -/
  callable : κ

/-- A function as it is asked in a manner. -/
def Manner.apply (ask : Asked) : Manner → Asked
  | plain => ask
  | yielding => ask.yielded
  | inside => fun x => .bool <$> Run.yielded (ask.accepts x)

/-- The query, where a generator asks the predicate that it is a query of. -/
def Query.inside {κ : Type} (q : Query κ) : Query κ := ⟨.inside, q.callable⟩

/-- The function that is asked for a query. -/
def Query.asked {κ : Type} (asked : κ → Asked) (q : Query κ) : Asked := q.manner.apply (asked q.callable)

/-- How a query is answered. -/
abbrev Query.accepts {κ : Type} (asked : κ → Asked) (q : Query κ) : Value → Run Bool :=
  (q.asked asked).accepts

namespace Asked

variable (ask : Asked) (x : Value)

theorem accepts_yielding : (Manner.yielding.apply ask).accepts x = ask.yielded.accepts x := rfl

theorem accepts_inside : (Manner.inside.apply ask).accepts x = Run.yielded (ask.accepts x) := by
  simp only [Manner.apply, accepts, map_eq_pure_bind, bind_assoc, pure_bind, Run.truth_bool,
    bind_pure]

/-- What a generator yields is not the end of an iteration. -/
theorem yielded_accepts_yielded : Run.yielded (ask.yielded.accepts x) = Run.yielded (ask.accepts x) := by
  simp only [accepts, yielded, Run.yielded_bind, Run.yielded_yielded]

/-- What is inside of a generator is not yielded twice. -/
theorem yielded_accepts_apply (m : Manner) :
    Run.yielded ((m.apply ask).accepts x) = Run.yielded (ask.accepts x) := by
  cases m with
  | plain => rfl
  | yielding => exact ask.yielded_accepts_yielded x
  | inside => rw [accepts_inside, Run.yielded_yielded]

variable {ask x} {m : Manner} {c : Conduct} {s s' : Session} {b : Bool}

/-- An answer is the same in every manner. -/
theorem exec_accepts_apply (h : Run.exec c (ask.accepts x) s = .ok b s') :
    Run.exec c ((m.apply ask).accepts x) s = .ok b s' := by
  cases m with
  | plain => exact h
  | yielding =>
    rw [accepts, Run.exec_bind] at h
    rw [accepts_yielding, accepts, yielded, Run.exec_bind, Run.exec_yielded]
    rcases hx : Run.exec c (ask x) s with ⟨v, s₁⟩ | ⟨e, s₁⟩
    · rwa [hx] at h
    · rw [hx] at h
      cases h
  | inside => rw [accepts_inside, Run.exec_yielded, h, Ending.yielded_ok]

/-- A failure is the same in every manner, but for the end of an iteration. -/
theorem exec_accepts_apply_error {e : Failure} (h : Run.exec c (ask.accepts x) s = .error e s') :
    ∃ e', Run.exec c ((m.apply ask).accepts x) s = .error e' s' ∧ (e' = e ∨ e' = e.yielded) := by
  cases m with
  | plain => exact ⟨e, h, .inl rfl⟩
  | yielding =>
    rw [accepts, Run.exec_bind] at h
    rw [accepts_yielding, accepts, yielded, Run.exec_bind, Run.exec_yielded]
    rcases hx : Run.exec c (ask x) s with ⟨v, s₁⟩ | ⟨e₁, s₁⟩
    · rw [hx] at h
      exact ⟨e, h, .inl rfl⟩
    · rw [hx] at h
      cases h
      exact ⟨_, rfl, .inr rfl⟩
  | inside => exact ⟨_, by rw [accepts_inside, Run.exec_yielded, h, Ending.yielded_error], .inr rfl⟩

/-- So an answer in any manner is an answer. -/
theorem exec_accepts_of_apply (h : Run.exec c ((m.apply ask).accepts x) s = .ok b s') :
    Run.exec c (ask.accepts x) s = .ok b s' := by
  rcases hx : Run.exec c (ask.accepts x) s with ⟨b', s₁⟩ | ⟨e, s₁⟩
  · rw [exec_accepts_apply hx] at h
    exact h
  · obtain ⟨e', he', -⟩ := exec_accepts_apply_error (m := m) hx
    rw [he'] at h
    cases h

/-- The answers of a function are told true from false without the end of an iteration, so it makes no
difference where their truth values are taken. -/
def IsTold (ask : Asked) : Prop := ∀ x, ask.yielded.accepts x = Run.yielded (ask.accepts x)

/-- So it is if the answers are truth values. -/
theorem isTold_of_bool {verdict : Value → Run Bool} (h : ∀ x, ask x = .bool <$> verdict x) :
    ask.IsTold := by
  intro x
  simp only [accepts, yielded, h, map_eq_pure_bind, Run.yielded_bind, Run.yielded_pure, bind_assoc,
    pure_bind, Run.truth_bool]

end Asked

theorem Query.accepts_inside {κ : Type} (asked : κ → Asked) (q : Query κ) (x : Value) :
    q.inside.accepts asked x = Run.yielded (q.accepts asked x) :=
  (Asked.accepts_inside _ x).trans (Asked.yielded_accepts_apply _ x q.manner).symm

namespace Check

variable {κ ι : Type}

/-- A check with its queries for callables. -/
def queries : Check κ Value → Check (Query κ) Value
  | array f => array ⟨.yielding, f⟩
  | record f => record ⟨.yielding, f⟩
  | tuple fs rest => tuple (fs.map fun f => ⟨.yielding, f⟩) (rest.map fun f => ⟨.plain, f⟩)
  | oneOf fs => oneOf (fs.map fun f => ⟨.yielding, f⟩)
  | allOf fs => allOf (fs.map fun f => ⟨.yielding, f⟩)
  | c => c.map fun f => ⟨.plain, f⟩

theorem yielding_map (asked : κ → Asked) (c : Check κ Value) :
    (c.map asked).yielding = c.queries.map (Query.asked asked) := by
  cases c with
  | array | record | literal | literals | instanceOf | optional => rfl
  | tuple | parameters | object | oneOf | allOf =>
    simp only [Check.map, yielding, queries, List.map_map, Option.map_map]
    rfl

/-- **To run a check is to hold the dialogue of its queries.** -/
theorem dialogue_run (asked : κ → Asked) (c : Check κ Value) (x : Value) :
    (c.queries.dialogue x).run (Query.accepts asked) = (c.map asked).run x := by
  rw [run, yielding_map, dialogue_consult]

/-- A callable of a query is one of the check. -/
theorem callable_mem_of_mem_queries {c : Check κ Value} {q : Query κ} (hq : q ∈ c.queries.callables) :
    q.callable ∈ c.callables := by
  cases c <;> simp [queries, Check.map, callables] at hq ⊢ <;> grind

/-- The queries of a check are not inside of anything else yet. -/
theorem manner_of_mem_queries {c : Check κ Value} {q : Query κ} (hq : q ∈ c.queries.callables) :
    q.manner ≠ .inside := by
  cases c <;> simp [queries, Check.map, callables] at hq ⊢ <;> grind

end Check

end ValueShape
