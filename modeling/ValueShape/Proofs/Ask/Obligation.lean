import ValueShape.Proofs.Ask.Course
import ValueShape.Proofs.Conduct.Array

/-!
# Obligations

The checks that are products ask their callables about the parts of a value, one after the other.
What they have to ask is settled by the check and by how the value reads, before anything is asked.

* An `Outlook` is how a value reads: its elements, and what the methods of a mapping give.
* `Check.obligations c x o` are the questions of the check `c` about the value `x`, in the order of
  declaration, or nothing if the outside of the value does not fit.
* `Fulfils ds ms r` says that the questions `ms` are the beginning of the obligations `ds` up to the
  first one that is not answered positively, and that `r` is the verdict then.
-/

set_option autoImplicit false

namespace ValueShape

/-! ## How a value reads

An outlook is about the value alone, and is known before anything is asked.  Whatever fails in an
ordinary way has nothing to tell. -/

/-- What the methods of a mapping give; nothing where they fail. -/
structure MappingOutlook where
  /-- The values. -/
  values : Option (List Value)
  /-- The keys. -/
  keys : Option (List Value)
  /-- Whether all keys are among the allowed ones.  This is not so if they cannot be looked up. -/
  within : List (Key Value) → Bool
  /-- The value under a name, or the absent value. -/
  get : Name → Option Value

/-- How a value reads. -/
structure Outlook where
  /-- The elements, if the value is a list or a tuple. -/
  elements : Option (List Value)
  /-- What its methods give, if the value is a mapping. -/
  mapping : Option MappingOutlook

/-! ## Obligations -/

/-- What a callable has to be asked about. -/
inductive Argument
  /-- A value. -/
  | value (v : Value)
  /-- A new sequence of these elements. -/
  | remainder (items : List Value)
  /-- A part of the value that cannot be read. -/
  | unreadable

/-- A value is what a callable has to be asked about. -/
def Argument.Is (h : Heap) (w : Value) : Argument → Prop
  | value v => w.Shows v
  | remainder items => h.sequence? w = some items
  | unreadable => False

namespace Check

variable {κ : Type}

/-- Whether a check is a product: it asks about the parts of a value, or asks several callables about
the value, and wants them all to be answered positively. -/
def isProduct : Check κ Value → Bool
  | array _ | record _ | tuple .. | parameters .. | object .. | allOf _ => true
  | _ => false

/-- Whether a check is about the elements of a list or a tuple. -/
def isSequential : Check κ Value → Bool
  | array _ | tuple .. | parameters .. => true
  | _ => false

theorem isProduct_queries (check : Check κ Value) : check.queries.isProduct = check.isProduct := by
  cases check <;> rfl

/-- The question about what remains after the first `n` elements. -/
def restObligation (rest : Option κ) (items : List Value) (n : Nat) : List (κ × Argument) :=
  rest.toList.map fun f => (f, .remainder (items.drop n))

/-- The questions about arguments, from position `i` on.  The absent value stands for those that are
missing. -/
def argumentObligations (items : List Value) : List κ → Nat → List (κ × Argument)
  | [], _ => []
  | f :: fs, i => (f, .value ((items[i]?).getD .undefined)) :: argumentObligations items fs (i + 1)

/-- Whether the keys of a mapping can be read and are all among the allowed ones, and no more in
number. -/
def keysFit (m : MappingOutlook) (allowed : List (Key Value)) : Bool :=
  m.keys.any fun keys => decide (keys.length ≤ allowed.length) && m.within allowed

/-- **The obligations of a check** about a value, in the order of declaration: what it asks, and
about what.  There are none if the outside of the value does not fit. -/
def obligations (x : Value) (o : Outlook) : Check κ Value → Option (List (κ × Argument))
  | array f => o.elements.map fun items => items.map fun v => (f, .value v)
  | record f =>
    (o.mapping.bind (·.values)).map fun values => values.map fun v => (f, .value v)
  | tuple fs rest =>
    (o.elements.filter fun items =>
        decide (fs.length ≤ items.length) &&
          (rest.isSome || decide (items.length ≤ fs.length))).map fun items =>
      (fs.zip items).map (fun e => (e.1, .value e.2)) ++ restObligation rest items fs.length
  | parameters fs required rest =>
    (o.elements.filter fun items =>
        decide (required ≤ items.length) &&
          (rest.isSome || decide (items.length ≤ fs.length))).map fun items =>
      argumentObligations items fs 0 ++ restObligation rest items fs.length
  | object fields allowed =>
    (o.mapping.filter fun m => allowed.all (keysFit m)).map fun m =>
      fields.map fun e => (e.2, (m.get e.1).elim .unreadable .value)
  | allOf fs => some (fs.map fun f => (f, .value x))
  | _ => none

end Check

/-! ## Fulfilment

A relation, and not a function of the answers: how a question is answered may depend on all that was
done before. -/

/-- **Questions fulfil obligations** as far as they are answered positively.  They end with the first
one that is not, and so do they where a part of the value cannot be read. -/
inductive Fulfils {κ : Type} : List (κ × Argument) → List (Moment κ) → Ending Bool → Prop
  /-- All obligations have been fulfilled. -/
  | done (s : Session) : Fulfils [] [] (.ok true s)
  /-- The next part of the value cannot be read. -/
  | unreadable (f : κ) (ds : List (κ × Argument)) (s : Session) :
      Fulfils ((f, .unreadable) :: ds) [] (.ok false s)
  /-- The next question is answered negatively. -/
  | refused (f : κ) {a : Argument} (ds : List (κ × Argument)) {v : Value} {s : Session}
      (ha : a.Is s.heap v) (s' : Session) :
      Fulfils ((f, a) :: ds) [.asked f v s (.ok false s')] (.ok false s')
  /-- The next question fails. -/
  | failed (f : κ) {a : Argument} (ds : List (κ × Argument)) {v : Value} {s : Session}
      (ha : a.Is s.heap v) (e : Failure) (s' : Session) :
      Fulfils ((f, a) :: ds) [.asked f v s (.error e s')] (.error e s')
  /-- The next question is answered positively. -/
  | accepted (f : κ) {a : Argument} {ds : List (κ × Argument)} {v : Value} {s : Session}
      (ha : a.Is s.heap v) (s' : Session) {ms : List (Moment κ)} {r : Ending Bool}
      (h : Fulfils ds ms r) : Fulfils ((f, a) :: ds) (.asked f v s (.ok true s') :: ms) r

namespace Fulfils

variable {κ : Type} {ds : List (κ × Argument)} {ms : List (Moment κ)} {r : Ending Bool}

/-- The callables are asked in the order of the obligations. -/
theorem callables (h : Fulfils ds ms r) :
    ms.map Moment.callable? = (ds.take ms.length).map fun d => some d.1 := by
  induction h with
  | done | unreadable | refused | failed => rfl
  | accepted f ha s' h ih =>
    rw [List.map_cons, ih, List.length_cons, List.take_succ_cons, List.map_cons]
    rfl

/-- The verdict is positive if and only if all obligations have been answered positively. -/
theorem ending_iff (h : Fulfils ds ms r) :
    (∃ s, r = .ok true s) ↔ ms.length = ds.length ∧ ∀ m ∈ ms, m.isAccepted = true := by
  induction h with
  | done s => simp
  | unreadable f ds s => simp
  | refused f ds ha s' => simp [Moment.isAccepted]
  | failed f ds ha e s' => simp [Moment.isAccepted]
  | accepted f ha s' h ih =>
    rw [ih, List.length_cons, List.length_cons, List.forall_mem_cons, Nat.add_right_cancel_iff]
    exact and_congr_right fun _ => ⟨fun h => ⟨rfl, h⟩, fun h => h.2⟩

end Fulfils

end ValueShape
