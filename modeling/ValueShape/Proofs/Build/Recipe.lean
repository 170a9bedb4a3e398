import ValueShape.Operation
import ValueShape.Proofs.Build.Title
import ValueShape.Proofs.Facet.Wrapping

/-!
# What products are made from

A product remembers in its metadata which factory it was made by, and from which arguments.

* A `Recipe` is what the factory makes of the arguments.  It settles how the product decides and
  which facets it has: `Recipe.decides`, `Recipe.facets`.
* `Recipe.Product r title q` says that the predicate `q` is a product of the recipe with the given
  name.  Two products of one recipe ask the same (`Recipe.Product.callWith_eq`).
* `Recipe.Told old h r args` says that the arguments in metadata tell the recipe, without the first
  `old` cells of the heap, and `Session.Makes s old r title q` that the predicate is registered with
  such metadata.
-/

set_option autoImplicit false

namespace ValueShape

open Run

/-! ## Recipes

There is one constructor for each way in which a product decides and in which its metadata tells
about it.  The two namings of tuples differ in their metadata, so they are kept apart by an
argument. -/

/-- What a product is made from, as its metadata tells. -/
inductive Recipe
  /-- One predicate for all elements of a sequence. -/
  | array (item : Value)
  /-- One predicate for each position, and perhaps one for the rest. -/
  | tuple (naming : TupleNaming) (head : List Value) (rest : Option Value)
  /-- A number and a predicate, which has been repeated so many times. -/
  | uniformTuple (naming : TupleNaming) (n item : Value) (head : List Value)
  /-- One predicate for all values of a mapping. -/
  | record (item : Value)
  /-- One predicate for each name, in the order in which they are listed.  A name may be listed more
  than once. -/
  | object (fields : List (Name × Value)) (strict : Bool)
  /-- One predicate for each argument, the first ones of which are required. -/
  | parameters (head : List Value) (required : Nat) (rest : Option Value)
  /-- Predicates one of which has to accept. -/
  | oneOf (members : List Value)
  /-- Predicates all of which have to accept. -/
  | allOf (members : List Value)
  /-- One literal. -/
  | literal (v : Value)
  /-- Several literals. -/
  | literals (vs : List Value)
  /-- A class. -/
  | instanceOf (cls : Class)
  /-- A callable, which keeps its readonly facet. -/
  | optional (q : Value) (readonly : Bool)
  /-- A callable, which keeps its optional facet. -/
  | readonly (q : Value) (optional : Bool)

/-- How a product decides. -/
inductive Decision
  /-- By a rule. -/
  | rule (check : Check Value Value)
  /-- By a predicate that has a rule. -/
  | predicate (check : Check Value Value)
  /-- By a callable. -/
  | callable (q : Value)

/-- A callable decides in a certain way. -/
inductive Decision.By : Decision → Value → Prop
  | rule (id : Nat) (check : Check Value Value) : By (.rule check) (.rule id check)
  | predicate (id : Nat) (name : Name) (f : Facets) (id' : Nat) (check : Check Value Value) :
      By (.predicate check) (.predicate id name f (.rule id' check))
  | callable (q : Value) : By (.callable q) q

namespace Recipe

/-- The factory that makes products of a recipe. -/
def factory : Recipe → String
  | array _ => Operation.arrayOf.name
  | tuple naming .. => naming.tupleOf.name
  | uniformTuple naming .. => naming.uniformTupleOf.name
  | record _ => Operation.recordOf.name
  | object .. => Operation.objectOf.name
  | parameters .. => Operation.parametersOf.name
  | oneOf _ => Operation.oneOf.name
  | allOf _ => Operation.allOf.name
  | literal _ => Operation.literalOf.name
  | literals _ => Operation.literalOneOf.name
  | instanceOf _ => Operation.instanceOf.name
  | optional .. => Modifier.optional.name
  | readonly .. => Modifier.readonly.name

/-- The facets of products of a recipe. -/
def facets : Recipe → Facets
  | optional _ r => ⟨true, r⟩
  | readonly _ o => ⟨o, true⟩
  | _ => .none

/-- How products of a recipe decide. -/
def decides : Recipe → Decision
  | array item => .rule (.array item)
  | tuple _ head rest => .rule (.tuple head rest)
  | uniformTuple _ _ _ head => .predicate (.tuple head none)
  | record item => .rule (.record item)
  | object fields strict =>
    .rule (.object fields (if strict then some ((distinctFields fields).map (·.1.key)) else none))
  | parameters head required rest => .rule (.parameters head required rest)
  | oneOf members => .rule (.oneOf members)
  | allOf members => .rule (.allOf members)
  | literal v => .rule (.literal v)
  | literals vs => .rule (.literals vs)
  | instanceOf cls => .rule (.instanceOf cls)
  | optional q _ => .rule (.optional q)
  | readonly q _ => .callable q

/-- The fields that tell whether an `object_of` product is strict. -/
def strictFields (strict : Bool) : List (Name × Value) := [(.kept strictKey, .bool strict)]

/-- The arguments in metadata tell a recipe.  They are copies of what the factory was called with:
tuples, and read-only mappings that show mappings of their own, none of which is among the first `old`
cells.  Of fields that are listed more than once, such a mapping only tells what they amount to. -/
inductive Told (old : Nat) (h : Heap) : Recipe → List Value → Prop
  | array (item : Value) : Told old h (.array item) [item]
  | tuple (naming : TupleNaming) (id : Nat) (head : List Value) (rest : Option Value) :
      Told old h (.tuple naming head rest) (.tuple (.kind .tuple) id head :: rest.toList)
  | uniformTuple (naming : TupleNaming) (n item : Value) (head : List Value) :
      Told old h (.uniformTuple naming n item head) [n, item]
  | record (item : Value) : Told old h (.record item) [item]
  | object (id place id' place' : Nat) {fields : List (Name × Value)} {strict : Bool}
      (hplace : old ≤ place) (hplace' : old ≤ place')
      (hfields : h.HoldsFields place (distinctFields fields))
      (hstrict : h.HoldsFields place' (strictFields strict)) :
      Told old h (.object fields strict) [.view id (.ref place), .view id' (.ref place')]
  | parameters (id : Nat) (head : List Value) (required : Nat) (rest : Option Value) :
      Told old h (.parameters head required rest) (.tuple (.kind .tuple) id head :: rest.toList)
  | oneOf (id : Nat) (members : List Value) :
      Told old h (.oneOf members) [.tuple (.kind .tuple) id members]
  | allOf (id : Nat) (members : List Value) :
      Told old h (.allOf members) [.tuple (.kind .tuple) id members]
  | literal (v : Value) : Told old h (.literal v) [v]
  | literals (id : Nat) (vs : List Value) : Told old h (.literals vs) [.tuple (.kind .tuple) id vs]
  | instanceOf (cls : Class) : Told old h (.instanceOf cls) [.ofClass cls]
  | optional (q : Value) (r : Bool) : Told old h (.optional q r) [q]
  | readonly (q : Value) (o : Bool) : Told old h (.readonly q o) [q]

theorem Told.ne_nil {old : Nat} {h : Heap} {r : Recipe} {args : List Value} (ht : r.Told old h args) :
    args ≠ [] := by
  cases ht <;> simp

theorem Told.length_lt {old : Nat} {h : Heap} {r : Recipe} {args : List Value}
    (ht : r.Told old h args) : args.length < maxIndex := by
  have htwo : args.length ≤ 2 := by
    cases ht with
    | tuple _ _ _ rest | parameters _ _ _ rest => cases rest <;> simp
    | _ => simp
  exact Nat.lt_of_le_of_lt htwo (by decide)

/-- The places of the mappings that are shown by read-only mappings among arguments. -/
def shownPlaces (args : List Value) : List Nat :=
  args.filterMap fun v =>
    match v with
    | .view _ (.ref place) => some place
    | _ => none

/-- What metadata tells only depends on the mappings that it shows. -/
theorem Told.of_places {old : Nat} {h h' : Heap} {r : Recipe} {args : List Value}
    (ht : r.Told old h args)
    (hcells : ∀ place ∈ shownPlaces args, old ≤ place →
      ∀ cell, h.cells[place]? = some cell → h'.cells[place]? = some cell) :
    r.Told old h' args := by
  cases ht with
  | object id place id' place' hplace hplace' hfields hstrict =>
    refine .object id place id' place' hplace hplace' (hcells place ?_ hplace _ hfields)
      (hcells place' ?_ hplace' _ hstrict) <;> simp [shownPlaces]
  | array | tuple | uniformTuple | record | parameters | oneOf | allOf | literal | literals |
    instanceOf | optional | readonly => constructor

theorem Told.of_cells {old : Nat} {h h' : Heap} {r : Recipe} {args : List Value}
    (ht : r.Told old h args) (hcells : h'.cells = h.cells) : r.Told old h' args :=
  ht.of_places fun _ _ _ _ hcell => by rw [hcells, hcell]

/-- Factories go by the names of operations and modifiers. -/
theorem factory_of {P : String → Prop} (ho : ∀ o : Operation, P o.name)
    (hm : ∀ m : Modifier, P m.name) (r : Recipe) : P r.factory := by
  cases r <;> rw [factory] <;> first | exact ho _ | exact hm _

theorem factory_ne (r : Recipe) : r.factory ≠ "" :=
  factory_of (P := (· ≠ "")) (fun o => by cases o <;> decide) (fun m => by cases m <;> decide) r

theorem factory_length_lt (r : Recipe) : r.factory.length < maxIndex :=
  Nat.lt_of_le_of_lt (factory_of (P := (·.length ≤ 100)) (fun o => by cases o <;> decide)
    (fun m => by cases m <;> decide) r) (by decide)

end Recipe

/-! ## Products -/

/-- A predicate is a product of a recipe with the given name. -/
inductive Recipe.Product (r : Recipe) (title : String) : Value → Prop
  | mk {id : Nat} (idName : Nat) {decider : Value} (hid : id ≠ 0) (hdecides : r.decides.By decider) :
      Product r title (.predicate id ⟨title, .kind .text, idName⟩ r.facets decider)

/-- A predicate is a product of a recipe with the given name, and the register tells so. -/
structure Session.Makes (s : Session) (old : Nat) (r : Recipe) (title : String) (q : Value) : Prop where
  /-- It is a product. -/
  product : r.Product title q
  /-- It is registered with arguments that tell the recipe. -/
  recorded : ∃ id id' args, r.Told old s.heap args ∧ s.Records q
    (.metadata (.kind .metadata) id (.kept r.factory) (.tuple (.kind .tuple) id' args))

theorem Decision.By.accepts_eq {d : Decision} {v w : Value} (hv : d.By v) (hw : d.By w)
    (host : Host) (x : Value) :
    (Ask.asked host v).accepts x = (Ask.asked host w).accepts x := by
  cases hv with
  | rule id check =>
    cases hw
    simp only [Asked.accepts, Ask.asked, Ask.callWith_rule]
  | predicate id name f id' check =>
    cases hw
    simp only [Asked.accepts, Ask.asked, Ask.callWith_predicate_rule]
  | callable q =>
    cases hw
    rfl

namespace Recipe.Product

variable {r : Recipe} {title title' : String} {v w : Value}

/-- **Products of one recipe ask the same**, in the same order and with the same result. -/
theorem callWith_eq (hv : r.Product title v) (hw : r.Product title' w) (host : Host) (x : Value) :
    Ask.callWith host v [x] = Ask.callWith host w [x] := by
  obtain ⟨-, -, hdecides⟩ := hv
  obtain ⟨-, -, hdecides'⟩ := hw
  rw [Ask.callWith_predicate, Ask.callWith_predicate, hdecides.accepts_eq hdecides' host x]

theorem facets_eq (hv : r.Product title v) : v.facets = r.facets := by
  obtain ⟨-, -, -⟩ := hv
  rfl

theorem steady {c : Conduct} {I : Session → Prop} (hI : Session.Abiding I)
    (hv : r.Product title v) : v.Steady c I r.facets title := by
  obtain ⟨_, hid, -⟩ := hv
  exact steady_predicate hI hid _ _ _ _

end Recipe.Product

/-- A product stays a product of its recipe while the mappings that its metadata shows stay as they
are. -/
theorem Session.Makes.leadsTo {s s' : Session} {old : Nat} {r : Recipe} {title : String} {v : Value}
    (hv : s.Makes old r title v) (hs : s.LeadsTo s')
    (hcells : ∀ args, r.Told old s.heap args → r.Told old s'.heap args) : s'.Makes old r title v := by
  obtain ⟨hproduct, id, id', args, htold, hrecords⟩ := hv
  exact ⟨hproduct, id, id', args, hcells _ htold, hrecords.leadsTo hs⟩

namespace Run

variable (host : Host) (n : Nat) {I : Session → Prop} {s : Session} {old : Nat}

/-- The metadata of a product is found, and so are the factory and the arguments in it.  The predicate
stays a product as long as these arguments tell the recipe. -/
theorem exec_metadata_makes (hs : s.Sound) {r : Recipe} {title : String} {p : Value}
    (hp : s.Makes old r title p) :
    ∃ metadata id id' args, metadata =
        .metadata (.kind .metadata) id (.kept r.factory) (.tuple (.kind .tuple) id' args) ∧
      r.Told old s.heap args ∧
      exec (Ask.conduct host (n + 1)) (metadata? p) s = .ok (some metadata) s ∧
      exec (Ask.conduct host (n + 1)) (factoryOf metadata) s = .ok (.keptText r.factory) s ∧
      exec (Ask.conduct host (n + 1)) (readAttribute metadata argumentsAttribute) s =
        .ok (.tuple (.kind .tuple) id' args) s ∧
      ∀ s', s.LeadsTo s' → r.Told old s'.heap args → s'.Makes old r title p := by
  obtain ⟨⟨idName, hid, hdecides⟩, id, id', args, htold, hrecords⟩ := hp
  exact ⟨_, id, id', args, rfl, htold, exec_metadata?_some host n _ _ _ _ hs hid hrecords,
    (exec_readFactory _ hs.intact id _ _).trans (exec_identified_of_isIdentified _ rfl),
    (exec_readArguments _ hs.intact id _ _).trans (exec_identified_of_isIdentified _ rfl),
    fun _ hle ht => ⟨.mk idName hid hdecides, id, id', args, ht, hrecords.leadsTo hle⟩⟩

/-- A factory that has put the name and the arguments together makes a product of its recipe. -/
theorem settles_productBy (hI : Session.Steadfast I) (hs : I s) {r : Recipe} {args : List Value}
    (htold : r.Told old s.heap args) (title : String) {decider : Value}
    (hdecides : r.decides.By decider) :
    Settles (Ask.conduct host (n + 1)) I s
      (Build.productBy r.factory args title (.bool r.facets.optional) (.bool r.facets.readonly)
        decider) fun q s' => s'.Makes old r title q := by
  obtain ⟨id, idName, id', id'', s', hproduct, hadds, hid, hrecords⟩ :=
    exec_productBy host n (hI.sound hs) r.factory_ne r.factory_length_lt htold.ne_nil
      htold.length_lt title r.facets.optional r.facets.readonly decider
  exact .of_exec hI hs hproduct hadds
    ⟨.mk idName hid hdecides, id', id'', args, htold.of_cells (by rw [hadds.heap]), hrecords⟩

end Run

end ValueShape
