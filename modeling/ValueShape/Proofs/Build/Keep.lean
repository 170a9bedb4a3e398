import ValueShape.Ask.Verdict
import ValueShape.Build.Choice
import ValueShape.Build.Custom
import ValueShape.Build.Derived
import ValueShape.Build.Sequence
import ValueShape.Proofs.Outline.Keep

/-!
# Looking up metadata and checking arguments keeps to a course

What comes before a predicate is registered: looking up and making metadata, checking the arguments of a
factory, putting its name together, and making the predicate itself.  The same goes for asking a
predicate.  All of this keeps to a course that the conduct keeps to.
-/

set_option autoImplicit false

namespace ValueShape

namespace Run.Keeps

variable {R : Session → Session → Prop} {c : Conduct} (hc : c.Keeps R)
include hc

/-! ## The register

Each lemma goes by the name of the computation that it is about, and follows its definition.  What
is changed in one definition concerns one lemma. -/

@[grind .] theorem findRegistration? (key : Key Value) (rs : List Registration) :
    Keeps R c (findRegistration? key rs) := by
  fun_induction Run.findRegistration? key rs <;> grind

@[grind .] theorem registration? (v : Value) : Keeps R c (registration? v) := by
  unfold Run.registration?
  grind

@[grind .] theorem metadata? (v : Value) : Keeps R c (metadata? v) := by
  unfold Run.metadata?
  grind

@[grind .] theorem factoryOf (metadata : Value) : Keeps R c (factoryOf metadata) :=
  readAttribute hc _ _

@[grind .] theorem isProductOf (v factory : Value) : Keeps R c (isProductOf v factory) := by
  unfold Run.isProductOf
  refine bind hc (metadata? hc v) fun m => ?_
  cases m <;> grind

@[grind .] theorem refuse {α : Type} (factory : Value) (detail : String) :
    Keeps R c (refuse factory detail : Run α) := by
  unfold Run.refuse
  grind

@[grind .] theorem isName (v : Value) : Keeps R c (isName v) := by
  unfold Run.isName
  grind

@[grind .] theorem newMetadata (cls : Class) (factory args : Value) :
    Keeps R c (newMetadata cls factory args) := by
  unfold Run.newMetadata
  cases factory.name? with
  | none => exact throw hc _
  | some name =>
    refine bind hc (fresh hc) fun id => bind hc (storeField hc rfl _ _) fun _ => ?_
    refine bind hc (storeField hc rfl _ _) fun _ => bind hc (readAttribute hc _ _) fun given => ?_
    refine bind hc (isName hc given) fun isName => ?_
    have hdone : Keeps R c (do
        let stored ← Run.readAttribute (Value.metadata cls id name args) argumentsAttribute
        if ← Run.isOfKind stored .tuple then return Value.metadata cls id name args
        else
          let copied ← Run.toTuple stored
          Run.storeField (Value.metadata cls id name args) argumentsAttribute copied
          return Value.metadata cls id name copied) := by
      refine bind hc (readAttribute hc _ _) fun args => bind hc (isOfKind hc _ _) fun isTuple => ?_
      split
      · exact pure hc _
      · refine bind hc (toTuple hc _) fun args => ?_
        exact bind hc (storeField hc rfl _ _) fun _ => pure hc _
    dsimp only
    split
    · exact bind hc (throw hc _) fun _ => hdone
    · exact hdone

/-! ## Arguments -/

@[grind .] theorem requireCallable (factory label : String) (v : Value) :
    Keeps R c (Build.requireCallable factory label v) := by
  unfold Build.requireCallable
  grind

@[grind .] theorem requireCallables (factory label : String) (v : Value) :
    Keeps R c (Build.requireCallables factory label v) := by
  have hcheck (index : Nat) (item : Value) : Keeps R c (do
      Build.requireCallable factory (label ++ "[" ++ index.repr ++ "]") item
      return item) := bind hc (requireCallable hc _ _ _) fun _ => pure hc _
  unfold Build.requireCallables
  grind

@[grind .] theorem facetOf (facet : String) (v : Value) : Keeps R c (Build.facetOf facet v) := by
  unfold Build.facetOf
  grind

@[grind .] theorem isOptional (v : Value) : Keeps R c (Build.isOptional v) := facetOf hc _ v

@[grind .] theorem isReadonly (v : Value) : Keeps R c (Build.isReadonly v) := facetOf hc _ v

@[grind .] theorem requireFor (factory v label : Value) :
    Keeps R c (Build.requireFor factory v label) := by
  unfold Build.requireFor
  grind

@[grind .] theorem requireAllFor (factory values label : Value) :
    Keeps R c (Build.requireAllFor factory values label) := by
  have hcheck (index : Nat) (item : Value) : Keeps R c (do
      Build.requireFor factory item
        (.text ((← Run.formatted label) ++ "[" ++ index.repr ++ "]"))) :=
    bind hc (formatted hc _) fun _ => requireFor hc _ _ _
  have hdone : Keeps R c (do
      Run.tuple (← Run.each (fun index item => do
        Build.requireFor factory item
          (.text ((← Run.formatted label) ++ "[" ++ index.repr ++ "]"))) (← Run.cursor values))) :=
    bind hc (cursor hc _) fun _ => bind hc (each hc hcheck _) fun _ => tuple hc _
  unfold Build.requireAllFor
  refine bind hc (isOfKind hc _ _) fun isSequence => ?_
  dsimp only
  split
  · refine bind hc (map hc _ (isTextual hc _)) fun isSuitable => ?_
    grind
  · grind

@[grind .] theorem requireLength (factory : String) (n : Value) :
    Keeps R c (Build.requireLength factory n) := by
  unfold Build.requireLength
  grind

@[grind .] theorem requirePrimitives (factory : String) (index : Nat) (vs : List Value) :
    Keeps R c (Build.requirePrimitives factory index vs) := by
  fun_induction Build.requirePrimitives factory index vs <;> grind

@[grind .] theorem requireField (factory : String) (entry : Value) :
    Keeps R c (Build.requireField factory entry) := by
  unfold Build.requireField
  refine bind hc (unpackTwo hc entry) fun pair => ?_
  grind

@[grind .] theorem requireFields (factory : String) (descriptor : Value) :
    Keeps R c (Build.requireFields factory descriptor) := by
  have hfield (entry : Value) : Keeps R c (Build.requireField factory entry) :=
    requireField hc factory entry
  unfold Build.requireFields
  grind

/-! ## Names -/

@[grind .] theorem rendering (v : Value) : Keeps R c (Build.rendering v) := unfold hc _ _ _ v

@[grind .] theorem listRendering (vs : List Value) : Keeps R c (Build.listRendering vs) := by
  have hunfold (line : LineLimit) (depth : Nat) (path : List Value) (v : Value) :
      Keeps R c (Run.unfold line depth path v) := unfold hc line depth path v
  unfold Build.listRendering
  exact bind hc (mapM hc (fun v => hunfold _ _ _ v) vs) fun items => closed hc (known hc _) _ _

@[grind .] theorem embeddedText (r : Rendering) : Keeps R c (Build.embeddedText r) := by
  unfold Build.embeddedText
  grind

@[grind .] theorem callName (factory : String) (args : List Value) :
    Keeps R c (Build.callName factory args) := by
  unfold Build.callName Build.argumentTexts
  grind

@[grind .] theorem listName (factory : String) (preds : List Value) (rest : Option Value) :
    Keeps R c (Build.listName factory preds rest) := by
  unfold Build.listName
  grind

@[grind .] theorem customName (factory : Value) (args : List Value) :
    Keeps R c (Build.customName factory args) := by
  unfold Build.customName
  grind

/-! ## Predicates that are not registered -/

@[grind .] theorem wrap (decider : Value) (name : Name) (optional readonly : Value) :
    Keeps R c (Build.wrap decider name optional readonly) := by
  unfold Build.wrap
  refine bind hc (fresh hc) fun id => bind hc (storeField hc rfl _ _) fun _ => ?_
  refine bind hc (storeField hc rfl _ _) fun _ => bind hc (truth hc _) fun _ => ?_
  refine bind hc (storeField hc rfl _ _) fun _ => bind hc (truth hc _) fun _ => ?_
  exact bind hc (storeField hc rfl _ _) fun _ => pure hc _

@[grind .] theorem custom (check name optional readonly : Value) :
    Keeps R c (Build.custom check name optional readonly) := by
  unfold Build.custom
  grind

/-! ## Reading metadata -/

@[grind .] theorem logDecision (m : Modifier) (o : Outcome) (pred : Value) :
    Keeps R c (Build.logDecision m o pred) := by
  unfold Build.logDecision
  grind

@[grind .] theorem wrappedBy (metadata : Value) : Keeps R c (Build.wrappedBy metadata) := by
  unfold Build.wrappedBy
  grind

@[grind .] theorem isNamed (metadata : Value) (m : Modifier) :
    Keeps R c (Build.isNamed metadata m) := by
  unfold Build.isNamed
  grind

@[grind .] theorem wrapper? (metadata : Value) : Keeps R c (Build.wrapper? metadata) := by
  unfold Build.wrapper?
  grind

@[grind .] theorem objectMetadata (factory : String) (pred : Value) :
    Keeps R c (Build.objectMetadata factory pred) := by
  unfold Build.objectMetadata
  refine bind hc (metadata? hc pred) fun m => ?_
  cases m <;> grind

@[grind .] theorem objectParts (factory : String) (pred : Value) :
    Keeps R c (Build.objectParts factory pred) := by
  unfold Build.objectParts
  grind

@[grind .] theorem unknownNames (descriptor : Value) (keys : List Value) :
    Keeps R c (Build.unknownNames descriptor keys) := by
  fun_induction Build.unknownNames descriptor keys <;> grind

@[grind .] theorem requireKnown (factory : String) (descriptor keys : Value) :
    Keeps R c (Build.requireKnown factory descriptor keys) := by
  unfold Build.requireKnown
  grind

@[grind .] theorem repeated? (n item : Value) : Keeps R c (Build.repeated? n item) := by
  unfold Build.repeated?
  grind

@[grind .] theorem requiredCount (preds : List Value) : Keeps R c (Build.requiredCount preds) := by
  fun_induction Build.requiredCount preds <;> grind

@[grind .] theorem positionalArgs (head : List Value) (rest : Option Value) :
    Keeps R c (Build.positionalArgs head rest) := by
  unfold Build.positionalArgs
  grind

/-! ## Asking -/

@[grind .] theorem satisfies (pred x : Value) : Keeps R c (Ask.satisfies pred x) := by
  unfold Ask.satisfies
  grind

@[grind .] theorem assertionFailure (x pred message : Value) :
    Keeps R c (Ask.assertionFailure x pred message) := by
  unfold Ask.assertionFailure
  refine bind hc (renderValue hc _ _) fun rendered => bind hc (displayName hc _) fun name => ?_
  split <;> grind

@[grind .] theorem demandFor (operation : Operation) (x pred message : Value) :
    Keeps R c (Ask.demandFor operation x pred message) := by
  unfold Ask.demandFor
  grind

@[grind .] theorem demand (x pred message : Value) : Keeps R c (Ask.demand x pred message) := by
  unfold Ask.demand
  grind

@[grind .] theorem ensure (x pred message : Value) : Keeps R c (Ask.ensure x pred message) := by
  unfold Ask.ensure
  grind

@[grind .] theorem maybe (x pred : Value) : Keeps R c (Ask.maybe x pred) := by
  unfold Ask.maybe
  grind

end Run.Keeps

end ValueShape
