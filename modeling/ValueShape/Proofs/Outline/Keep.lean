import ValueShape.Proofs.Conduct.Judge
import ValueShape.Outline.Inspect

/-!
# Rendering keeps to a course

How values are shown, and the options for that, keep to a course that the conduct keeps to.  What is asked
when a container is opened and closed comes from the options, so it is said apart what it does
(`Limits.Keep`).
-/

set_option autoImplicit false

namespace ValueShape

/-- What is asked in the course of a rendering keeps to a course. -/
structure Limits.Keep (R : Session → Session → Prop) (c : Conduct) (limits : Limits) : Prop where
  /-- Before a container is opened. -/
  isCut (depth : Nat) : Run.Keeps R c (limits.isCut depth)
  /-- When a container is complete. -/
  close (o : Outline) : Run.Keeps R c (limits.close o)

namespace Run.Keeps

variable {R : Session → Session → Prop} {c : Conduct} {α β : Type} (hc : c.Keeps R)
include hc

/-! ## Rendering -/

@[grind .] theorem appearance (v : Value) : Keeps R c (appearance v) := by
  unfold Run.appearance
  grind

@[grind .] theorem containerOf (v : Value) : Keeps R c (containerOf v) := by
  unfold Run.containerOf
  grind

@[grind .] theorem leafOf (v : Value) (a : Appearance) : Keeps R c (leafOf v a) := by
  unfold Run.leafOf
  grind

@[grind .] theorem misfit (place : Nat) (v : Value) : Keeps R c (misfit place v) := by
  unfold Run.misfit
  grind

@[grind .] theorem joinable (place : Nat) (rs : List Rendering) : Keeps R c (joinable place rs) := by
  fun_induction Run.joinable place rs <;> grind

@[grind .] theorem embedded (r : Rendering) : Keeps R c (embedded r) := by
  unfold Run.embedded
  grind

@[grind .] theorem renderingValue (limit : LineLimit) (r : Rendering) :
    Keeps R c (renderingValue limit r) := by
  unfold Run.renderingValue
  grind

@[grind .] theorem isNegative (v : Value) (n : Int) : Keeps R c (isNegative v n) := by
  unfold Run.isNegative
  grind

@[grind .] theorem relates (relation : String) (converse : Method) (holds : Ordering → Bool) (n : Int)
    (limit : Value) : Keeps R c (relates relation converse holds n limit) := by
  unfold Run.relates
  grind

/-! ## Containers -/

section Limits

variable {limits : Limits} (hlimits : limits.Keep R c)
include hlimits

@[grind ←] theorem closed (make : List Outline → Outline) (items : List Rendering) :
    Keeps R c (closed limits make items) := by
  have hclose := hlimits.close
  unfold Run.closed
  grind

@[grind ←] theorem closedSet (typeName : List Char) (items : List Rendering) :
    Keeps R c (closedSet limits typeName items) := by
  unfold Run.closedSet
  grind

omit hlimits in
@[grind ←] theorem unfoldEntry {item : Value → Run Rendering} (hitem : ∀ v, Keeps R c (item v))
    (pair : Value) : Keeps R c (unfoldEntry item pair) := by
  unfold Run.unfoldEntry
  grind

@[grind ←] theorem unfoldItems {item : Value → Run Rendering} (hitem : ∀ v, Keeps R c (item v))
    (v : Value) (container : Container) : Keeps R c (unfoldItems limits item v container) := by
  have hclose := hlimits.close
  have hitems (cursor : Cursor) : Keeps R c (Run.each (fun _ w => item w) cursor) :=
    each hc (fun _ w => hitem w) cursor
  have hmembers (cursor : Cursor) : Keeps R c (Run.each (fun _ w => Run.yielded (item w)) cursor) :=
    each hc (fun _ w => yielded hc (hitem w)) cursor
  cases container with
  | list | tuple =>
    refine bind hc (cursor hc v) fun cursor => bind hc (hitems cursor) fun items => ?_
    refine bind hc (isOfKind hc _ _) fun isTuple => ?_
    split
    · exact closed hc hlimits _ _
    · split <;> grind
  | set =>
    refine bind hc (cursor hc v) fun cursor => bind hc (hmembers cursor) fun items => ?_
    cases items <;> grind
  | mapping =>
    refine bind hc (guarded hc (readParts hc _ _)) fun pairs => ?_
    cases pairs <;> grind

theorem unfoldWith (depth : Nat) (path : List Value) (v : Value) :
    Keeps R c (unfoldWith limits depth path v) := by
  have hcut := hlimits.isCut
  induction depth generalizing path v with
  | zero =>
    unfold Run.unfoldWith
    grind
  | succ depth ih =>
    have hitems := unfoldItems hc hlimits fun w => ih (v :: path) w
    unfold Run.unfoldWith
    refine bind hc (appearance hc v) fun a => ?_
    cases a <;> grind

end Limits

theorem known (line : LineLimit) : (Limits.known line).Keep R c :=
  ⟨fun _ => pure hc _, fun o => pure hc o⟩

@[grind .] theorem unfold (line : LineLimit) (depth : Nat) (path : List Value) (v : Value) :
    Keeps R c (unfold line depth path v) := unfoldWith hc (known hc line) depth path v

@[grind .] theorem renderValue (o : RenderOptions) (v : Value) : Keeps R c (renderValue o v) := by
  unfold Run.renderValue
  grind

/-! ## Inspecting -/

theorem limitsOf (options : Value) : (Run.limitsOf options).Keep R c where
  isCut depth := by
    unfold Run.limitsOf
    grind
  close o := by
    unfold Run.limitsOf
    grind

@[grind .] theorem inspect (v options : Value) : Keeps R c (inspect v options) := by
  have hunfold := unfoldWith hc (limitsOf hc options)
  unfold Run.inspect
  refine bind hc (heap hc) fun h => ?_
  split <;> grind

/-- A field of a new record is stored, which does not concern any class. -/
@[grind .] theorem storeField {record : Value} (hrecord : record.isClass = false) (field : String)
    (value : Value) : Keeps R c (storeField record field value) := by
  have hassign : Keeps R c (Run.modifyHeap fun h => h.assign record field value) :=
    assign hc (fun cls hcls _ => by subst hcls; cases hrecord) value
  unfold Run.storeField
  refine bind hc (heap hc) fun h => ?_
  split <;> grind

@[grind .] theorem requireLimit (options : Value) (limit : String) :
    Keeps R c (requireLimit options limit) := by
  unfold Run.requireLimit Run.requireLimit.refuse
  grind

@[grind .] theorem newOptions (cls : Class) (threshold maxDepth : Value) :
    Keeps R c (newOptions cls threshold maxDepth) := by
  unfold Run.newOptions
  refine bind hc (fresh hc) fun id => bind hc (storeField hc rfl _ _) fun _ => ?_
  exact bind hc (storeField hc rfl _ _) fun _ => bind hc (requireLimit hc _ _) fun _ =>
    bind hc (requireLimit hc _ _) fun _ => pure hc _

end Run.Keeps

end ValueShape
