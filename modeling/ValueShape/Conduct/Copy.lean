import ValueShape.Conduct.Reduction

/-!
# Copies

* `Run.copy` copies a container or an object, but not its parts or attributes.
* `Run.deepCopy` copies it with everything in it.  What is shared or circular before the
  copy is so in the copy.  A `CopyMode` says what becomes of the values that cannot change: they are
  kept as far as possible, or made anew as if they had been stored and read back.
* `Heap.unstorable?` tells what keeps a value from being stored.

The absent value exists only once, so it stays the one it is in every copy, and so does every value
that is made from the same class.
-/

set_option autoImplicit false

namespace ValueShape

/-- What becomes of values that cannot change when they are copied with everything in them. -/
inductive CopyMode
  /-- They are kept unless something in them has to be copied. -/
  | sharing
  /-- They are made anew, unless they exist only once. -/
  | rebuilding
deriving DecidableEq, Repr

/-! ## Parts -/

/-- What an iteration goes through, or has still to give. -/
def Cursor.sources : Cursor → List Value
  | rest items => items
  | count .. => []
  | elements source _ | elementsBack source _ | queued source .. | entries _ _ source ..
  | members source .. | iterator source | indexed source _ | indexedBack source _
  | unread _ source => [source]
  | parts _ mapping keys => mapping :: keys.sources

/-- A cursor at the same place of something else. -/
def Cursor.withSources (c : Cursor) (vs : List Value) : Cursor :=
  match c, vs with
  | rest _, items => .rest items
  | elements _ place, [v] => .elements v place
  | elementsBack _ left, [v] => .elementsBack v left
  | queued _ place size back, [v] => .queued v place size back
  | c, _ => c

/-- The parts of the contents of a value. -/
def Contents.parts : Contents → List Value
  | list items | queue items => items
  | iterator c => c.sources
  | set members => members.map (·.value)
  | listing _ source => [source]
  | dict es => es.flatMap fun e => [e.1.value, e.2]
  | foreign m => m.entries.flatMap fun e => [e.1, e.2]
  | buffer _ => []

/-- Values two by two. -/
def pairUp : List Value → List (Value × Value)
  | a :: b :: vs => (a, b) :: pairUp vs
  | _ => []

/-- Contents with other parts.  Keys and members are hashed again. -/
def Contents.withParts (c : Contents) (vs : List Value) : Run Contents :=
  match c with
  | list _ => return .list vs
  | set _ => do return .set (← Run.distinctMembers vs)
  | queue _ => return .queue vs
  | listing part source => return .listing part (vs.head?.getD source)
  | iterator c => return .iterator (c.withSources vs)
  | dict _ => do return .dict (← Run.distinctEntries (pairUp vs))
  | foreign m => return .foreign { m with entries := pairUp vs }
  | buffer bs => return .buffer bs

namespace Value

/-- The parts of a value that cannot change. -/
def parts : Value → List Value
  | .tuple _ _ items => items
  | .frozenSet _ _ members => members.map (·.value)
  | .metadata _ _ factory args => [.ofName factory, args]
  | .options _ _ threshold maxDepth => [threshold, maxDepth]
  | .bound _ _ fn => [fn]
  | .generic _ _ _ parameter => [parameter]
  | .method _ _ self => [self]
  | _ => []

/-- A value that cannot change, with another identity and other parts. -/
def remade (v : Value) (id : Nat) (vs : List Value) : Run Value :=
  match v, vs with
  | .scalar c _ s, _ => return .scalar c id s
  | .complex c _ re im, _ => return .complex c id re im
  | .tuple c _ _, items => return .tuple c id items
  | .frozenSet c _ _, items => do return .frozenSet c id (← Run.distinctMembers items)
  | .range _ start stop step, _ => return .range id start stop step
  | .slice _ start, _ => return .slice id start
  | .metadata c _ factory _, [name, args] =>
    return .metadata c id (name.name?.getD factory) args
  | .options c _ _ _, [threshold, maxDepth] => return .options c id threshold maxDepth
  | .bound c _ _, [fn] => return .bound c id fn
  | .generic _ starred c _, [parameter] => return .generic id starred c parameter
  | .method _ fn _, [self] => return .method id fn self
  | .object _ c, _ => return .object id c
  | v, _ => return v

/-- Whether a value is a tuple of the built-in class. -/
def isPlainTuple : Value → Bool
  | .tuple (.kind .tuple) .. => true
  | _ => false

/-- Whether a value stands for itself in every copy that shares. -/
def isAtom : Value → Bool
  | .null | .undefined | .bool _ | .range .. | .rule .. | .leaf _ | .operation _ | .function ..
  | .builtin .. | .ofClass _ | .field .. | .code _ => true
  | .scalar (.kind k) _ s => k == s.kind
  | .complex (.kind .complex) .. => true
  | .object _ (.kind .ellipsis) | .object _ (.kind .notImplemented) => true
  | _ => false

end Value

/-- Whether every copy of a value is the value itself, by the method of its class. -/
def Heap.copiesToItself (h : Heap) (v : Value) : Bool :=
  h.provider? .reduction v == some .undefined

/-- Whether a value stands for itself in a copy. -/
def CopyMode.keeps : CopyMode → Value → Bool
  | sharing, v => v.isAtom
  | rebuilding, v =>
    match v with
    | .scalar _ _ (.bytes [_]) => false
    | .scalar c _ s => c == .kind s.kind && s.isShared
    | .tuple c _ items => c == .kind .tuple && items.isEmpty
    | .range .. | .complex .. => false
    | v => v.isAtom

/-- Whether all occurrences of a value are copied as one.  Numbers are made anew one by one. -/
def Value.isCopiedOnce : Value → Bool
  | .scalar (.kind .int) _ _ | .scalar (.kind .float) _ _ => false
  | _ => true

/-! ## Storing

A value can be stored if everything in it can be, and if the classes in it are found again by their
names. -/

/-- Whether the class of a kind is nowhere to be found by its name. -/
def Kind.isUnlisted : Kind → Bool
  | .function | .builtin | .method | .listing .. | .iterator _ | .view | .coroutine
  | .memberField => true
  | k => k.isLocal

namespace Heap

/-- The module that a class is looked for in. -/
def storedModule (h : Heap) (c : Class) : String :=
  match h.assigned? (.ofClass c) moduleAttribute with
  | some v => v.text?.getD Kind.hostModule
  | none => if (h.moduleOfClass c).isEmpty then builtinModule else h.moduleOfClass c

/-- The class that is found by a name in a module. -/
def classNamed? (moduleName name : String) : Option Kind :=
  Kind.all.find? fun k =>
    !k.isUnlisted && k.name == name &&
      (if k.moduleName.isEmpty then builtinModule else k.moduleName) == moduleName

/-- Why a class is not found again by its name, if it is not. -/
def lostClass? (h : Heap) (c : Class) : Option Failure :=
  let name := h.nestedClassName c
  let moduleName := h.storedModule c
  let isKnown := moduleName == builtinModule || moduleName == Kind.hostModule ||
    Kind.all.any fun k => k.moduleName == moduleName
  let shown := "<class '" ++ h.writtenClassName c ++ "'>"
  match c, classNamed? moduleName name with
  | .kind k, some found =>
    if found == k then none
    else some (.classNotStorable shown ("it's not the same object as " ++ moduleName ++ "." ++ name))
  | .declared _, some _ =>
    some (.classNotStorable shown ("it's not the same object as " ++ moduleName ++ "." ++ name))
  | _, none =>
    if (name.splitOn ".").contains "<locals>" then some (.localNotStorable name)
    else some (.classNotStorable shown
      (if isKnown then "attribute lookup " ++ name ++ " on " ++ moduleName ++ " failed"
      else "import of module " ++ quoteString moduleName ++ " failed"))

/-- What keeps the value itself from being stored, apart from its parts. -/
def unstorableItself? (h : Heap) (v : Value) : Option Failure :=
  let refusal := Failure.badType ("cannot pickle '" ++ Failure.briefly (h.typeName v) ++ "' object")
  match v, h.contents? v with
  | .view .., _ | .object _ (.kind .coroutine), _ | _, some (.listing ..) => some refusal
  | .rule _ check, _ => some (.localNotStorable check.nestedName)
  | .field owner name, _ =>
    match owner.fieldKind name with
    | .computedField | .partDescriptor | .classDescriptor => some refusal
    | _ => none
  | .code _, _ => some (.badType "cannot pickle code objects")
  | .ofClass c, _ => h.lostClass? c
  | v, _ =>
    match h.classOf v with
    | .declared p => h.lostClass? (.declared p)
    | .kind k => if k.isLocal || k.isHosted then h.lostClass? (.kind k) else none

/-- What has to be stored together with a value. -/
def storedParts (h : Heap) (v : Value) : List Value :=
  let parts := match v with
    | .predicate _ _ _ decider => [decider]
    | .generic _ _ origin parameter => [.ofClass origin, parameter]
    | v => v.parts ++ ((h.contents? v).map Contents.parts).getD []
  parts ++ if v.isClass then [] else (h.ownAttributes v).map (·.2)

/-- What keeps a value from being stored: the first one of the values in it, nested at most `fuel`
deep, that cannot be stored.  The values `seen` have been stored already; the result has those that
are stored with this one. -/
def storeUpTo (h : Heap) : Nat → List Value → Value → Except Failure (List Value)
  | 0, _, _ => .error .tooDeep
  | fuel + 1, seen, v =>
    if seen.any v.identical || h.copiesToItself v then .ok seen
    else match h.unstorableItself? v with
      | some failure => .error failure
      | none => (h.storedParts v).foldlM (h.storeUpTo fuel) (v :: seen)

/-- What keeps a value from being stored. -/
def unstorable? (h : Heap) (v : Value) : Option Failure :=
  match h.storeUpTo (h.bound * h.bound) [] v with
  | .ok _ => none
  | .error failure => some failure

end Heap

namespace Run

/-! ## Copying

A deep copy keeps what has been copied so far.  So a container that occurs twice is copied once, and
one that is inside itself comes to an end. -/

/-- Refuses a value that cannot be copied. -/
def requireCopyable (v : Value) : Run Unit := do
  let h ← heap
  let refusal := Failure.badType ("cannot pickle '" ++ Failure.briefly (h.typeName v) ++ "' object")
  match v, h.contents? v with
  | .view .., _ | .object _ (.kind .coroutine), _ | _, some (.listing ..) => throw refusal
  | v, some (.iterator _) => if h.isOfKind v (.iterator .generator) then throw refusal
  | .predicate .., _ => throw (.predicateFixed "set" (quoteString "_check"))
  | _, _ => return ()

/-- Gives a copy the attributes of what it is a copy of. -/
def copyAttributes (v target : Value) : Run Value := do
  if v.identical target then return v
  modifyHeap fun h => (h.ownAttributes v).foldl (fun h a => h.assign target a.1 a.2) h
  return target

/-- A copy of a value, by the methods of its class. -/
def copyByMethods (v : Value) : Run Value := do
  let h ← heap
  match h.hook? (h.classOf v) "__copy__" with
  | some .null | none =>
    match v, h.contents? v with
    | v, some (.queue _) => callClass (h.classOf v) [v]
    | .predicate .., _ => throw (.predicateFixed "set" (quoteString "_check"))
    | v, _ =>
      match ← reduction v with
      | some r => return (← rebuild (fun copies v => return (v, copies)) false [] v r).1
      | none => return v
  | some method => call method [v]

/-- The cell of a value as it is copied.  An iterator over something that has to keep its size is
copied as one over what it has still to give. -/
def copiedCell (c : Cell) : Run Cell := do
  match c.contents with
  | .iterator cursor@(.entries ..) | .iterator cursor@(.members ..) =>
    return ⟨.kind (.iterator .list), .iterator (.rest (← elements cursor))⟩
  | _ => return c

/-- A copy of a value, with the same parts and attributes. -/
def copy (v : Value) : Run Value := do
  let h ← heap
  if h.takesPart v then return ← copyByMethods v
  requireCopyable v
  match v, h.cell? v with
  | v, some c =>
    let c ← copiedCell c
    match c.contents, h.copiesToItself v with
    | .queue _, _ | _, false => copyAttributes v (← alloc c.cls c.contents)
    | _, true => return v
  | .tuple (.kind .tuple) .., none | .frozenSet (.kind .frozenSet) .., none => return v
  | .generic _ false c@(.kind .predicate) parameter, none => parameterize c parameter
  | .method _ fn self, none => getAttribute self (← displayName fn)
  | v, none =>
    if v.isAtom || h.copiesToItself v then return v
    else copyAttributes v (← v.remade (← fresh) v.parts)

/-- A copy of a value with everything in it, by the methods of its class; `copyPart` copies its
parts. -/
def deepCopyByMethods (copyPart : Copies → Value → Run (Value × Copies)) (copies : Copies)
    (v : Value) : Run (Value × Copies) := do
  match (← attribute? v "__deepcopy__").filter fun method => !method.identical .null with
  | some method =>
    let memo ← newDict (.kind .dict) []
    let target ← call method [memo]
    return (target, if target.identical v then copies else (v, target) :: copies)
  | none =>
    match v with
    | .predicate .. => throw (.predicateFixed "set" (quoteString "_check"))
    | v =>
      match ← reduction v with
      | some r => rebuild copyPart true copies v r
      | none => return (v, copies)

/-- A copy of a value nested at most `fuel` deep. -/
def deepCopyUpTo (mode : CopyMode) : Nat → Copies → Value → Run (Value × Copies)
  | 0, _, _ => throw .tooDeep
  | fuel + 1, copies, v => do
    match copies.find? fun c => c.1.identical v with
    | some c => return (c.2, copies)
    | none =>
      let all := fun (copies : Copies) (vs : List Value) =>
        vs.foldlM (fun (done, copies) w => do
          let (w, copies) ← deepCopyUpTo mode fuel copies w
          return (done ++ [w], copies)) (([] : List Value), copies)
      let withAttributes := fun (copies : Copies) (target : Value) => do
        let own := (← heap).ownAttributes v
        let (values, copies) ← all copies (own.map (·.2))
        let copied := (own.map (·.1)).zip values
        modifyHeap fun h => copied.foldl (fun h a => h.assign target a.1 a.2) h
        return (target, copies)
      if (← heap).takesPart v && mode == .sharing then
        return ← deepCopyByMethods (deepCopyUpTo mode fuel) copies v
      requireCopyable v
      if (← heap).copiesToItself v then return (v, copies)
      match (← heap).cell? v with
      | some c =>
        let c ← copiedCell c
        let target ← alloc c.cls c.contents.emptied
        let (parts, copies) ← all ((v, target) :: copies) c.contents.parts
        overwrite target (← c.contents.withParts parts)
        withAttributes copies target
      | none =>
        if mode.keeps v then return (v, copies)
        let (parts, copies) ← all copies v.parts
        match copies.find? fun c => c.1.identical v with
        | some c => return (c.2, copies)
        | none =>
          let unchanged := (parts.zip v.parts).all fun p => p.1.identical p.2
          if mode == .sharing && v.isPlainTuple && unchanged then return (v, copies)
          let w ← match v, parts with
            | .generic _ false c@(.kind .predicate) _, [parameter] => parameterize c parameter
            | v, parts => do v.remade (← fresh) parts
          withAttributes (if v.isCopiedOnce then (v, w) :: copies else copies) w

/-- A copy of a value, with everything in it.  Between two mutable values on the way down there are
no more than `bound` others. -/
def deepCopy (mode : CopyMode) (v : Value) : Run Value := do
  if mode == .rebuilding then (← heap).unstorable? v |>.forM throw
  let depth := (← heap).bound
  return (← deepCopyUpTo mode (depth * depth) [] v).1

end Run

end ValueShape
