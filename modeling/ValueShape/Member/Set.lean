import ValueShape.Conduct.Order
import ValueShape.Member.Arity

/-!
# Methods of sets

`Run.callOfSet` carries out the methods of sets, and `Run.callOfListing` those of the parts of
mappings that are sets, apart from those that operations are carried out by.

* `Run.common`, `Run.without`, `Run.united` and `Run.oneSided` make the members of a set from those
  of two others.
* Operations take sets only, while the methods with a name of their own take whatever can be iterated
  over.  So do the operations on parts of mappings, and their results are sets.
-/

set_option autoImplicit false

namespace ValueShape

namespace Run

/-! ## Members

The order of the members can be seen when a set is gone through, so the operations are defined on
lists of members. -/

/-- The members of one set that are among those of another. -/
def common (ms ns : List (Key Value)) : Run (List (Key Value)) := ms.filterM (hasMember · ns)

/-- The members of one set that are not among those of another. -/
def without (ms ns : List (Key Value)) : Run (List (Key Value)) :=
  ms.filterM fun m => do return !(← hasMember m ns)

/-- The members of two sets. -/
def united (ms ns : List (Key Value)) : Run (List (Key Value)) := ns.foldlM insertMember ms

/-- The members of only one of two sets. -/
def oneSided (ms ns : List (Key Value)) : Run (List (Key Value)) := do
  return (← without ms ns) ++ (← without ns ms)

/-- The place of a member. -/
def memberPlace? (key : Key Value) : Nat → List (Key Value) → Run (Option Nat)
  | _, [] => return none
  | place, m :: ms => do
    if ← isKey key m then return some place else memberPlace? key (place + 1) ms

/-- A value that is looked for in a set.  A set that can change counts as the immutable set of its
members. -/
def soughtMember (x : Value) : Run (Key Value) := do
  match (← heap).contents? x with
  | some (.set own) =>
    let hash? ← recovering Failure.isOfType (hash x)
    return ⟨x, hash?.getD (.members (own.map (·.hash)))⟩
  | _ => keyed x

/-- A new set. -/
def newSetOf (frozen : Bool) (members : List (Key Value)) : Run Value := do
  if frozen then return .frozenSet (.kind .frozenSet) (← fresh) members
  else alloc (.kind .set) (.set members)

/-- What an operation makes of the members of two sets, by its name. -/
def setOperation? (name : String) :
    Option (List (Key Value) → List (Key Value) → Run (List (Key Value))) :=
  [("and", common), ("or", united), ("sub", without), ("xor", oneSided)].findSome? fun o =>
    if ["__" ++ o.1 ++ "__", "__r" ++ o.1 ++ "__", "__i" ++ o.1 ++ "__"].contains name then some o.2
    else none

/-! ## Sets -/

/-- Takes a member out of a set. -/
def takeMember (v : Value) (members : List (Key Value)) (x : Value) : Run Bool := do
  match ← memberPlace? (← soughtMember x) 0 members with
  | some place =>
    overwrite v (.set (members.eraseIdx place))
    return true
  | none => return false

/-- Carries out an operation on two sets. -/
def operateOnSets (c : MemberCall) (w : Value)
    (op : List (Key Value) → List (Key Value) → Run (List (Key Value))) : Run Value := do
  let h ← heap
  match h.ownMembers? c.self, h.ownMembers? w with
  | some ms, some ns =>
    if changesOperand c.name then
      overwrite c.self (.set (← op ms ns))
      return c.self
    else if (mirroredOperation? c.name).isSome then
      newSetOf (h.isOfKind w .frozenSet) (← op ns ms)
    else newSetOf (c.owner == .frozenSet) (← op ms ns)
  | _, _ => return .unanswered

/-- Compares a set with the elements of a value. -/
def compareMembers (c : MemberCall) (ms : List (Key Value)) (x : Value) : Run Bool := do
  let isMember := fun (v : Value) => do hasMember (← keyed v) ms
  match c.name, (← heap).ownMembers? x with
  | "isdisjoint", some ns => do return (← common ms ns).isEmpty
  | "isdisjoint", none => do return !(← anyFrom isMember (← cursor x))
  | "issuperset", some ns => membersWithin ms ns
  | "issuperset", none => do allFrom isMember (← cursor x)
  | _, _ => do membersWithin (← toMembers x) ms

/-- Carries out a method that changes a set. -/
def changeSet (c : MemberCall) (ms : List (Key Value)) : Run Value := do
  let put := fun (members : List (Key Value)) => changing (overwrite c.self (.set members))
  match c.name, c.arguments with
  | "add", [x] => do put (← insertMember ms (← keyed x))
  | "clear", _ => put []
  | "discard", [x] => changing (discard (takeMember c.self ms x))
  | "remove", [x] => do
    if ← takeMember c.self ms x then return .null else throw (.missingKey (some x))
  | "pop", _ =>
    match ms with
    | m :: rest => do
      discard (put rest)
      return m.value
    | [] => throw (.missingKey (some (.text "pop from an empty set")))
  | "update", args => do put (← args.foldlM (fun ms x => do united ms (← toMembers x)) ms)
  | "difference_update", args => do
    put (← args.foldlM (fun ms x => do without ms (← toMembers x)) ms)
  | "intersection_update", args => do
    put (← args.foldlM (fun ms x => do common ms (← toMembers x)) ms)
  | "symmetric_difference_update", [x] => do put (← oneSided ms (← toMembers x))
  | _, _ => return .null

/-- Carries out a method of sets. -/
def callOfSet (c : MemberCall) : Run Value := do
  let ms := ((← heap).members? c.self).getD []
  let result := newSetOf (c.owner == .frozenSet)
  match c.name, c.arguments, setOperation? c.name with
  | _, [w], some op => operateOnSets c w op
  | "copy", _, _ =>
    match c.self with
    | .frozenSet (.kind .frozenSet) .. => return c.self
    | _ => result ms
  | "union", args, _ => do result (← args.foldlM (fun ms x => do united ms (← toMembers x)) ms)
  | "difference", args, _ => do
    result (← args.foldlM (fun ms x => do without ms (← toMembers x)) ms)
  | "intersection", args, _ => do
    result (← args.foldlM (fun ms x => do common ms (← toMembers x)) ms)
  | "symmetric_difference", [x], _ => do result (← oneSided ms (← toMembers x))
  | "isdisjoint", [x], _ | "issubset", [x], _ | "issuperset", [x], _ => do
    return .bool (← compareMembers c ms x)
  | _, _, _ => changeSet c ms

/-! ## Parts of mappings -/

/-- Whether a collection has no element in common with an iteration. -/
def isApart (v x : Value) : Run Bool := do
  let h ← heap
  if v.identical x then return h.count v = 0
  let bySize := h.isSetLike x
  let (v, x) ← if bySize then pure (if (← size v) < (← size x) then (x, v) else (v, x))
    else pure (v, x)
  return !(← anyFrom (contains v) (← cursor x))

/-- The members of an iteration that occur in a part of a mapping. -/
def commonWith (v w : Value) : Run (List (Key Value)) := do
  fold (fun ms item => do
    if ← contains v item then insertMember ms (← keyed item) else return ms) [] (← cursor w)

/-- Carries out a method of the parts of mappings. -/
def callOfListing (c : MemberCall) : Run Value := do
  match c.name, c.arguments, setOperation? c.name with
  | "isdisjoint", [x], _ => do return .bool (← isApart c.self x)
  | "__and__", [w], _ | "__rand__", [w], _ => do newSetOf false (← commonWith c.self w)
  | _, [w], some op => do
    let ms ← toMembers c.self
    let ns ← toMembers w
    newSetOf false (← if (mirroredOperation? c.name).isSome then op ns ms else op ms ns)
  | _, _, _ => return .null

end Run

end ValueShape
