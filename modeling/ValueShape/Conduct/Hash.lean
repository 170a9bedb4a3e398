import ValueShape.Conduct.Equality

/-!
# Hashing values

What a value is found by as a key.

* `Run.hashOnce` is the hash of a value, by the method of its class.  A value without one cannot be
  a key.
* `Run.nativeHash` is the hash by the method of a kind.  Values with parts are hashed by their
  parts, and the members of a set keep the hashes that they were stored with.
* `Value.token` tells apart values that equal nothing but themselves.
-/

set_option autoImplicit false

namespace ValueShape

/-- What tells apart values that equal nothing but themselves. -/
def Value.token : Value → Token
  | .null => .only .null
  | .undefined => .only .undefined
  | .ref p => .place p
  | .rule id _ | .generic id _ _ _ => .id id
  | .leaf l => .leaf l
  | .operation o => .operation o
  | .builtin _ b => .builtin b.name
  | .ofClass c => .cls c
  | .field owner name => .field owner name
  | .object 0 (.kind k) => .only k
  | v => .id (v.id?.getD 0)

/-- The hash of a value by what it is and nothing else. -/
def Value.identityHash (v : Value) : Hash := .token v.token

namespace Run

/-- The hash that a method gives. -/
def hashGivenBy (result : Value) : Run Hash := do
  match result.index? with
  | some n => return hashGiven n
  | none => throw (.badType (Method.hash.name ++ " method should return an integer"))

/-- The hash of a range: its length, its first element and the distance of the elements, as far as
they matter. -/
def hashRange (start stop step : Int) : Hash :=
  let length := rangeLength start stop step
  let null := Value.null.identityHash
  if length = 0 then .parts [hashInt 0, null, null]
  else if length = 1 then .parts [hashInt 1, hashInt start, null]
  else .parts [hashInt length, hashInt start, hashInt step]

/-- The hash of a value, by the method of a kind whose values have hashes. -/
def nativeHash (k : Kind) (v : Value) : Run Hash := do
  match k, v with
  | .keyed, v => do hash (← readAttribute v keyAttribute)
  | _, .bool b => return hashInt (if b then 1 else 0)
  | _, .scalar _ _ (.int n) => return hashInt n
  | _, .scalar _ _ (.float bits) => return hashDouble v.identityHash bits
  | _, .scalar _ _ (.text s) => return hashText s
  | _, .scalar _ _ (.bytes bs) => return hashBytes bs
  | _, .complex _ _ re im => return hashComplex v.identityHash re im
  | _, .tuple _ _ items => do return .parts (← items.mapM hash)
  | _, .frozenSet _ _ members => return .members (members.map (·.hash))
  | _, .range _ start stop step => return hashRange start stop step
  | _, .metadata .. | _, .options .. => do return .parts (← (← readFields v).mapM hash)
  | _, .generic _ _ origin p => do
    return .parts [.token (.cls origin), .parts (← (parameters p).mapM hash)]
  | _, .method _ fn self => return .parts [fn.identityHash, self.identityHash]
  | _, v => return v.identityHash

/-- What a value is found by, where parts are hashed under the conduct at hand. -/
def hashOnce (v : Value) : Run Hash := do
  let h ← heap
  let refusal := Failure.unhashable (h.qualifiedTypeName v)
  match h.slot? .hash v with
  | some (.assigned .null) => throw refusal
  | some (.assigned method) => do hashGivenBy (← callBound method v [])
  | some (.native k) => if k.isHashable then nativeHash k v else throw refusal
  | none => return v.identityHash

end Run

end ValueShape
