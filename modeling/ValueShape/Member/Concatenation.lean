import ValueShape.Conduct.Order
import ValueShape.Member.Bytes
import ValueShape.Member.Text

/-!
# Sequences after each other

Putting sequences one after the other, and repeating them.

* `Run.concatenated` is a new sequence with the parts of two others, which have to be of one kind.
  `Run.repeated` has the parts of one over and over again.
* `Run.extendItems` adds the elements of any value to a list or a queue.  If iteration over the value
  fails, the elements before that are added all the same.
* `Run.callOfConcatenation?` carries out the methods for all this, which lists, tuples, queues, texts
  and bytes have in common.
-/

set_option autoImplicit false

namespace ValueShape

namespace Run

/-! ## Parts -/

/-- Puts elements into a list or a queue, in place of all that are there. -/
def replaceItems (v : Value) (items : List Value) : Run Unit := do
  match (← heap).contents? v with
  | some (.queue _) => overwrite v (.queue items)
  | some (.list _) => overwrite v (.list items)
  | _ => return ()

/-- The elements that an iteration yields up to its end, or up to a failure; at most `fuel` of them,
behind those that are there already, the last one first. -/
def readUpTo : Nat → List Value → Cursor → Run (List Value × Option Failure)
  | 0, done, _ => return (done, some .noMemory)
  | fuel + 1, done, c => do
    match ← tryCatch (Except.ok <$> next c) fun e => return Except.error e with
    | .ok (some (item, c)) => readUpTo fuel (item :: done) c
    | .ok none => return (done, none)
    | .error e => return (done, some e)

/-- Adds the elements of a value to a list or a queue by means of `add`, which is given the elements
that are there and those that come, the last one first. -/
def extendBy (add : List Value → List Value → List Value) (v x : Value) : Run Unit := do
  let c ← if v.identical x then pure (.rest (((← heap).contained? x).getD [])) else cursor x
  if ((← heap).list? v).isSome then reserve x
  let (added, failure?) ← readUpTo (← limit c) [] c
  replaceItems v (add (((← heap).contained? v).getD []) added)
  failure?.forM throw

/-- Adds the elements of a value at the end of a list or a queue. -/
def extendItems (v x : Value) : Run Unit :=
  extendBy (fun items added => items ++ added.reverse) v x

/-! ## Concatenation

Two sequences can be put together if they are of the same kind, where bytes and buffers count as
one.  The result is of the built-in class, except for queues. -/

/-- The failure of concatenating a sequence and something else. -/
def notConcatenable (k : Kind) (w : Value) : Run Failure := do
  let typeName := (← heap).qualifiedTypeName w
  let name := k.name
  return .badType <| if k == .bytes || k == .buffer then
      "can't concat " ++ Failure.moreBriefly typeName ++ " to " ++ name
    else
      "can only concatenate " ++ name ++ " (not \"" ++ Failure.briefly typeName ++ "\") to " ++ name

/-- Parts of a sequence of some kind, if a value is one. -/
def requireParts {α : Type} (k : Kind) (w : Value) (parts? : Option α) : Run α := do
  match parts? with
  | some parts => return parts
  | none => throw (← notConcatenable k w)

/-- A new queue of the class of another one, with the same elements. -/
def copiedQueue (v : Value) : Run Value := do
  match (← heap).classOf v with
  | .kind .queue => alloc (.kind .queue) (.queue (((← heap).queue? v).getD []))
  | cls => call (.ofClass cls) [v]

/-- Whether a tuple or a string of bytes of the built-in class can stand for a concatenation, since
nothing is added to it. -/
def standsFor (k : Kind) (v : Value) : Bool :=
  match k, v with
  | .tuple, .tuple (.kind .tuple) .. | .bytes, .scalar (.kind .bytes) .. => true
  | _, _ => false

/-- The parts of two sequences in a new one. -/
def concatenated (c : MemberCall) (w : Value) : Run Value := do
  let h ← heap
  let v := c.self
  match c.owner with
  | .list => do list ((h.list? v).getD [] ++ (← requireParts .list w (h.list? w)))
  | .tuple => do
    let others ← requireParts .tuple w (Heap.tuple? w)
    let own := (Heap.tuple? v).getD []
    if own.isEmpty && standsFor .tuple w then return w
    if others.isEmpty && standsFor .tuple v then return v
    tuple (own ++ others)
  | .queue => do
    let others ← requireParts .queue w (h.queue? w)
    let made ← copiedQueue v
    replaceItems made ((((← heap).queue? made).getD []) ++ others)
    return made
  | .text => do
    let own := (v.text?.getD "").toList
    let others := (← requireParts .text w w.text?).toList
    textResult { c with self := if own.isEmpty then w else v } (own ++ others)
  | k => do
    let own := (h.bytes? v).getD []
    let others ← requireParts k w (h.bytes? w)
    let kept := if own.isEmpty && k == .bytes && standsFor k w then w else v
    bytesResult { c with self := kept } (own ++ others)

/-! ## Repetition -/

/-- How often a sequence is to be repeated. -/
def repeatCount (x : Value) : Run Nat := do
  return (← fitting .tooLarge x (← asIndex x)).toNat

/-- Parts over and over again, if there is room for them. -/
def repeatParts {α : Type} (tooMany : Failure) (parts : List α) (n : Nat) : Run (List α) := do
  if maxIndex ≤ parts.length * n then throw tooMany
  if maxListLength ≤ parts.length * n then throw .noMemory
  return (List.replicate n parts).flatten

/-- The parts of a sequence over and over again, in a new one. -/
def repeated (c : MemberCall) (n : Nat) : Run Value := do
  let h ← heap
  let v := c.self
  match c.owner with
  | .list => do list (← repeatParts .noMemory ((h.list? v).getD []) n)
  | .tuple => do
    let own := (Heap.tuple? v).getD []
    if (own.isEmpty || n == 1) && standsFor .tuple v then return v
    tuple (← repeatParts .noMemory own n)
  | .queue => do
    let items ← repeatParts .noMemory ((h.queue? v).getD []) n
    let made ← copiedQueue v
    replaceItems made items
    return made
  | .text => do
    textResult c (← repeatParts (.tooLarge "repeated string is too long")
      (v.text?.getD "").toList n)
  | .bytes => do
    bytesResult c (← repeatParts (.tooLarge "repeated bytes are too long") ((h.bytes? v).getD []) n)
  | _ => do bytesResult c (← repeatParts .noMemory ((h.bytes? v).getD []) n)

/-! ## Methods -/

/-- Repeats the parts of a sequence that can change in their place. -/
def repeatInPlace (v : Value) (n : Nat) : Run Unit := do
  match (← heap).contents? v with
  | some (.buffer bs) => do overwrite v (.buffer (← repeatParts .noMemory bs n))
  | _ => do replaceItems v (← repeatParts .noMemory (((← heap).contained? v).getD []) n)

/-- Adds the parts of a value to a sequence that can change. -/
def extendInPlace (c : MemberCall) (x : Value) : Run Unit := do
  let h ← heap
  match h.contents? c.self with
  | some (.buffer bs) => do
    overwrite c.self (.buffer (bs ++ (← requireParts .buffer x (h.bytes? x))))
  | _ => extendItems c.self x

/-- Carries out a method for concatenating or repeating sequences, if it is one. -/
def callOfConcatenation? (c : MemberCall) : Option (Run Value) :=
  match c.name, c.arguments with
  | "__add__", [w] => some (concatenated c w)
  | "__mul__", [x] | "__rmul__", [x] => some do repeated c (← repeatCount x)
  | "__iadd__", [x] => some do
    extendInPlace c x
    return c.self
  | "__imul__", [x] => some do
    repeatInPlace c.self (← repeatCount x)
    return c.self
  | _, _ => none

end Run

end ValueShape
