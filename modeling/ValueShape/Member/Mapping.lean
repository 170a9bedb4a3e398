import ValueShape.Creation
import ValueShape.Member.Arity

/-!
# Methods of mappings

`Run.callOfMapping` carries out the methods of mappings, apart from those that operations are carried
out by, and `Run.callOfView` those of read-only mappings, which ask the value that they show.

* `Run.updateEntries` puts the entries that a value amounts to into a mapping, one after the other.
* `Run.takeEntry?` takes an entry out, if there is one.
* The keys, the values and the entries are shown as collections that change with the mapping.
-/

set_option autoImplicit false

namespace ValueShape

namespace Run

/-! ## Entries -/

/-- The place of the entry under a key. -/
def entryPlace? (key : Key Value) : Nat → List Entry → Run (Option Nat)
  | _, [] => return none
  | place, e :: es => do
    if ← isKey key e.1 then return some place else entryPlace? key (place + 1) es

/-- Takes an entry out of a mapping. -/
def takeEntry? (v x : Value) : Run (Option Entry) := do
  let key ← keyed x
  match ← entryPlace? key 0 (((← heap).entries? v).getD []) with
  | none => return none
  | some place =>
    let es := ((← heap).entries? v).getD []
    overwrite v (.dict (es.eraseIdx place))
    return es[place]?

/-- Puts the entries that a value amounts to into a mapping. -/
def updateEntries (v x : Value) : Run Unit := do
  let h ← heap
  match h.entries? x, h.slot? .iteration x with
  | some es, some (.native .dict) => do
    let own := ((← heap).entries? v).getD []
    overwrite v (.dict (← es.foldlM (fun es e => insertEntry e.1 e.2 es) own))
  | _, _ =>
    if ← hasKeys x then
      fold (fun _ key => do nativeSetItem v key (← item x key)) () (← allKeys x)
    else
      discard <| each (fun place pair => do
        let (key, value) ← readPair place pair
        nativeSetItem v key value) (← cursor x)

/-- Updates a mapping by the way of its kind. -/
def updateMapping (k : Kind) (v x : Value) : Run Unit :=
  if k == .orderedDict then fillOrdered v x else updateEntries v x

/-! ## New mappings -/

/-- A new mapping with the entries of another one.  An ordered one is of the same class. -/
def copiedMapping (c : MemberCall) : Run Value := do
  let es := ((← heap).entries? c.self).getD []
  match c.owner, (← heap).classOf c.self with
  | .orderedDict, .kind .orderedDict => alloc (.kind .orderedDict) (.dict es)
  | .orderedDict, cls => do
    let made ← call (.ofClass cls) []
    es.forM fun e => discard do setItem made e.1.value (← item c.self e.1.value)
    return made
  | _, _ => alloc (.kind .dict) (.dict es)

/-- A new mapping with the entries of two others, if they are such. -/
def unitedMappings (k : Kind) (v w : Value) : Run Value := do
  let h ← heap
  match h.entries? v, h.entries? w with
  | some es, some _ => do
    let made ← if k == .orderedDict then
        call (.ofClass (h.classOf (if h.isOfKind v .orderedDict then v else w))) [v]
      else alloc (.kind .dict) (.dict es)
    updateMapping k made w
    return made
  | _, _ => return .unanswered

/-- A new mapping of a class, with one value under all keys that an iteration yields. -/
def fromKeys (cls : Class) (keys value : Value) : Run Value := do
  let made ← call (.ofClass cls) []
  fold (fun _ key => do discard (setItem made key value)) () (← cursor keys)
  return made

/-! ## Methods -/

/-- The failure of taking an entry out of a mapping without entries. -/
def emptyMapping (k : Kind) : Failure :=
  .missingKey (some (.text
    (if k == .orderedDict then "dictionary is empty" else "popitem(): dictionary is empty")))

/-- Moves an entry of an ordered mapping to one of its ends. -/
def moveToEnd (v key : Value) (last : Bool) : Run Value := do
  match ← takeEntry? v key with
  | none => throw (.missingKey (some key))
  | some e =>
    let es := ((← heap).entries? v).getD []
    changing (overwrite v (.dict (if last then es ++ [e] else e :: es)))

/-- Whether an argument says that something is done at the end, which it does if it is left out. -/
def atEnd (v : Option Value) : Run Bool := v.elim (pure true) truth

/-- Carries out a method of mappings. -/
def callOfMapping (c : MemberCall) : Run Value := do
  let entries : Run (List Entry) := do return ((← heap).entries? c.self).getD []
  let default := c.arguments[1]?
  match c.name, c.arguments with
  | "clear", _ => changing (overwrite c.self (.dict []))
  | "copy", _ => copiedMapping c
  | "pop", x :: _ => do
    if c.owner == .dict && (← entries).isEmpty then
      match default with
      | some value => return value
      | none => throw (.missingKey (some x))
    match ← takeEntry? c.self x, default with
    | some e, _ => return e.2
    | none, some value => return value
    | none, none => throw (.missingKey (some x))
  | "popitem", args => do
    let last ← atEnd args.head?
    let es ← entries
    match (if last then es.getLast? else es.head?) with
    | some (key, value) =>
      overwrite c.self (.dict (if last then es.dropLast else es.drop 1))
      tuple [key.value, value]
    | none => throw (emptyMapping c.owner)
  | "setdefault", x :: _ => do
    let key ← keyed x
    let value := default.getD .null
    match ← entryUnder? key (← entries) with
    | some found => return found
    | none =>
      overwrite c.self (.dict ((← entries) ++ [(key, value)]))
      return value
  | "update", args => changing (args.forM (updateMapping c.owner c.self))
  | "move_to_end", x :: _ => do moveToEnd c.self x (← atEnd default)
  | "__delitem__", [x] => do
    match ← takeEntry? c.self x with
    | some _ => return .null
    | none => throw (.missingKey (some x))
  | "__or__", [w] => unitedMappings c.owner c.self w
  | "__ror__", [w] => unitedMappings c.owner w c.self
  | "__ior__", [w] => do
    updateMapping c.owner c.self w
    return c.self
  | _, _ => return .null

/-! ## Read-only mappings

A read-only mapping leaves its methods to what it shows, which may be of a class of the caller's
own. -/

/-- What a read-only mapping shows. -/
def shownBy : Value → Value
  | .view _ source => source
  | v => v

/-- The two values that are united, each of them or what it shows. -/
def unitedViews (v w : Value) : Run Value := do
  let h ← heap
  let (v, w) := (shownBy v, shownBy w)
  let ordered := h.isOfKind v .orderedDict || h.isOfKind w .orderedDict
  match ← (if h.isOfKind v .dict then
      unitedMappings (if ordered then .orderedDict else .dict) v w else pure .unanswered) with
  | .object _ (.kind .notImplemented) =>
    throw (.badType ("unsupported operand type(s) for |: '" ++
      Failure.moreBriefly (h.qualifiedTypeName v) ++ "' and '" ++
      Failure.moreBriefly (h.qualifiedTypeName w) ++ "'"))
  | made => return made

/-- Carries out a method of read-only mappings. -/
def callOfView (c : MemberCall) : Run Value := do
  match c.name, c.arguments with
  | "__or__", [w] => unitedViews c.self w
  | "__ror__", [w] => unitedViews w c.self
  | "__ior__", _ => throw (.badType "'|=' is not supported by mappingproxy; use '|' instead")
  | "get", [key] => do call (← readAttribute (shownBy c.self) c.name) [key, .null]
  | name, args => do call (← readAttribute (shownBy c.self) name) args

end Run

end ValueShape
